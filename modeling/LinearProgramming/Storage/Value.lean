import LinearProgramming.Code
import LinearProgramming.Word

/-!
The stored form of values.

A `Value` shows its own shape.  Structures are stored as records of their fields
and are also loaded from lists of just as many values; a record may hold further
fields, which are ignored.  A choice is stored as its name.
-/

namespace LinearProgramming.Storage

inductive Value where
  | null
  | flag (value : Bool)
  | whole (value : Int)
  | real (value : Float)
  | text (value : String)
  | list (values : List Value)
  | record (fields : List (String × Value))

namespace Value

/-- Whether a value can hold the named fields: a record, or a list of as many
values. -/
def fits (names : List String) : Value → Bool
  | list values => values.length == names.length
  | record _ => true
  | _ => false

def holdsOnly (names : List String) : Value → Bool
  | record fields => fields.all fun field => names.contains field.1
  | _ => true

def field? (names : List String) (value : Value) (name : String) : Option Value :=
  match value with
  | list values => do values[← names.idxOf? name]?
  | record fields => fields.lookup name
  | _ => none

def case? : Value → Option (String × Value)
  | text name => some (name, null)
  | record [field] => some field
  | _ => none

end Value

class Stored (A : Type) where
  store : A → Value
  load? : Value → Option A

def required {A : Type} [Stored A] (field : Option Value) : Option A := do
  Stored.load? (← field)

/-- A field that may be missing, which counts as nothing. -/
def optional {A : Type} [Stored A] (field : Option Value) : Option (Option A) :=
  match field with
  | none => some none
  | some .null => some none
  | some value => (Stored.load? value).map some

def loadBelow? (bound : Nat) : Value → Option Nat
  | .whole value => if 0 ≤ value ∧ value < bound then some value.toNat else none
  | _ => none

instance : Stored Bool where
  store := .flag
  load?
    | .flag value => some value
    | _ => none

instance : Stored Int where
  store := .whole
  load?
    | .whole value => some value
    | _ => none

instance : Stored String where
  store := .text
  load?
    | .text value => some value
    | _ => none

instance : Stored Float where
  store := .real
  load?
    | .whole value => some (Float.ofInt value)
    | .real value => some value
    | _ => none

/-- Natural numbers are stored in 64 bits. -/
instance : Stored Nat where
  store value := .whole value
  load? := loadBelow? Word.values64

instance {A : Type} [Stored A] : Stored (List A) where
  store values := .list (values.map Stored.store)
  load?
    | .list values => values.mapM Stored.load?
    | _ => none

instance {A B : Type} [Stored A] [Stored B] : Stored (A × B) where
  store pair := .list [Stored.store pair.1, Stored.store pair.2]
  load?
    | .list [first, second] => do pure (← Stored.load? first, ← Stored.load? second)
    | _ => none

instance {A : Type} [Stored A] : Stored (Option A) where
  store
    | none => .null
    | some value => Stored.store value
  load? value := optional (some value)

instance {A : Type} [Named A] : Stored A where
  store value := .text (Named.name value)
  load? value := do
    match ← value.case? with
    | (name, .null) => Named.ofName? name
    | _ => none

end LinearProgramming.Storage
