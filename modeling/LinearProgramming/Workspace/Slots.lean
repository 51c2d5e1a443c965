import LinearProgramming.Word
import LinearProgramming.Workspace.Misuse

/-!
Arrays of the numbered calls.

Slot 0 of an array is never read or written: the `n` entries of a call stand in
slots 1 to `n`.  An array may be missing where a call needs no entries of it.  Numbers
in calls have 32 bits and a sign.
-/

namespace LinearProgramming.Slots

variable {A : Type}

/-- A natural number in 32 bits with a sign, which wrap around. -/
def narrow (number : Nat) : Int :=
  Int.bmod number Word.values32

/-- A number in 64 bits without a sign, which wrap around. -/
def widen (number : Int) : Nat :=
  (number % Word.values64).toNat

def count (length : Int) : Except Misuse Nat :=
  if length < 0 then throw (.invalidCount length) else pure length.toNat

def read (length : Nat) (slots : Option (List A)) : Except Misuse (List A) :=
  if length = 0 then pure []
  else
    match slots with
    | none => throw (.noArray length)
    | some all => pure ((all.drop 1).take length)

/-- An array with entries written from slot 1 on. -/
def write (entries slots : List A) : List A :=
  slots.take 1 ++ entries ++ slots.drop (entries.length + 1)

/-- The array that hands entries to a call. -/
def ofEntries (unused : A) (entries : List A) : List A :=
  unused :: entries

def filled (capacity : Nat) (value : A) : List A :=
  List.replicate (capacity + 1) value

end LinearProgramming.Slots
