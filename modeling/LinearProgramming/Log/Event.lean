import LinearProgramming.Code

/-!
Events: what calls and solver runs report.

Nothing is logged while a call runs.  The events of a call follow from the call
and from what it answered, so the functions of this folder compute them from
both.
-/

namespace LinearProgramming.Log

inductive Level where
  | trace
  | debug
  | info
  | warn
  deriving DecidableEq, Repr

instance : Named Level where
  values := [.trace, .debug, .info, .warn]
  name
    | .trace => "trace"
    | .debug => "debug"
    | .info => "info"
    | .warn => "warn"

def Level.rank : Level → Nat
  | trace => 0
  | debug => 1
  | info => 2
  | warn => 3

def Level.title : Level → String
  | trace => "TRACE"
  | debug => "DEBUG"
  | info => "INFO"
  | warn => "WARN"

inductive Component where
  | engine
  | handle
  | problem
  | solver
  deriving DecidableEq, Repr

instance : Named Component where
  values := [.engine, .handle, .problem, .solver]
  name
    | .engine => "engine"
    | .handle => "handle"
    | .problem => "problem"
    | .solver => "solver"

inductive Detail where
  | number (value : Int)
  | flag (value : Bool)
  | text (value : String)
  deriving DecidableEq, Repr

structure Event where
  level : Level
  component : Component
  operation : String
  message : Option String
  details : List (String × Detail)
  deriving DecidableEq, Repr

def Detail.count (value : Nat) : Detail :=
  .number value

def Detail.choice {A : Type} [Named A] (value : A) : Detail :=
  .text (Named.name value)

def Event.reaches (event : Event) (least : Level) : Bool :=
  decide (least.rank ≤ event.level.rank)

def note (level : Level) (component : Component) (operation : String)
    (details : List (String × Detail)) : Event where
  level
  component
  operation
  message := none
  details

def say (level : Level) (component : Component) (operation message : String)
    (details : List (String × Detail)) : Event where
  level
  component
  operation
  message := some message
  details

end LinearProgramming.Log
