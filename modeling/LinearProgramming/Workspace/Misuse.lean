/-!
Misuse of the numbered calls of a workspace.

A call that is misused answers nothing and changes nothing.
-/

namespace LinearProgramming

inductive Misuse where
  | noProblem
  | noParameters
  | rowOutOfRange (row : Int)
  | columnOutOfRange (column : Int)
  | invalidCount (length : Int)
  | noArray (length : Int)
  | invalidBoundType (type : Int)
  | invalidDirection (direction : Int)
  | invalidColumnKind (column kind : Int)
  | duplicateNumbers (given distinct : Nat)
  deriving DecidableEq, Repr

def Misuse.message (call : String) : Misuse → String
  | noProblem => s!"{call}: null problem pointer"
  | noParameters => s!"{call}: null parameter block"
  | rowOutOfRange row => s!"{call}: i = {row}; row number out of range"
  | columnOutOfRange column => s!"{call}: j = {column}; column number out of range"
  | invalidCount length => s!"{call}: len = {length}; invalid count"
  | noArray length => s!"{call}: null array with len = {length}"
  | invalidBoundType type => s!"{call}: type = {type}; invalid type"
  | invalidDirection direction => s!"{call}: dir = {direction}; invalid direction flag"
  | invalidColumnKind column kind => s!"{call}: j = {column}; kind = {kind}; invalid column kind"
  | duplicateNumbers given distinct =>
      s!"assertion `left == right` failed: {call}: duplicate numbers not allowed\n" ++
        s!"  left: {given}\n right: {distinct}"

end LinearProgramming
