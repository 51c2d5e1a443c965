import LinearProgramming.Config.Basic
import LinearProgramming.Decimal.Shortest
import LinearProgramming.Text.Quoted
import LinearProgramming.Word
import LinearProgramming.Workspace.Misuse

/-!
What the checked operations on a problem are refused for.

Every error belongs to a kind, has a stable identifier, and one text.
-/

namespace LinearProgramming

inductive ErrorKind where
  | structural
  | allocation
  | numerical
  | precondition
  | configuration
  | engine
  deriving DecidableEq, Repr

instance : Named ErrorKind where
  values := [.structural, .allocation, .numerical, .precondition, .configuration, .engine]
  name
    | .structural => "Structural"
    | .allocation => "Allocation"
    | .numerical => "Numerical"
    | .precondition => "Precondition"
    | .configuration => "Configuration"
    | .engine => "Engine"

inductive Error (K : Type) where
  | invalidRowIndex (index count : Nat)
  | invalidColumnIndex (index count : Nat)
  | mismatchedLength (indices values : Nat)
  | inconsistentBounds (kind : BoundKind) (lower upper : K)
  | duplicateIndex (index : Nat)
  | invalidName (name : String)
  | allocationFailed (target : String)
  | badBasis (algorithm : Algorithm)
  | singularMatrix (algorithm : Algorithm)
  | illConditioned (algorithm : Algorithm)
  | noConvergence (algorithm : Algorithm)
  | numericalInstability (algorithm : Algorithm)
  | solverNotRun (algorithm : Algorithm)
  | noIntegerColumns
  | incorrectBounds (algorithm : Algorithm)
  | noRootBasis
  | config (error : ConfigError K)
  | invalidCode (error : InvalidCode)
  | engineFailure (algorithm : Algorithm) (code : Int)

namespace Error

variable {K : Type}

def kind : Error K → ErrorKind
  | invalidRowIndex _ _ => .structural
  | invalidColumnIndex _ _ => .structural
  | mismatchedLength _ _ => .structural
  | inconsistentBounds _ _ _ => .structural
  | duplicateIndex _ => .structural
  | invalidName _ => .structural
  | allocationFailed _ => .allocation
  | badBasis _ => .numerical
  | singularMatrix _ => .numerical
  | illConditioned _ => .numerical
  | noConvergence _ => .numerical
  | numericalInstability _ => .numerical
  | solverNotRun _ => .precondition
  | noIntegerColumns => .precondition
  | incorrectBounds _ => .precondition
  | noRootBasis => .precondition
  | config _ => .configuration
  | invalidCode _ => .engine
  | engineFailure _ _ => .engine

def identifier : Error K → String
  | invalidRowIndex _ _ => "invalid_row_index"
  | invalidColumnIndex _ _ => "invalid_column_index"
  | mismatchedLength _ _ => "mismatched_length"
  | inconsistentBounds _ _ _ => "inconsistent_bounds"
  | duplicateIndex _ => "duplicate_index"
  | invalidName _ => "invalid_name"
  | allocationFailed _ => "allocation_failed"
  | badBasis _ => "bad_basis"
  | singularMatrix _ => "singular_matrix"
  | illConditioned _ => "ill_conditioned"
  | noConvergence _ => "no_convergence"
  | numericalInstability _ => "numerical_instability"
  | solverNotRun _ => "solver_not_run"
  | noIntegerColumns => "no_integer_columns"
  | incorrectBounds _ => "incorrect_bounds"
  | noRootBasis => "no_root_basis"
  | config _ => "invalid_config"
  | invalidCode _ => "invalid_native_code"
  | engineFailure _ _ => "engine_failure"

end Error

/-- A return code in hexadecimal, a negative one by its 32-bit complement. -/
def codeText (code : Int) : String :=
  "0x" ++ Text.hexadecimal (code % Word.values32).toNat

def InvalidCode.message (error : InvalidCode) : String :=
  s!"invalid {error.typeName} code: {error.code}"

def ConfigError.message : ConfigError Float → String
  | invalidTolerance name value =>
      s!"{name} must be a non-negative number, got {Decimal.exact value}"
  | nonPositiveTimeLimit => "time limit must be positive"
  | zeroIterationLimit => "iteration limit must be positive"
  | gapOutOfRange gap => s!"mip gap must be in [0, 1), got {Decimal.exact gap}"
  | invalidObjectiveLimit => "objective limits must not be NaN"
  | objectiveLimitsCrossed lower upper =>
      s!"objective lower limit {Decimal.exact lower} exceeds upper limit {Decimal.exact upper}"

def Error.message : Error Float → String
  | invalidRowIndex index count => s!"row index {index} out of range 1..={count}"
  | invalidColumnIndex index count => s!"column index {index} out of range 1..={count}"
  | mismatchedLength indices values =>
      s!"index and value arrays differ in length ({indices} vs {values})"
  | inconsistentBounds kind lower upper =>
      s!"inconsistent {Named.name kind} bound: " ++
        s!"lower {Decimal.exact lower} > upper {Decimal.exact upper}"
  | duplicateIndex index => s!"index {index} listed more than once"
  | invalidName name => s!"name contains an interior NUL byte: {Text.quoted name}"
  | allocationFailed target => s!"engine could not allocate {target}"
  | badBasis algorithm => s!"{algorithm.title}: invalid initial basis"
  | singularMatrix algorithm => s!"{algorithm.title}: basis matrix is singular"
  | illConditioned algorithm => s!"{algorithm.title}: basis matrix is ill-conditioned"
  | noConvergence algorithm => s!"{algorithm.title}: no convergence"
  | numericalInstability algorithm => s!"{algorithm.title}: numerical instability"
  | solverNotRun algorithm =>
      s!"no {algorithm.title} solution available; solve the problem first"
  | noIntegerColumns => "branch-and-cut requires at least one integer or binary column"
  | incorrectBounds algorithm => s!"{algorithm.title}: engine rejected the variable bounds"
  | noRootBasis => "branch-and-cut: relaxation has no optimal basis"
  | config error => error.message
  | invalidCode error => error.message
  | engineFailure algorithm code =>
      s!"{algorithm.title}: engine failed with return code {codeText code}"

/-- Why a checked operation did not succeed: it was refused with an error, or the
numbered call below it was misused. -/
inductive Failure (K : Type) where
  | error (error : Error K)
  | misuse (misuse : Misuse)

end LinearProgramming
