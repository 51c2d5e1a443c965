import LinearProgramming.Clock
import LinearProgramming.Outcome
import LinearProgramming.Simplex.Pricing

/-!
The two-phase primal simplex method.

Phase one drives the artificial columns to zero; phase two optimizes the
objective without them.  Both phases pivot by `improve`, which ends because the
pivot limit bounds it.
-/

namespace LinearProgramming.Simplex

variable {K : Type} [Scalar K]

inductive Limit where
  | iterations
  | time
  | objectiveBelow
  | objectiveAbove
  deriving DecidableEq, Repr

def Limit.returnCode : Limit → ReturnCode
  | iterations => .iterationLimit
  | time => .timeLimit
  | objectiveBelow => .objectiveBelowLimit
  | objectiveAbove => .objectiveAboveLimit

inductive Ending where
  | optimal
  /-- A column improves the objective without limit. -/
  | unbounded
  | stopped (limit : Limit)
  deriving DecidableEq, Repr

structure Progress (K : Type) where
  tableau : Tableau K
  pivots : Nat
  degenerate : Nat

/-- Whether Bland's rule is in force. -/
def Progress.bland (progress : Progress K) : Bool :=
  decide (degenerateStreak ≤ progress.degenerate)

def isDegenerate (options : Options K) (tableau : Tableau K) (row : Nat) : Bool :=
  match tableau.rows[row]? with
  | none => false
  | some chosen => decide (Scalar.absolute chosen.equation.rhs ≤ options.boundTolerance)

/-- One counted pivot. -/
def Progress.step (options : Options K) (progress : Progress K) (row column : Nat) :
    Progress K where
  tableau := progress.tableau.pivot row column
  pivots := progress.pivots + 1
  degenerate := if isDegenerate options progress.tableau row then progress.degenerate + 1 else 0

/-- Pivots on columns below `columns` until nothing improves, a limit is hit, or
`watch` objects to a tableau.  The clock is read before every pivot. -/
def improve (options : Options K) (clock : Clock) (columns : Nat)
    (watch : Tableau K → Option Limit) :
    (remaining : Nat) → Progress K → Progress K × Ending
  | 0, progress => (progress, .stopped .iterations)
  | remaining + 1, progress =>
      if options.outOfTime (clock progress.pivots) then (progress, .stopped .time)
      else
        match enteringColumn options progress.bland progress.tableau columns with
        | none => (progress, .optimal)
        | some column =>
            match leavingRow options progress.bland progress.tableau column with
            | none => (progress, .unbounded)
            | some row =>
                let next := progress.step options row column
                match watch next.tableau with
                | some limit => (next, .stopped limit)
                | none => improve options clock columns watch remaining next

def artificialObjective (tableau : Tableau K) : Equation K :=
  tableau.rows.foldl
    (fun objective row =>
      if tableau.artificialStart ≤ row.basic then objective.add row.equation else objective)
    ⟨Dense.zeros tableau.artificialStart ++ List.replicate tableau.artificials (-1), 0⟩

/-- An objective with all basic columns removed. -/
def priceOut (objective : Equation K) (rows : List (Row K)) : Equation K :=
  rows.foldl (fun objective row => objective.eliminate row.basic row.equation) objective

/-- Whether an artificial column is basic at a positive value. -/
def artificialRemains (options : Options K) (tableau : Tableau K) : Bool :=
  tableau.rows.any fun row =>
    decide (tableau.artificialStart ≤ row.basic) &&
      decide (options.boundTolerance < row.equation.rhs)

def driveOut (options : Options K) (tableau : Tableau K) (index : Nat) : Tableau K :=
  match tableau.rows[index]? with
  | none => tableau
  | some row =>
      if row.basic < tableau.artificialStart then tableau
      else
        let entries := row.equation.coefficients.take tableau.artificialStart
        match entries.findIdx? fun value => decide (options.pivotTolerance < Scalar.absolute value)
        with
        | none => tableau
        | some column => tableau.pivot index column

/-- How phase one ended. -/
inductive PhaseOneEnding where
  | feasible
  | infeasible
  | stopped (limit : Limit)
  deriving DecidableEq, Repr

/-- Phase one: looks for a basis without artificial columns, and puts the
objective back in place. -/
def phaseOne (options : Options K) (clock : Clock) (start : Tableau K) :
    Progress K × PhaseOneEnding :=
  let objective := start.objective
  let (progress, ending) :=
    improve options clock start.columns (fun _ => none) options.pivotLimit
      { tableau := { start with objective := artificialObjective start }
        pivots := 0
        degenerate := 0 }
  match ending with
  | .stopped limit =>
      ({ progress with tableau := { progress.tableau with objective } }, .stopped limit)
  | _ =>
      let infeasible := artificialRemains options progress.tableau
      let cleared :=
        if infeasible then progress.tableau
        else (List.range progress.tableau.rows.length).foldl (driveOut options) progress.tableau
      let restored := { cleared with objective := priceOut objective cleared.rows }
      ({ progress with tableau := restored }, if infeasible then .infeasible else .feasible)

def findBasis (options : Options K) (clock : Clock) (start : Tableau K) :
    Progress K × PhaseOneEnding :=
  if start.artificials = 0 then
    ({ tableau := start, pivots := 0, degenerate := 0 }, .feasible)
  else phaseOne options clock start

/-- The objective limit that a tableau has passed, if any. -/
def passedLimit (options : Options K) (program : Program K) (form : StandardForm K)
    (tableau : Tableau K) : Option Limit :=
  if options.watchesObjective then
    let objective := program.objective (form.columns tableau.values)
    match program.direction with
    | .minimize => if objective < options.objectiveLower then some .objectiveBelow else none
    | .maximize => if options.objectiveUpper < objective then some .objectiveAbove else none
  else none

/-- Phase two: optimizes over variables and slacks.  Its first reading of the clock
comes after the last one of phase one. -/
def phaseTwo (options : Options K) (clock : Clock) (program : Program K) (form : StandardForm K)
    (progress : Progress K) : Progress K × Ending :=
  improve options clock.next progress.tableau.artificialStart (passedLimit options program form)
    (options.pivotLimit - progress.pivots) progress

/-- A simplex run with what its reports need: the size of the tableau, unless the
program was rejected, and the pivots made in phase one. -/
structure Run (K : Type) extends Outcome K where
  tableauRows? : Option Nat
  phaseOnePivots : Nat

def presolved (options : Options K) (code : ReturnCode) (status : PointStatus) :
    ReturnCode × PointStatus :=
  match options.presolves, code, status with
  | true, .ok, .noneFeasible => (.noPrimalFeasible, .undefined)
  | true, .ok, .unbounded => (.noDualFeasible, .undefined)
  | _, _, _ => (code, status)

def finish (options : Options K) (program : Program K) (form : StandardForm K)
    (phaseOnePivots : Nat) (progress : Progress K) (code : ReturnCode) (status : PointStatus) :
    Run K :=
  let verdict := presolved options code status
  { code := verdict.1
    status := verdict.2
    point := some (form.recover program progress.tableau.values progress.tableau.multipliers)
    iterations := progress.pivots
    tableauRows? := some progress.tableau.rows.length
    phaseOnePivots }

def reject (code : ReturnCode) : Run K :=
  { Outcome.rejected code with tableauRows? := none, phaseOnePivots := 0 }

/-- Solves a linear program. -/
def solve (options : Options K) (clock : Clock) (program : Program K) : Run K :=
  if program.columns.isEmpty then reject .failed
  else if !program.boundsConsistent then reject .incorrectBounds
  else
    let form := StandardForm.ofProgram program
    let (progress, ending) := findBasis options clock (Tableau.ofStandardForm form)
    let report := finish options program form progress.pivots
    match ending with
    | .infeasible => report progress .ok .noneFeasible
    | .stopped limit => report progress limit.returnCode .infeasible
    | .feasible =>
        let (final, ending) := phaseTwo options clock program form progress
        match ending with
        | .optimal => report final .ok .optimal
        | .unbounded => report final .ok .unbounded
        | .stopped limit => report final limit.returnCode .feasible

end LinearProgramming.Simplex
