import LinearProgramming.Proofs.Dense
import LinearProgramming.Interior.Solve
import LinearProgramming.Simplex.Solve

/-!
# Opposite programs

To maximize an objective is to minimize its negation.  The opposite of a program does that: it
turns the direction around and negates the constant and all costs.  Both programs have the same
standard form, so the same run solves them.  What the run reads off its last tableau or iterate is
opposite again: the objective and the duals are negated, and a limit below has become one above.
-/

namespace LinearProgramming

/-! ## Programs -/

def Direction.opposite : Direction → Direction
  | minimize => maximize
  | maximize => minimize

/-- The code for the other objective limit, if it is one for an objective limit. -/
def ReturnCode.opposite : ReturnCode → ReturnCode
  | objectiveBelowLimit => objectiveAboveLimit
  | objectiveAboveLimit => objectiveBelowLimit
  | code => code

theorem ReturnCode.opposite_eq_iff {code other : ReturnCode} (fixed : other.opposite = other) :
    code.opposite = other ↔ code = other := by
  cases code <;> cases other <;> simp_all [opposite]

variable {K : Type} [ExactScalar K]

/-- The program with its direction turned around and its objective negated. -/
def Program.opposite (program : Program K) : Program K where
  direction := program.direction.opposite
  constant := -program.constant
  cost := program.cost.map (-·)
  columns := program.columns
  rows := program.rows

def Point.opposite (point : Point K) : Point K where
  objective := -point.objective
  rowPrimal := point.rowPrimal
  rowDual := point.rowDual.map (-·)
  columnPrimal := point.columnPrimal
  columnDual := point.columnDual.map (-·)

def Outcome.opposite (outcome : Outcome K) : Outcome K where
  code := outcome.code.opposite
  status := outcome.status
  point := outcome.point.map Point.opposite
  iterations := outcome.iterations

@[simp]
theorem Direction.maximizingSign_opposite (direction : Direction) :
    (direction.opposite.maximizingSign : K) = -direction.maximizingSign := by
  cases direction
  · exact (neg_neg 1).symm
  · rfl

@[simp]
theorem Direction.minimizingSign_opposite (direction : Direction) :
    (direction.opposite.minimizingSign : K) = -direction.minimizingSign := by
  cases direction
  · rfl
  · exact (neg_neg 1).symm

namespace Program

variable (program : Program K) (point : List K)

@[simp]
theorem objective_opposite : program.opposite.objective point = -program.objective point := by
  change -program.constant + Dense.dot (program.cost.map (-·)) point = _
  rw [Dense.dot_map_neg, objective, neg_add]

@[simp]
theorem activities_opposite : program.opposite.activities point = program.activities point := rfl

@[simp]
theorem boundsConsistent_opposite :
    program.opposite.boundsConsistent = program.boundsConsistent := rfl

end Program

/-! ## Standard forms -/

namespace StandardForm

theorem costOf_opposite (direction : Direction) (cost : K) (substitution : Substitution K) :
    costOf direction.opposite (-cost) substitution = costOf direction cost substitution := by
  simp only [costOf, Direction.maximizingSign_opposite, neg_mul_neg]

/-- Opposite programs have one standard form. -/
@[simp]
theorem ofProgram_opposite (program : Program K) :
    ofProgram program.opposite = ofProgram program := by
  have cost (substitutions : List (Substitution K)) :
      List.zipWith (costOf program.direction.opposite) (program.cost.map (-·)) substitutions =
        List.zipWith (costOf program.direction) program.cost substitutions := by
    simp only [List.zipWith_map_left, costOf_opposite]
  simp only [ofProgram, Program.opposite, cost]

variable (form : StandardForm K) (program : Program K)

theorem rowDual_opposite (multipliers : List K) (row : Nat) :
    form.rowDual program.opposite multipliers row = -form.rowDual program multipliers row := by
  have start : (0 : K) = -0 := neg_zero.symm
  rw [rowDual, start]
  refine List.foldl_hom Neg.neg fun sum entry => ?_
  by_cases own : entry.1.row? = some row
  · simp only [if_pos own, Program.opposite, Direction.maximizingSign_opposite]
    ring
  · simp only [if_neg own]

theorem foldl_pay_opposite (dual : K) (cells : List (Nat × K)) (costs : List K) :
    cells.foldl (fun costs (column, coefficient) => costs.modify column (· - coefficient * -dual))
        (costs.map (-·)) =
      (cells.foldl (fun costs (column, coefficient) => costs.modify column (· - coefficient * dual))
        costs).map (-·) := by
  refine List.foldl_hom (List.map (-·)) fun costs cell => ?_
  apply List.ext_getElem
  · simp
  · intro index inside _
    simp only [List.getElem_map, List.getElem_modify]
    split
    · ring
    · rfl

theorem reducedCosts_opposite (rowDuals : List K) :
    reducedCosts program.opposite (rowDuals.map (-·)) =
      (reducedCosts program rowDuals).map (-·) := by
  rw [reducedCosts, List.zip_map_right, List.foldl_map]
  exact List.foldl_hom (List.map (-·)) fun costs entry =>
    foldl_pay_opposite entry.2 entry.1.cells costs

@[simp]
theorem recover_opposite (point multipliers : List K) :
    form.recover program.opposite point multipliers =
      (form.recover program point multipliers).opposite := by
  have duals : (List.range program.rows.length).map (form.rowDual program.opposite multipliers) =
      ((List.range program.rows.length).map (form.rowDual program multipliers)).map (-·) := by
    rw [List.map_map]
    exact List.map_congr_left fun row _ => form.rowDual_opposite program multipliers row
  have costs := reducedCosts_opposite program
    ((List.range program.rows.length).map (form.rowDual program multipliers))
  rw [← duals] at costs
  simp only [recover, Point.opposite, Program.objective_opposite, Program.activities_opposite,
    ← duals]
  exact congrArg _ costs

end StandardForm

/-! ## The simplex method -/

namespace Simplex

def Limit.opposite : Limit → Limit
  | objectiveBelow => objectiveAbove
  | objectiveAbove => objectiveBelow
  | limit => limit

def Ending.opposite : Ending → Ending
  | stopped limit => stopped limit.opposite
  | ending => ending

def PhaseOneEnding.opposite : PhaseOneEnding → PhaseOneEnding
  | stopped limit => stopped limit.opposite
  | ending => ending

def Options.opposite (options : Options K) : Options K :=
  { options with
    objectiveLower := -options.objectiveUpper
    objectiveUpper := -options.objectiveLower }

def Run.opposite (run : Run K) : Run K where
  toOutcome := run.toOutcome.opposite
  tableauRows? := run.tableauRows?
  phaseOnePivots := run.phaseOnePivots

theorem Limit.returnCode_opposite (limit : Limit) :
    limit.opposite.returnCode = limit.returnCode.opposite := by
  cases limit <;> rfl

variable (options : Options K) (clock : Clock)

@[simp]
theorem Options.watchesObjective_opposite :
    options.opposite.watchesObjective = options.watchesObjective := by
  have lower : -Scalar.largest < -options.objectiveUpper ↔
      options.objectiveUpper < Scalar.largest := neg_lt_neg_iff
  have upper : -options.objectiveLower < Scalar.largest ↔
      -Scalar.largest < options.objectiveLower := neg_lt
  simp only [watchesObjective, opposite, lower, upper, Bool.or_comm]

/-- A run that watches for the opposite limits goes the same way. -/
theorem improve_opposite (columns : Nat) (watch : Tableau K → Option Limit) (remaining : Nat)
    (progress : Progress K) :
    improve options.opposite clock columns (fun tableau => (watch tableau).map Limit.opposite)
        remaining progress =
      (improve options clock columns watch remaining progress).map id Ending.opposite := by
  -- Only `watch` knows the objective limits: no choice of a pivot depends on them.
  induction remaining generalizing progress with
  | zero => rfl
  | succ remaining inductionHypothesis =>
      have late : options.opposite.outOfTime (clock progress.pivots) =
        options.outOfTime (clock progress.pivots) := rfl
      have enters : enteringColumn options.opposite progress.bland progress.tableau columns =
        enteringColumn options progress.bland progress.tableau columns := rfl
      rw [improve, improve, late, enters]
      split
      · rfl
      split
      · rfl
      · rename_i column _
        have leaves : leavingRow options.opposite progress.bland progress.tableau column =
          leavingRow options progress.bland progress.tableau column := rfl
        rw [leaves]
        split
        · rfl
        · rename_i row _
          have steps : progress.step options.opposite row column =
            progress.step options row column := rfl
          simp only [steps]
          cases watch (progress.step options row column).tableau with
          | some limit => rfl
          | none => exact inductionHypothesis _

theorem findBasis_opposite (start : Tableau K) :
    findBasis options.opposite clock start =
      (findBasis options clock start).map id PhaseOneEnding.opposite := by
  unfold findBasis
  split
  · rfl
  · -- Phase one watches for nothing, and so for the opposite of nothing.
    have ran (first : Progress K) :
        improve options.opposite clock start.columns (fun _ => none) options.opposite.pivotLimit
            first =
          (improve options clock start.columns (fun _ => none) options.pivotLimit first).map id
            Ending.opposite :=
      improve_opposite options clock start.columns (fun _ => none) options.pivotLimit first
    rw [phaseOne, phaseOne, ran]
    generalize improve options clock start.columns (fun _ => none) options.pivotLimit _ = run
    obtain ⟨progress, ending⟩ := run
    cases ending with
    | optimal | unbounded =>
        exact Prod.ext rfl (apply_ite PhaseOneEnding.opposite
          (artificialRemains options progress.tableau = true) .infeasible .feasible).symm
    | stopped limit => rfl

theorem passedLimit_opposite (program : Program K) (form : StandardForm K) (tableau : Tableau K) :
    passedLimit options.opposite program.opposite form tableau =
      (passedLimit options program form tableau).map Limit.opposite := by
  unfold passedLimit
  rw [Options.watchesObjective_opposite]
  split
  · dsimp only
    rw [Program.objective_opposite, Program.opposite, Options.opposite]
    cases program.direction with
    | minimize =>
        simp only [Direction.opposite, neg_lt_neg_iff]
        split <;> rfl
    | maximize =>
        simp only [Direction.opposite, neg_lt_neg_iff]
        split <;> rfl
  · rfl

theorem phaseTwo_opposite (program : Program K) (form : StandardForm K) (progress : Progress K) :
    phaseTwo options.opposite clock program.opposite form progress =
      (phaseTwo options clock program form progress).map id Ending.opposite := by
  have watch : passedLimit options.opposite program.opposite form = fun tableau =>
      (passedLimit options program form tableau).map Limit.opposite :=
    funext (passedLimit_opposite options program form)
  rw [phaseTwo, watch]
  exact improve_opposite _ _ _ _ _ _

theorem presolved_opposite (code : ReturnCode) (status : PointStatus) :
    presolved options.opposite code.opposite status =
      (presolved options code status).map ReturnCode.opposite id := by
  have presolves : options.opposite.presolves = options.presolves := rfl
  unfold presolved
  rw [presolves]
  cases options.presolves
  · rfl
  · cases code <;> first | rfl | cases status <;> rfl

theorem finish_opposite (program : Program K) (form : StandardForm K) (phaseOnePivots : Nat)
    (progress : Progress K) (code : ReturnCode) (status : PointStatus) :
    finish options.opposite program.opposite form phaseOnePivots progress code.opposite status =
      (finish options program form phaseOnePivots progress code status).opposite := by
  simp only [finish, presolved_opposite, StandardForm.recover_opposite]
  rfl

/-- Solving the opposite program is the same run, read the other way. -/
theorem solve_opposite (program : Program K) :
    solve options.opposite clock program.opposite = (solve options clock program).opposite := by
  have columns : program.opposite.columns.isEmpty = program.columns.isEmpty := rfl
  unfold solve
  simp only [columns, Program.boundsConsistent_opposite, StandardForm.ofProgram_opposite,
    findBasis_opposite]
  split
  · rfl
  split
  · rfl
  generalize findBasis options clock _ = found
  obtain ⟨progress, ending⟩ := found
  cases ending with
  | infeasible => exact finish_opposite options program _ _ _ .ok _
  | stopped limit =>
      simp only [Prod.map_apply, PhaseOneEnding.opposite, Limit.returnCode_opposite, id]
      exact finish_opposite options program _ _ _ _ _
  | feasible =>
      simp only [Prod.map_apply, PhaseOneEnding.opposite, phaseTwo_opposite, id]
      generalize phaseTwo options clock program _ _ = ended
      obtain ⟨final, ending⟩ := ended
      cases ending with
      | optimal => exact finish_opposite options program _ _ _ .ok _
      | unbounded => exact finish_opposite options program _ _ _ .ok _
      | stopped limit =>
          simp only [Prod.map_apply, Ending.opposite, Limit.returnCode_opposite, id]
          exact finish_opposite options program _ _ _ _ _

end Simplex

/-! ## The interior-point method -/

namespace Interior

/-- No run of this method is stopped by an objective limit. -/
def Run.opposite (run : Run K) : Run K where
  code := run.code
  status := run.status
  point := run.point.map Point.opposite
  iterations := run.iterations
  size? := run.size?
  measured := run.measured

variable (form : StandardForm K) (program : Program K)

theorem solveUnconstrained_opposite (equality : EqualityForm K) :
    solveUnconstrained form program.opposite equality =
      { solveUnconstrained form program equality with
        point := (solveUnconstrained form program equality).point.map Point.opposite } := by
  unfold solveUnconstrained
  rw [StandardForm.recover_opposite]
  split <;> rfl

theorem Final.outcome_opposite (final : Final K) :
    final.outcome form program.opposite =
      { final.outcome form program with
        point := (final.outcome form program).point.map Point.opposite } := by
  have point : recover form program.opposite final.iterate =
      (recover form program final.iterate).opposite := StandardForm.recover_opposite _ _ _ _
  unfold Final.outcome
  rw [point]
  rcases final.ending with _ | unbounded | _ | _ | _
  · rfl
  · cases unbounded <;> rfl
  · rfl
  · rfl
  · rfl

theorem solve_opposite : solve program.opposite = (solve program).opposite := by
  have rejected : (program.opposite.rows.isEmpty || program.opposite.columns.isEmpty ||
      !program.opposite.boundsConsistent) =
    (program.rows.isEmpty || program.columns.isEmpty || !program.boundsConsistent) := rfl
  unfold solve
  simp only [rejected, StandardForm.ofProgram_opposite, solveUnconstrained_opposite,
    Final.outcome_opposite]
  split
  · rfl
  split
  · rfl
  split <;> rfl

end Interior

end LinearProgramming
