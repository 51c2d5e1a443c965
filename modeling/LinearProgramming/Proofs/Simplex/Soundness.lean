import LinearProgramming.Proofs.Simplex.PhaseOne
import LinearProgramming.Proofs.Simplex.Start
import LinearProgramming.Workspace.Solve

/-!
# Soundness of the simplex method

With exact comparisons, what a run reports about a program is true: an optimal point
is feasible and no feasible point is better, a program without a feasible point has
none, and an unbounded one has feasible points as good as wanted.  This holds for all
rules of pricing, all ratio tests, all limits and all clocks.
-/

namespace LinearProgramming.Simplex

variable {K : Type} [ExactScalar K]

structure ClearedBasis (start tableau : Tableau K) : Prop
    extends FeasibleBasis start start.objective tableau where
  cleared : tableau.Cleared

section PhaseTwo

variable {start : Tableau K} {options : Options K} {clock : Clock}

/-- A chosen pivot on a variable or a slack keeps a cleared basis: no row that an artificial column
is basic in has an entry there. -/
theorem ClearedBasis.pivot (zero : options.ZeroTolerances) {progress : Progress K}
    {row column : Nat} (basis : ClearedBasis start progress.tableau)
    (choice : Chosen options progress start.artificialStart row column) :
    ClearedBasis start (progress.tableau.pivot row column) := by
  obtain ⟨structural, ⟨chosen, pivotable⟩, next⟩ := basis.chosen zero choice
  rw [← basis.equivalent.artificialStart_eq] at structural
  exact ⟨next, basis.cleared.pivot basis.toShaped pivotable structural⟩

theorem ClearedBasis.improve (zero : options.ZeroTolerances) {watch : Tableau K → Option Limit}
    (remaining : Nat) {progress : Progress K} (basis : ClearedBasis start progress.tableau) :
    ClearedBasis start
      (improve options clock start.artificialStart watch remaining progress).1.tableau :=
  improve_induction (motive := ClearedBasis start) (fun basis choice => basis.pivot zero choice)
    remaining basis

end PhaseTwo

section Start

variable {program : Program K}

def startOf (program : Program K) : Tableau K :=
  .ofStandardForm (.ofProgram program)

def pointOf (program : Program K) (tableau : Tableau K) : Point K :=
  (StandardForm.ofProgram program).recover program tableau.values tableau.multipliers

/-- What a status says about the program and the tableau it was found at. -/
inductive Verdict (options : Options K) (program : Program K) :
    PointStatus → Option (Point K) → Prop where
  | undefined {point : Option (Point K)} : Verdict options program .undefined point
  | infeasible {point : Option (Point K)} : Verdict options program .infeasible point
  | noneFeasible {point : Option (Point K)}
      (artificial : ∀ assignment, (startOf program).Solves assignment →
        (∀ index, 0 ≤ assignment index) →
          ∃ index, (startOf program).artificialStart ≤ index ∧ assignment index ≠ 0) :
      Verdict options program .noneFeasible point
  | feasible {tableau : Tableau K} (basis : ClearedBasis (startOf program) tableau) :
      Verdict options program .feasible (some (pointOf program tableau))
  | optimal {tableau : Tableau K} {bland : Bool} (basis : ClearedBasis (startOf program) tableau)
      (missing : enteringColumn options bland tableau (startOf program).artificialStart = none) :
      Verdict options program .optimal (some (pointOf program tableau))
  | unbounded {tableau : Tableau K} {bland : Bool} {column : Nat} {point : Option (Point K)}
      (basis : ClearedBasis (startOf program) tableau)
      (entering :
        enteringColumn options bland tableau (startOf program).artificialStart = some column)
      (missing : leavingRow options bland tableau column = none) :
      Verdict options program .unbounded point

variable (priced : program.cost.length = program.columns.length)

include priced

theorem canonical_startOf : (startOf program).Canonical :=
  Tableau.canonical_ofStandardForm (StandardForm.ofProgram_wellFormed priced)

theorem clearedBasis_startOf (without : (startOf program).artificials = 0) :
    ClearedBasis (startOf program) (startOf program) where
  toCanonical := canonical_startOf priced
  equivalent := .refl _
  nonnegative := Tableau.nonNegative_ofStandardForm _
  priced := Tableau.pricedOut_ofStandardForm _
  objective_mem := by
    rw [sub_self]
    exact Submodule.zero_mem _
  cleared := by
    intro row member artificial
    have inside := (canonical_startOf priced).basic_lt row member
    rw [Tableau.columns, without, add_zero] at inside
    exact absurd artificial (Nat.not_le.mpr inside)

variable {options : Options K} {clock : Clock} (zero : options.ZeroTolerances)

omit priced in
/-- Reporting keeps a verdict; presolving may withhold it. -/
theorem Verdict.finish {progress : Progress K} {status : PointStatus}
    (verdict : Verdict options program status (some (pointOf program progress.tableau)))
    (pivots : Nat) (code : ReturnCode) :
    Verdict options program
      (finish options program (.ofProgram program) pivots progress code status).status
      (finish options program (.ofProgram program) pivots progress code status).point := by
  unfold Simplex.finish presolved
  split
  · exact .undefined
  · exact .undefined
  · exact verdict

include zero

omit priced in
theorem clearedBasis_phaseTwo (clock : Clock) (form : StandardForm K) {progress : Progress K}
    (basis : ClearedBasis (startOf program) progress.tableau) :
    ClearedBasis (startOf program) (phaseTwo options clock program form progress).1.tableau := by
  rw [phaseTwo, basis.equivalent.artificialStart_eq]
  exact basis.improve zero _

/-- A run that goes on to phase two has a cleared basis. -/
theorem findBasis_feasible {progress : Progress K}
    (ended : findBasis options clock (startOf program) = (progress, .feasible)) :
    ClearedBasis (startOf program) progress.tableau := by
  unfold findBasis at ended
  split at ended
  · rename_i without
    obtain rfl := congrArg Prod.fst ended
    exact clearedBasis_startOf priced without
  · obtain ⟨basis, cleared⟩ := phaseOne_feasible clock zero (canonical_startOf priced)
      (Tableau.nonNegative_ofStandardForm _) ended
    exact ⟨basis, cleared⟩

theorem findBasis_infeasible {progress : Progress K}
    (ended : findBasis options clock (startOf program) = (progress, .infeasible))
    {assignment : Nat → K} (solves : (startOf program).Solves assignment)
    (nonnegative : ∀ index, 0 ≤ assignment index) :
    ∃ index, (startOf program).artificialStart ≤ index ∧ assignment index ≠ 0 := by
  unfold findBasis at ended
  split at ended
  · simp at ended
  · exact phaseOne_infeasible clock zero (canonical_startOf priced)
      (Tableau.nonNegative_ofStandardForm _) ended solves nonnegative

/-- Every run ends with a verdict. -/
theorem solve_verdict (clock : Clock) :
    Verdict options program (solve options clock program).status
      (solve options clock program).point := by
  unfold solve
  split
  · exact .undefined
  split
  · exact .undefined
  cases first : findBasis options clock (startOf program) with
  | mk progress ending =>
      rw [startOf] at first
      simp only [first]
      cases ending with
      | infeasible =>
          refine Verdict.finish (.noneFeasible ?_) _ _
          intro _
          exact findBasis_infeasible priced zero first
      | stopped limit => exact Verdict.finish .infeasible _ _
      | feasible =>
          have started := findBasis_feasible priced zero first
          have basis := clearedBasis_phaseTwo zero clock (.ofProgram program) started
          cases second : phaseTwo options clock program (.ofProgram program) progress with
          | mk final ending =>
              rw [second] at basis
              rw [phaseTwo, started.equivalent.artificialStart_eq] at second
              cases ending with
              | optimal =>
                  exact Verdict.finish (.optimal basis (improve_optimal second)) _ _
              | unbounded =>
                  obtain ⟨column, entering, missing⟩ := improve_unbounded second
                  exact Verdict.finish (.unbounded basis entering missing) _ _
              | stopped limit => exact Verdict.finish (.feasible basis) _ _

end Start

section Meaning

variable {program : Program K}

theorem le_dot_cost_iff (program : Program K) (target : K) (point : List K) (length : Nat) :
    program.direction.maximizingSign *
        (target - program.objective ((StandardForm.ofProgram program).columns
          (Dense.zeros length))) ≤
        Dense.dot (StandardForm.ofProgram program).cost point ↔
      program.direction.AtLeastAsGood
        (program.objective ((StandardForm.ofProgram program).columns point)) target := by
  rw [StandardForm.dot_cost_eq program point length, Direction.atLeastAsGood_iff_maximizing,
    mul_sub, mul_sub, sub_le_sub_iff_right]

/-- The columns of the program at an assignment of the columns of a tableau. -/
def columnsAt (program : Program K) (assignment : Nat → K) : List K :=
  (StandardForm.ofProgram program).columns
    (Tableau.firstValues (StandardForm.ofProgram program).variableCount assignment)

theorem atLeastAsGood_columnsAt_iff (program : Program K) (target : K) (assignment : Nat → K) :
    program.direction.AtLeastAsGood (program.objective (columnsAt program assignment)) target ↔
      program.direction.maximizingSign *
        (target - program.objective ((StandardForm.ofProgram program).columns
          (Dense.zeros 0))) ≤ (startOf program).objective.excess assignment := by
  rw [startOf, Tableau.objective_excess_ofStandardForm, le_dot_cost_iff]
  rfl

variable (priced : program.cost.length = program.columns.length)

include priced

theorem feasible_columnsAt {assignment : Nat → K} (solves : (startOf program).Solves assignment)
    (nonnegative : ∀ index, 0 ≤ assignment index)
    (artificial : ∀ index, (startOf program).artificialStart ≤ index → assignment index = 0) :
    program.Feasible (columnsAt program assignment) :=
  (Tableau.feasible_of_solves (StandardForm.ofProgram_wellFormed priced) solves nonnegative
    artificial).columns_feasible

/-- Every feasible point comes from a solution without artificial columns. -/
theorem exists_assignment {values : List K} (feasible : program.Feasible values) :
    ∃ assignment, (startOf program).Solves assignment ∧ (∀ index, 0 ≤ assignment index) ∧
      (∀ index, (startOf program).artificialStart ≤ index → assignment index = 0) ∧
      columnsAt program assignment = values := by
  obtain ⟨point, isFeasible, rfl⟩ := StandardForm.exists_feasible priced feasible
  obtain ⟨assignment, solves, nonnegative, artificial, first⟩ :=
    Tableau.exists_solves (StandardForm.ofProgram_wellFormed priced) isFeasible
  exact ⟨assignment, solves, nonnegative, artificial, by rw [columnsAt, first]⟩

omit priced in
theorem columnPrimal_pointOf {tableau : Tableau K}
    (basis : ClearedBasis (startOf program) tableau) :
    (pointOf program tableau).columnPrimal = columnsAt program tableau.basicPoint := by
  have count : tableau.variableCount = (StandardForm.ofProgram program).variableCount :=
    basis.equivalent.variableCount
  rw [columnsAt, ← count, ← basis.toCanonical.values_eq basis.nonnegative]
  rfl

variable {tableau : Tableau K} (basis : ClearedBasis (startOf program) tableau)

include basis

theorem feasible_pointOf : program.Feasible (pointOf program tableau).columnPrimal := by
  rw [columnPrimal_pointOf basis]
  apply feasible_columnsAt priced basis.solves_basicPoint basis.nonnegative.basicPoint_nonneg
  intro index artificial
  apply basis.cleared.basicPoint_artificial
  rwa [basis.equivalent.artificialStart_eq]

/-- Where no variable or slack enters, no feasible point is better. -/
theorem optimal_pointOf {options : Options K} (zero : options.ZeroTolerances) {bland : Bool}
    (missing :
      enteringColumn options bland tableau (startOf program).artificialStart = none)
    {values : List K} (feasible : program.Feasible values) :
    program.direction.AtLeastAsGood (pointOf program tableau).objective
      (program.objective values) := by
  obtain ⟨assignment, solves, nonnegative, artificial, rfl⟩ := exists_assignment priced feasible
  have best := basis.le_basicPoint_of_enteringColumn zero missing solves nonnegative
    fun index _ outside => artificial index outside
  have reached := (atLeastAsGood_columnsAt_iff program _ assignment).mp
    ((Direction.atLeastAsGood_iff_maximizing _ _ _).mpr le_rfl)
  have better := (atLeastAsGood_columnsAt_iff program _ _).mpr (reached.trans best)
  rwa [← columnPrimal_pointOf basis] at better

/-- Where a variable or slack enters and no row leaves, feasible points are as good as
wanted. -/
theorem exists_better {options : Options K} (zero : options.ZeroTolerances) {bland : Bool}
    {column : Nat}
    (entering :
      enteringColumn options bland tableau (startOf program).artificialStart = some column)
    (missing : leavingRow options bland tableau column = none) (target : K) :
    ∃ values, program.Feasible values ∧
      program.direction.AtLeastAsGood (program.objective values) target := by
  obtain ⟨structural, -, -⟩ := enteringColumn_eq_some entering
  obtain ⟨level, nonnegative, reached⟩ := basis.exists_raised zero entering missing
    (program.direction.maximizingSign *
      (target - program.objective ((StandardForm.ofProgram program).columns (Dense.zeros 0))))
  refine ⟨columnsAt program (tableau.raised column level), ?_,
    (atLeastAsGood_columnsAt_iff _ _ _).mpr reached⟩
  have sameStart := basis.equivalent.artificialStart_eq
  exact feasible_columnsAt priced (basis.solves_raised column level) nonnegative
    fun index artificial => basis.cleared.raised_artificial (sameStart ▸ structural) level
      (sameStart ▸ artificial)

end Meaning

/-- What the status of a run says about its program is true. -/
structure Sound (program : Program K) (outcome : Outcome K) : Prop where
  optimal : outcome.status = .optimal →
    ∃ point ∈ outcome.point, program.Feasible point.columnPrimal ∧
      point.rowPrimal = program.activities point.columnPrimal ∧
      point.objective = program.objective point.columnPrimal ∧
      ∀ values, program.Feasible values →
        program.direction.AtLeastAsGood point.objective (program.objective values)
  noneFeasible : outcome.status = .noneFeasible → ∀ values, ¬ program.Feasible values
  unbounded : outcome.status = .unbounded →
    ∀ target, ∃ values, program.Feasible values ∧
      program.direction.AtLeastAsGood (program.objective values) target
  feasible : outcome.status = .feasible →
    ∃ point ∈ outcome.point, program.Feasible point.columnPrimal

theorem Verdict.sound {program : Program K}
    (priced : program.cost.length = program.columns.length) {options : Options K}
    (zero : options.ZeroTolerances) {outcome : Outcome K}
    (verdict : Verdict options program outcome.status outcome.point) : Sound program outcome := by
  obtain ⟨code, status, point, iterations⟩ := outcome
  constructor
  case optimal =>
    rintro rfl
    cases verdict with
    | optimal basis missing =>
        exact ⟨_, rfl, feasible_pointOf priced basis, rfl, rfl,
          fun _ => optimal_pointOf priced basis zero missing⟩
  case noneFeasible =>
    rintro rfl values feasible
    cases verdict with
    | noneFeasible artificial =>
        obtain ⟨assignment, solves, nonnegative, without, -⟩ := exists_assignment priced feasible
        obtain ⟨index, outside, positive⟩ := artificial assignment solves nonnegative
        exact positive (without index outside)
  case unbounded =>
    rintro rfl target
    cases verdict with
    | unbounded basis entering missing =>
        exact exists_better priced basis zero entering missing target
  case feasible =>
    rintro rfl
    cases verdict with
    | feasible basis => exact ⟨_, rfl, feasible_pointOf priced basis⟩

end LinearProgramming.Simplex
