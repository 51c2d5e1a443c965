import Mathlib.Algebra.Order.BigOperators.Group.List
import LinearProgramming.Proofs.Search.Correctness

/-!
# What rounding does to an incumbent

A new incumbent is the optimum of a relaxation with its integer columns rounded.  The optimum is
feasible, but only near to whole in these columns; the incumbent is whole, keeps the bounds of the
columns, and may miss those of a row by as much as the rounding moves its activity.
-/

namespace LinearProgramming

variable {K : Type} [ExactScalar K]

namespace Search

section Values

/-- A value is rounded by its distance to the nearest whole number. -/
theorem abs_nearest_sub (value : K) : |Scalar.nearest value - value| = fractionality value := by
  obtain ⟨number, isNearest⟩ := LawfulScalar.nearest_whole value
  have near := LawfulScalar.abs_nearest_sub_le value
  rw [isNearest] at near ⊢
  apply le_antisymm
  · obtain ⟨whole, least⟩ := fractionality_le_iff.mp (le_refl (fractionality value))
    by_cases same : whole = number
    · rwa [same, abs_sub_comm] at least
    · -- Any other whole number is at least a half away.
      have apart : (1 : K) ≤ |(number : K) - whole| := by
        exact_mod_cast Int.one_le_abs (sub_ne_zero.mpr (Ne.symm same))
      have through := abs_sub_le (number : K) value whole
      linarith
  · exact fractionality_le_iff.mpr ⟨number, (abs_sub_comm _ _).le⟩

theorem contains_nearest {bound : Bound K} (whole : bound.isWhole = true) {value : K}
    (contained : bound.Contains value) : bound.Contains (Scalar.nearest value) := by
  obtain ⟨lowerWhole, upperWhole⟩ := bound.isWhole_iff.mp whole
  exact ⟨fun least isLeast => (lowerWhole least isLeast).le_nearest
      (contained.lower least isLeast),
    fun greatest isGreatest => (upperWhole greatest isGreatest).nearest_le
      (contained.upper greatest isGreatest)⟩

end Values

section Points

variable {integer : List Nat} {point : List K}

theorem entry_roundColumns (integer : List Nat) (point : List K) (index : Nat) :
    Dense.entry (roundColumns integer point) index =
      if index ∈ integer then Scalar.nearest (Dense.entry point index)
      else Dense.entry point index := by
  have zero : Scalar.nearest (0 : K) = 0 := IsWhole.nearest_eq ⟨0, by simp⟩
  unfold roundColumns
  induction integer generalizing point with
  | nil => simp
  | cons column integer inductionHypothesis =>
      have first : Dense.entry (point.modify column Scalar.nearest) index =
          if column = index then Scalar.nearest (Dense.entry point index)
          else Dense.entry point index := by
        rw [Dense.entry_modify]
        by_cases inside : index < point.length
        · simp [inside]
        · simp [inside, Dense.entry_of_length_le (Nat.le_of_not_lt inside), zero]
      rw [List.foldl_cons, inductionHypothesis, first]
      by_cases same : column = index
      · simp [same, (LawfulScalar.nearest_whole (Dense.entry point index)).nearest_eq]
      · simp [same, Ne.symm same]

theorem forall₂_of_entries {bounds : List (Bound K)} {values : List K}
    (length : bounds.length = values.length)
    (each : ∀ (column : Nat) (bound : Bound K), bounds[column]? = some bound →
      bound.Contains (Dense.entry values column)) :
    List.Forall₂ Bound.Contains bounds values := by
  rw [List.forall₂_iff_get]
  refine ⟨length, ?_⟩
  intro column inside insideValues
  have contained := each column bounds[column] (List.getElem?_eq_getElem inside)
  rwa [Dense.entry_eq_getElem insideValues] at contained

theorem forall₂_roundColumns {bounds : List (Bound K)}
    (whole : ∀ column ∈ integer, ∀ bound ∈ bounds[column]?, bound.isWhole = true)
    (contained : List.Forall₂ Bound.Contains bounds point) :
    List.Forall₂ Bound.Contains bounds (roundColumns integer point) := by
  apply forall₂_of_entries
  · rw [length_roundColumns, contained.length_eq]
  · intro column bound at_column
    have inside := contains_entry contained at_column
    rw [entry_roundColumns]
    split
    · rename_i isInteger
      exact contains_nearest (whole column isInteger bound at_column) inside
    · exact inside

/-- How much the integer columns weigh in a list of cells. -/
def integerWeight (integer : List Nat) (cells : List (Nat × K)) : K :=
  (cells.map fun cell => if cell.1 ∈ integer then |cell.2| else 0).sum

/-- An activity moves by no more than the rounding times the weight of the rounded columns. -/
theorem abs_dotCells_roundColumns_sub_le {slack : K}
    (near : ∀ column ∈ integer, fractionality (Dense.entry point column) ≤ slack)
    (cells : List (Nat × K)) :
    |Dense.dotCells cells (roundColumns integer point) - Dense.dotCells cells point| ≤
      slack * integerWeight integer cells := by
  induction cells with
  | nil => simp [integerWeight]
  | cons cell cells inductionHypothesis =>
      have first : |cell.2 * Dense.entry (roundColumns integer point) cell.1 -
          cell.2 * Dense.entry point cell.1| ≤
            slack * if cell.1 ∈ integer then |cell.2| else 0 := by
        rw [entry_roundColumns]
        split
        · rename_i isInteger
          rw [← mul_sub, abs_mul, abs_nearest_sub, mul_comm]
          exact mul_le_mul_of_nonneg_right (near _ isInteger) (abs_nonneg _)
        · simp
      rw [Dense.dotCells_cons, Dense.dotCells_cons, add_sub_add_comm]
      have moved := (abs_add_le _ _).trans (add_le_add first inductionHypothesis)
      simpa only [integerWeight, List.map_cons, List.sum_cons, mul_add] using moved

end Points

end Search

def Program.costCells (program : Program K) : List (Nat × K) :=
  (List.range program.cost.length).map fun column => (column, Dense.entry program.cost column)

theorem Program.objective_eq (program : Program K) (point : List K) :
    program.objective point = program.constant + Dense.dotCells program.costCells point := by
  rw [objective, Dense.dot_eq_sum, costCells, Dense.dotCells, Dense.total_eq_sum, List.map_map]
  rfl

namespace Search

/-! ## Incumbents -/

/-- As far as an integer column of an incumbent is ever rounded. -/
def Options.rounding (options : Options K) : K :=
  min options.integerTolerance (1 / 2)

structure Incumbent.Rounds (best : Incumbent K) (options : Options K) (program : Program K)
    (integer : List Nat) (point : List K) : Prop where
  near : ∀ column ∈ integer, fractionality (Dense.entry point column) ≤ options.rounding
  objective : best.objective = program.minimized point
  rounded : best.point = roundColumns integer point

variable {options : Options K} {program : Program K} {integer : List Nat} {state : State K}
  {relax : Nat → Program K → Outcome K} {steps : Nat} {clock : Clock} {result : Result K}

theorem fractionality_le_rounding {point : List K}
    (missing : branchingColumn options integer point = none) :
    ∀ column ∈ integer, fractionality (Dense.entry point column) ≤ options.rounding := by
  intro column member
  apply le_min (branchingColumn_eq_none_iff.mp missing column member)
  rw [← abs_nearest_sub]
  exact LawfulScalar.abs_nearest_sub_le _

/-- An optimum without a column to branch on becomes an incumbent that rounds it. -/
theorem rounds_of_attains {point : Point K}
    (attained : point.objective = program.objective point.columnPrimal)
    (whole : branchingColumn options integer point.columnPrimal = none) :
    Incumbent.Rounds
      ⟨minimizedObjective program point, roundColumns integer point.columnPrimal⟩
      options program integer point.columnPrimal where
  near := fractionality_le_rounding whole
  objective := by rw [minimizedObjective, attained, Program.minimized]
  rounded := rfl

namespace Incumbent.Rounds

variable {best : Incumbent K} {point : List K}
  (rounds : best.Rounds options program integer point)

include rounds

theorem abs_dotCells_sub_le (cells : List (Nat × K)) :
    |Dense.dotCells cells best.point - Dense.dotCells cells point| ≤
      options.rounding * integerWeight integer cells := by
  rw [rounds.rounded]
  exact abs_dotCells_roundColumns_sub_le rounds.near cells

/-- What the incumbent is worth and what its point attains differ by the rounding alone. -/
theorem abs_objective_sub_le :
    |program.objective best.point - program.objective point| ≤
      options.rounding * integerWeight integer program.costCells := by
  rw [program.objective_eq, program.objective_eq, add_sub_add_left_eq_sub]
  exact rounds.abs_dotCells_sub_le program.costCells

theorem whole : ∀ column ∈ integer, IsWhole (Dense.entry best.point column) := by
  intro column member
  rw [rounds.rounded, entry_roundColumns, if_pos member]
  exact LawfulScalar.nearest_whole _

end Incumbent.Rounds

theorem rounds_of_runTimed
    (attained : ∀ solved (node : Node K) (point : Point K),
      (node.relaxed (relax solved) program).Attains point →
        point.objective = program.objective point.columnPrimal)
    (start : state.incumbent = none)
    (found : runTimed options relax program integer steps clock state = some result) :
    ∀ best ∈ result.incumbent, ∃ point, best.Rounds options program integer point := by
  refine incumbent_of_runTimed (fun _ => True) ?_ ?_ ?_ ?_ found
  · intro _ _ _ _ _ _ _ _ _
    trivial
  · intro solved node point _ attains whole
    exact ⟨_, rounds_of_attains (attained solved node point attains) whole⟩
  · intro _ _
    trivial
  · simp [start]

/-- Over relaxations that are solved exactly every incumbent rounds a feasible point. -/
theorem feasible_rounds_of_searchTimed (consistent : program.boundsConsistent = true)
    (whole : ∀ column ∈ integer, ∀ bound ∈ program.columns[column]?, bound.isWhole = true)
    (exact : ∀ solved, SolvesBoxes (relax solved) program integer)
    (found : searchTimed steps options clock relax program integer = some result) :
    ∀ best ∈ result.incumbent, ∃ point,
      best.Rounds options program integer point ∧ program.Feasible point := by
  refine incumbent_of_runTimed (fun node => Box program integer node.columns) ?_ ?_ ?_ ?_ found
  · intro solved node point column box attains fractional
    have inside := (optimum_of_attains (exact solved) box attains).1
    exact box.split (mem_of_branchingColumn fractional) inside.columns _
  · intro solved node point box attains missing
    obtain ⟨inside, attained, -⟩ := optimum_of_attains (exact solved) box attains
    exact ⟨_, rounds_of_attains attained missing, box.within _ inside.columns, inside.rows⟩
  · intro node member
    obtain rfl := List.mem_singleton.mp member
    exact .columns consistent whole
  · rintro best ⟨⟩

/-! ## Boxes that a solver keeps to -/

def KeepsBounds (relax : Program K → Outcome K) (program : Program K) : Prop :=
  ∀ (node : Node K) (point : Point K), node.columns.length = program.columns.length →
    (node.relaxed relax program).Attains point →
      List.Forall₂ Bound.Contains node.columns point.columnPrimal

/-- Of a solver it is enough to know that its optima are in their boxes for every incumbent to be
within the bounds of the program and whole in the integer columns. -/
theorem within_of_searchTimed (consistent : program.boundsConsistent = true)
    (whole : ∀ column ∈ integer, ∀ bound ∈ program.columns[column]?, bound.isWhole = true)
    (keeps : ∀ solved, KeepsBounds (relax solved) program)
    (found : searchTimed steps options clock relax program integer = some result) :
    ∀ best ∈ result.incumbent, List.Forall₂ Bound.Contains program.columns best.point ∧
      ∀ column ∈ integer, IsWhole (Dense.entry best.point column) := by
  refine incumbent_of_runTimed (fun node => Box program integer node.columns) ?_ ?_ ?_ ?_ found
  · intro solved node point column box attains fractional
    exact box.split (mem_of_branchingColumn fractional)
      (keeps solved node point box.length_eq attains) _
  · intro solved node point box attains _
    have inside := box.within _ (keeps solved node point box.length_eq attains)
    refine ⟨forall₂_roundColumns whole inside, fun column isInteger => ?_⟩
    rw [entry_roundColumns, if_pos isInteger]
    exact LawfulScalar.nearest_whole _
  · exact List.forall_mem_singleton.mpr (.columns consistent whole)
  · rintro best ⟨⟩

theorem keepsBounds_simplexRelaxation {program : Program ℚ}
    (priced : program.cost.length = program.columns.length) :
    KeepsBounds simplexRelaxation program := by
  intro node point length_eq attains
  have stillPriced : (node.program program).cost.length = (node.program program).columns.length :=
    priced.trans length_eq.symm
  have sound : Simplex.Sound (node.program program) (node.relaxed simplexRelaxation program) :=
    Simplex.Verdict.sound stillPriced Simplex.Options.zeroTolerances_exact
      (Simplex.solve_verdict stillPriced Simplex.Options.zeroTolerances_exact .still)
  obtain ⟨other, isOther, feasible, -⟩ := sound.optimal attains.status
  obtain rfl := Option.some.inj (attains.point.symm.trans isOther)
  exact feasible.columns

end Search

end LinearProgramming
