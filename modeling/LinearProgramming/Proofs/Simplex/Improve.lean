import LinearProgramming.Proofs.Simplex.BasicPoint
import LinearProgramming.Proofs.Simplex.Pricing
import LinearProgramming.Simplex.Solve

/-!
# Pivoting towards an optimum

A feasible basis stays one under every pivot that the pricing and ratio rules
choose.  Where no column improves, its basic point is optimal; where a column
improves and no row leaves, raising that column is never stopped.
-/

namespace LinearProgramming.Simplex

variable {K : Type} [ExactScalar K]

structure Options.ZeroTolerances (options : Options K) : Prop where
  bound : options.boundTolerance = 0
  reducedCost : options.reducedCostTolerance = 0
  pivot : options.pivotTolerance = 0

def Options.exact : Options K :=
  { Options.standard with boundTolerance := 0, reducedCostTolerance := 0, pivotTolerance := 0 }

theorem Options.zeroTolerances_exact : (Options.exact : Options K).ZeroTolerances :=
  ⟨rfl, rfl, rfl⟩

structure FeasibleBasis (start : Tableau K) (goal : Equation K) (tableau : Tableau K) : Prop
    extends tableau.Canonical where
  equivalent : tableau.Equivalent start
  nonnegative : tableau.NonNegative
  priced : tableau.PricedOut
  objective_mem : tableau.objective.excess - goal.excess ∈ tableau.rowSpace

section Pivot

variable {tableau : Tableau K} {row column : Nat} {chosen : Row K}

/-- A pivot on a positive entry with the smallest ratio keeps all right-hand sides
non-negative. -/
theorem Tableau.NonNegative.pivot (nonnegative : tableau.NonNegative)
    (pivotable : tableau.Pivotable row column chosen)
    (positive : 0 < chosen.equation.coefficient column)
    (smallest : ∀ other ∈ tableau.rows, 0 < other.equation.coefficient column →
      chosen.equation.rhs / chosen.equation.coefficient column ≤
        other.equation.rhs / other.equation.coefficient column) :
    (tableau.pivot row column).NonNegative := by
  intro current member
  have ratio : 0 ≤ chosen.equation.rhs / chosen.equation.coefficient column :=
    div_nonneg (nonnegative _ (List.mem_of_getElem? pivotable.found)) positive.le
  obtain ⟨index, at_index⟩ := List.mem_iff_getElem?.mp member
  rcases getElem?_rows_pivot pivotable.found at_index with ⟨-, rfl⟩ | ⟨-, other, at_old, rfl⟩
  · exact ratio
  · have old := List.mem_of_getElem? at_old
    have rhs := nonnegative other old
    simp only [Equation.rhs_eliminate, Row.scaled, Equation.rhs_divide]
    rcases le_or_gt (other.equation.coefficient column) 0 with entry | entry
    · have product := mul_nonneg (neg_nonneg.mpr entry) ratio
      linarith
    · have bound := (le_div_iff₀' entry).mp (smallest other old entry)
      linarith

theorem Tableau.PricedOut.pivot (canonical : tableau.Canonical) (priced : tableau.PricedOut)
    (pivotable : tableau.Pivotable row column chosen) :
    (tableau.pivot row column).PricedOut := by
  intro current member
  obtain ⟨index, at_index⟩ := List.mem_iff_getElem?.mp member
  rw [objective_pivot pivotable.found,
    pivotable.coefficient_eliminate canonical.toShaped canonical.objective]
  rcases getElem?_rows_pivot pivotable.found at_index with
    ⟨-, rfl⟩ | ⟨differs, other, at_old, rfl⟩
  · simp [Row.coefficient_scaled_self pivotable.nonzero]
  · have unit : chosen.equation.coefficient other.basic = 0 := by
      simp [canonical.unit at_old pivotable.found, differs]
    simp [Row.scaled, unit, priced other (List.mem_of_getElem? at_old)]

theorem Tableau.Cleared.pivot (shaped : tableau.Shaped) (cleared : tableau.Cleared)
    (pivotable : tableau.Pivotable row column chosen)
    (structural : column < tableau.artificialStart) : (tableau.pivot row column).Cleared := by
  intro current member artificial
  obtain ⟨index, at_index⟩ := List.mem_iff_getElem?.mp member
  rw [artificialStart_pivot] at artificial ⊢
  rcases getElem?_rows_pivot pivotable.found at_index with ⟨-, rfl⟩ | ⟨-, other, at_old, rfl⟩
  · exact absurd structural (Nat.not_lt.mpr artificial)
  · have old := List.mem_of_getElem? at_old
    obtain ⟨rhs, coefficients⟩ := cleared other old artificial
    have entry := coefficients column structural
    refine ⟨by simp [Equation.rhs_eliminate, rhs, entry], fun index inside => ?_⟩
    rw [pivotable.coefficient_eliminate shaped (shaped.rows other old), entry,
      coefficients index inside, zero_mul, sub_zero]

theorem FeasibleBasis.pivot {start : Tableau K} {goal : Equation K}
    (basis : FeasibleBasis start goal tableau)
    (pivotable : tableau.Pivotable row column chosen)
    (nonnegative : (tableau.pivot row column).NonNegative) :
    FeasibleBasis start goal (tableau.pivot row column) where
  toCanonical := basis.toCanonical.pivot pivotable
  equivalent := (Tableau.equivalent_pivot basis.toShaped pivotable).trans basis.equivalent
  nonnegative := nonnegative
  priced := basis.priced.pivot basis.toCanonical pivotable
  objective_mem := by
    have changed := Tableau.objective_pivot_sub_mem basis.toShaped pivotable
    rw [Tableau.rowSpace_pivot basis.toShaped pivotable, ← sub_add_sub_cancel]
    exact Submodule.add_mem _ changed basis.objective_mem

end Pivot

namespace FeasibleBasis

variable {start tableau : Tableau K} {goal : Equation K}
  (basis : FeasibleBasis start goal tableau)

include basis

theorem solves_raised (column : Nat) (level : K) : start.Solves (tableau.raised column level) :=
  (basis.equivalent.solves_iff _).mp (basis.toCanonical.solves_raised column level)

theorem goal_eq {assignment : Nat → K} (solves : start.Solves assignment) :
    goal.excess assignment = tableau.objective.excess assignment := by
  have holds := (basis.equivalent.solves_iff _).mpr solves
  have difference := (Tableau.solves_iff_rowSpace _ _).mp holds _ basis.objective_mem
  exact (sub_eq_zero.mp difference).symm

theorem goal_raised (column : Nat) (level : K) :
    goal.excess (tableau.raised column level) =
      tableau.objective.coefficient column * level - tableau.objective.rhs := by
  rw [basis.goal_eq (basis.solves_raised column level),
    basis.toCanonical.objective_raised basis.priced]

theorem goal_basicPoint : goal.excess tableau.basicPoint = -tableau.objective.rhs := by
  rw [← Tableau.raised_zero tableau 0, basis.goal_raised, mul_zero, zero_sub]

theorem solves_basicPoint : start.Solves tableau.basicPoint := by
  rw [← Tableau.raised_zero tableau 0]
  exact basis.solves_raised 0 0

/-- Where no reduced cost is positive, no solution beats the basic point. -/
theorem goal_le_basicPoint {limit : Nat}
    (nonpositive : ∀ column < limit, tableau.objective.coefficient column ≤ 0)
    {assignment : Nat → K} (solves : start.Solves assignment)
    (nonnegative : ∀ index, 0 ≤ assignment index)
    (outside : ∀ index < tableau.columns, limit ≤ index → assignment index = 0) :
    goal.excess assignment ≤ goal.excess tableau.basicPoint := by
  have products : ∑ index ∈ Finset.range tableau.columns,
      tableau.objective.coefficient index * assignment index ≤ 0 := by
    apply Finset.sum_nonpos
    intro index member
    by_cases below : index < limit
    · exact mul_nonpos_of_nonpos_of_nonneg (nonpositive index below) (nonnegative index)
    · rw [outside index (Finset.mem_range.mp member) (Nat.le_of_not_lt below), mul_zero]
  rw [basis.goal_basicPoint, basis.goal_eq solves, Equation.excess, basis.objective]
  linarith

theorem raised_nonneg {column : Nat}
    (entries : ∀ row ∈ tableau.rows, row.equation.coefficient column ≤ 0) {level : K}
    (levelNonneg : 0 ≤ level) (index : Nat) : 0 ≤ tableau.raised column level index := by
  refine Tableau.raised_nonneg levelNonneg (fun row member => ?_) index
  have product := mul_nonneg levelNonneg (neg_nonneg.mpr (entries row member))
  have rhs := basis.nonnegative row member
  unfold Tableau.follow
  linarith

end FeasibleBasis

structure Chosen (options : Options K) (progress : Progress K) (columns row column : Nat) :
    Prop where
  entering : enteringColumn options progress.bland progress.tableau columns = some column
  leaving : leavingRow options progress.bland progress.tableau column = some row

namespace FeasibleBasis

variable {start : Tableau K} {goal : Equation K} {options : Options K}
  (zero : options.ZeroTolerances)

include zero

theorem chosen {progress : Progress K} {columns row column : Nat}
    (basis : FeasibleBasis start goal progress.tableau)
    (choice : Chosen options progress columns row column) :
    column < columns ∧ (∃ pivotRow, progress.tableau.Pivotable row column pivotRow) ∧
      FeasibleBasis start goal (progress.tableau.pivot row column) := by
  obtain ⟨below, inside, -⟩ := enteringColumn_eq_some choice.entering
  obtain ⟨pivotRow, found, passes, smallest⟩ :=
    leavingRow_eq_some zero.bound.ge zero.pivot.ge choice.leaving
  rw [zero.pivot] at passes smallest
  have pivotable : progress.tableau.Pivotable row column pivotRow :=
    ⟨found, basis.objective ▸ inside, passes.ne'⟩
  have level {other : Row K} (member : other ∈ progress.tableau.rows) :
      other.level = other.equation.rhs := by
    simp [Row.level, basis.nonnegative other member]
  have nonnegative : (progress.tableau.pivot row column).NonNegative := by
    apply basis.nonnegative.pivot pivotable passes
    intro other member entry
    have ratio := smallest other member entry
    rwa [zero.bound, add_zero, level member, level (List.mem_of_getElem? found)] at ratio
  exact ⟨below, ⟨pivotRow, pivotable⟩, basis.pivot pivotable nonnegative⟩

variable {tableau : Tableau K} {bland : Bool} {columns : Nat}
  (basis : FeasibleBasis start goal tableau)

include basis

/-- Where no column enters, the basic point is as good as every solution without the
columns that may not enter. -/
theorem le_basicPoint_of_enteringColumn
    (missing : enteringColumn options bland tableau columns = none) {assignment : Nat → K}
    (solves : start.Solves assignment) (nonnegative : ∀ index, 0 ≤ assignment index)
    (outside : ∀ index < tableau.columns, columns ≤ index → assignment index = 0) :
    goal.excess assignment ≤ goal.excess tableau.basicPoint := by
  have reducedCosts := enteringColumn_eq_none basis.toShaped zero.reducedCost.ge missing
  rw [zero.reducedCost] at reducedCosts
  exact basis.goal_le_basicPoint reducedCosts solves nonnegative outside

/-- Where a column enters and no row leaves, raising the column improves the objective
without limit. -/
theorem exists_raised {column : Nat}
    (entering : enteringColumn options bland tableau columns = some column)
    (missing : leavingRow options bland tableau column = none) (target : K) :
    ∃ level, (∀ index, 0 ≤ tableau.raised column level index) ∧
      target ≤ goal.excess (tableau.raised column level) := by
  obtain ⟨-, -, improving⟩ := enteringColumn_eq_some entering
  rw [zero.reducedCost] at improving
  have entries := leavingRow_eq_none zero.bound.ge zero.pivot.ge missing
  rw [zero.pivot] at entries
  refine ⟨max 0 ((target + tableau.objective.rhs) / tableau.objective.coefficient column),
    basis.raised_nonneg entries (le_max_left _ _), ?_⟩
  have reached := (div_le_iff₀' improving).mp (le_max_right 0
    ((target + tableau.objective.rhs) / tableau.objective.coefficient column))
  rw [basis.goal_raised]
  linarith

end FeasibleBasis

section Run

variable {options : Options K} {clock : Clock} {columns : Nat}
  {watch : Tableau K → Option Limit}

theorem improve_progress_induction {motive : Progress K → Prop}
    (step : ∀ {progress : Progress K} {row column : Nat}, motive progress →
      Chosen options progress columns row column → motive (progress.step options row column))
    (remaining : Nat) {progress : Progress K} (holds : motive progress) :
    motive (improve options clock columns watch remaining progress).1 := by
  fun_induction improve options clock columns watch remaining progress with
  | case5 remaining progress _ column entering row leaving next limit _ =>
      exact step holds ⟨entering, leaving⟩
  | case6 remaining progress _ column entering row leaving next _ inductionHypothesis =>
      exact inductionHypothesis (step holds ⟨entering, leaving⟩)
  | _ => exact holds

/-- What every chosen pivot keeps holds of the tableau that a phase ends with. -/
theorem improve_induction {motive : Tableau K → Prop}
    (step : ∀ {progress : Progress K} {row column : Nat}, motive progress.tableau →
      Chosen options progress columns row column → motive (progress.tableau.pivot row column))
    (remaining : Nat) {progress : Progress K} (holds : motive progress.tableau) :
    motive (improve options clock columns watch remaining progress).1.tableau :=
  improve_progress_induction (motive := fun progress => motive progress.tableau) step remaining
    holds

theorem improve_optimal {remaining : Nat} {progress final : Progress K}
    (ended : improve options clock columns watch remaining progress = (final, .optimal)) :
    enteringColumn options final.bland final.tableau columns = none := by
  fun_induction improve options clock columns watch remaining progress with
  | case3 remaining progress _ missing =>
      obtain rfl : progress = final := congrArg Prod.fst ended
      exact missing
  | case6 remaining progress _ column entering row leaving next _ inductionHypothesis =>
      exact inductionHypothesis ended
  | _ => simp at ended

theorem improve_unbounded {remaining : Nat} {progress final : Progress K}
    (ended : improve options clock columns watch remaining progress = (final, .unbounded)) :
    ∃ column, enteringColumn options final.bland final.tableau columns = some column ∧
      leavingRow options final.bland final.tableau column = none := by
  fun_induction improve options clock columns watch remaining progress with
  | case4 remaining progress _ column entering missing =>
      obtain rfl : progress = final := congrArg Prod.fst ended
      exact ⟨column, entering, missing⟩
  | case6 remaining progress _ column entering row leaving next _ inductionHypothesis =>
      exact inductionHypothesis ended
  | _ => simp at ended

end Run

end LinearProgramming.Simplex
