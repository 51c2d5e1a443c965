import LinearProgramming.Proofs.Simplex.Pricing
import LinearProgramming.Simplex.Solve

/-!
# What all rules agree on

Every pricing rule finds no column to enter exactly where no reduced cost passes the tolerance,
and every ratio test finds no row to leave exactly where no entry does.  So whether a run has
reached an optimum, and whether nothing limits a column, depends neither on the rules nor on how
long the pivots have made no progress.  The ratio tests differ in the row that they take.
-/

namespace LinearProgramming.Simplex

variable {K : Type} [ExactScalar K]

structure Options.NonNegativeTolerances (options : Options K) : Prop where
  bound : 0 ≤ options.boundTolerance
  reducedCost : 0 ≤ options.reducedCostTolerance
  pivot : 0 ≤ options.pivotTolerance

/-- Whatever the rules and however long the streak, a column enters that improves the objective
and a row leaves that is eligible, if there are such columns and rows.  The two-pass test takes
the row with the greatest entry within reach; the other test, and Bland's rule, the one with the
smallest ratio. -/
theorem chooses_eligible {options : Options K} (tolerances : options.NonNegativeTolerances)
    (progress : Progress K) (shaped : progress.tableau.Shaped) :
    (∀ limit,
      (enteringColumn options progress.bland progress.tableau limit = none ↔
        progress.tableau.improvingColumns options.reducedCostTolerance limit = ∅) ∧
      ∀ column, enteringColumn options progress.bland progress.tableau limit = some column →
        column ∈ progress.tableau.improvingColumns options.reducedCostTolerance limit) ∧
    ∀ column,
      (leavingRow options progress.bland progress.tableau column = none ↔
        progress.tableau.eligibleRows options.pivotTolerance column = ∅) ∧
      ∀ index, leavingRow options progress.bland progress.tableau column = some index →
        ∃ row, progress.tableau.rows[index]? = some row ∧
          row ∈ progress.tableau.eligibleRows options.pivotTolerance column ∧
          (options.harris = false ∨ degenerateStreak ≤ progress.degenerate →
            progress.tableau.SmallestRatio options.pivotTolerance column row) ∧
          (options.harris = true → progress.degenerate < degenerateStreak →
            progress.tableau.GreatestPivot options column row) := by
  refine ⟨fun limit => ⟨enteringColumn_eq_none_iff shaped tolerances.reducedCost,
      fun column => mem_improvingColumns⟩,
    fun column => ⟨leavingRow_eq_none_iff tolerances.bound tolerances.pivot,
      fun index found => ?_⟩⟩
  cases rule : options.harris && !progress.bland with
  | false =>
      obtain ⟨row, at_row, smallest⟩ := smallestRatio_of_leavingRow rule found
      refine ⟨row, at_row, smallest.eligible, fun _ => smallest, fun harris few => ?_⟩
      have many : degenerateStreak ≤ progress.degenerate := by
        simpa [Progress.bland, harris] using rule
      exact absurd few (Nat.not_lt.mpr many)
  | true =>
      obtain ⟨row, at_row, greatest⟩ := greatestPivot_of_leavingRow rule found
      refine ⟨row, at_row, greatest.reached.1, fun plain => ?_, fun _ _ => greatest⟩
      have both : options.harris = true ∧ progress.degenerate < degenerateStreak := by
        simpa [Progress.bland] using rule
      rcases plain with standard | many
      · exact absurd (both.1.symm.trans standard) (by decide)
      · exact absurd both.2 (Nat.not_lt.mpr many)

/-- Two rows share the smallest ratio of the first column, and a third has a greater entry. -/
def tied : Tableau ℚ where
  variableCount := 2
  slacks := 3
  artificials := 0
  markers := []
  rows := [⟨3, ⟨[2, 0, 1, 0, 0], 4⟩⟩, ⟨2, ⟨[1, 1, 0, 1, 0], 2⟩⟩, ⟨4, ⟨[4, 0, 0, 0, 1], 9⟩⟩]
  objective := ⟨[3, 5, 0, 0, 0], 0⟩

def Options.loose : Options ℚ :=
  { Options.standard with boundTolerance := 1 }

theorem chooses_eligible_tied :
    Options.loose.NonNegativeTolerances ∧ tied.Shaped ∧
      (enteringColumn Options.loose false tied 5 = some 1 ∧
        1 ∈ tied.improvingColumns Options.loose.reducedCostTolerance 5) ∧
      (enteringColumn Options.loose true tied 5 = some 0 ∧
        0 ∈ tied.improvingColumns Options.loose.reducedCostTolerance 5) ∧
      (∃ row, tied.rows[2]? = some row ∧ tied.GreatestPivot Options.loose 0 row) ∧
      (∃ row, tied.rows[1]? = some row ∧
        tied.SmallestRatio Options.loose.pivotTolerance 0 row) ∧
      tied.eligibleRows Options.loose.pivotTolerance 4 ≠ ∅ ∧
      tied.eligibleRows Options.loose.pivotTolerance 7 = ∅ := by
  have tolerances : Options.loose.NonNegativeTolerances :=
    ⟨by decide +kernel, by decide +kernel, by decide +kernel⟩
  have shaped : tied.Shaped := ⟨by decide +kernel, by decide +kernel⟩
  obtain ⟨entering, leaving⟩ := chooses_eligible tolerances ⟨tied, 0, 0⟩ shaped
  obtain ⟨blandEntering, blandLeaving⟩ := chooses_eligible tolerances ⟨tied, 50, 50⟩ shaped
  have enters : enteringColumn Options.loose false tied 5 = some 1 := by decide +kernel
  have blandEnters : enteringColumn Options.loose true tied 5 = some 0 := by decide +kernel
  obtain ⟨third, at_third, -, -, greatest⟩ := (leaving 0).2 2 (by decide +kernel)
  obtain ⟨second, at_second, -, smallest, -⟩ := (blandLeaving 0).2 1 (by decide +kernel)
  refine ⟨tolerances, shaped, ⟨enters, (entering 5).2 1 enters⟩,
    ⟨blandEnters, (blandEntering 5).2 0 blandEnters⟩,
    ⟨third, at_third, greatest rfl (by decide)⟩,
    ⟨second, at_second, smallest (.inr le_rfl)⟩, ?_, ?_⟩
  · exact fun empty => absurd ((leaving 4).1.mpr empty) (by decide +kernel)
  · exact (leaving 7).1.mp (by decide +kernel)

end LinearProgramming.Simplex
