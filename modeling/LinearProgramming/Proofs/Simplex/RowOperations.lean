import Mathlib.LinearAlgebra.Finsupp.LinearCombination
import Mathlib.Tactic.LinearCombination
import LinearProgramming.Proofs.Simplex.Start

/-!
# Sequences of pivots

Whatever pivots on entries other than zero follow one another, the rows keep their solutions, the
basic columns stay unit columns, and the objective only moves by a combination of the rows that it
started with.  The rows of a starting tableau say of its variables and slacks what the constraints
say of the variables, each with its own slack.
-/

namespace LinearProgramming

variable {K : Type} [ExactScalar K]

/-- A constraint holds, and the slack, if the constraint takes one, is the distance between its
sides. -/
structure Constraint.HoldsWith (constraint : Constraint K) (point : List K) (slack : K) : Prop where
  holds : constraint.Holds point
  slack_eq : constraint.relation.hasSlack = true →
    slack = |Dense.dotCells constraint.cells point - constraint.rhs|

namespace Simplex

namespace Tableau

/-! ## Slacks -/

section Slack

variable {constraint : Constraint K}

theorem takesSlack_eq (constraint : Constraint K) :
    takesSlack constraint = constraint.relation.hasSlack := by
  unfold takesSlack relation
  split
  · cases constraint.relation <;> rfl
  · rfl

theorem slackSign_mul_self (takes : takesSlack constraint = true) :
    slackSign constraint * slackSign constraint = 1 := by
  unfold takesSlack at takes
  unfold slackSign
  cases kind : relation constraint <;> simp_all [Relation.hasSlack]

/-- A non-negative slack makes an equation of a constraint, as it enters, exactly if it is the
slack with which the constraint holds. -/
theorem slack_iff_holdsWith {point : List K} {slack : K} (nonneg : 0 ≤ slack) :
    entrySign constraint * (Dense.dotCells constraint.cells point - constraint.rhs) +
        slackSign constraint * slack = 0 ↔
      constraint.HoldsWith point slack := by
  constructor
  · intro equation
    have holds : constraint.Holds point := holds_of_slack nonneg equation
    refine ⟨holds, fun takes => ?_⟩
    rw [← takesSlack_eq] at takes
    have distance := slack_of_holds holds
    exact mul_left_cancel₀ (left_ne_zero_of_mul_eq_one (slackSign_mul_self takes))
      (add_left_cancel (equation.trans distance.symm))
  · rintro ⟨holds, slack_eq⟩
    have distance := slack_of_holds holds
    by_cases takes : takesSlack constraint = true
    · rwa [slack_eq (takesSlack_eq constraint ▸ takes)]
    · rwa [slackSign_of_not_takesSlack takes, zero_mul] at distance ⊢

end Slack

/-! ## Combinations of rows -/

section Combinations

variable {tableau : Tableau K} {count : Nat} {rows : Fin count → Row K}

theorem exists_weights (listed : ∀ row, row ∈ tableau.rows ↔ ∃ place, rows place = row)
    {affine : (Nat → K) → K} (membership : affine ∈ tableau.rowSpace) :
    ∃ weights : Fin count → K, affine = ∑ place, weights place • (rows place).equation.excess := by
  have asRange : {affine | ∃ row ∈ tableau.rows, row.equation.excess = affine} =
      Set.range fun place => (rows place).equation.excess := by
    ext affine
    simp only [listed, Set.mem_ofPred_eq, Set.mem_range]
    constructor
    · rintro ⟨row, ⟨place, rfl⟩, same⟩
      exact ⟨place, same⟩
    · rintro ⟨place, same⟩
      exact ⟨_, ⟨place, rfl⟩, same⟩
  rw [rowSpace, asRange, Submodule.mem_span_range_iff_exists_fun] at membership
  obtain ⟨weights, combined⟩ := membership
  exact ⟨weights, combined.symm⟩

structure Combines (rows : Fin count → Row K) (weights : Fin count → K)
    (base equation : Equation K) : Prop where
  coefficient : ∀ column, equation.coefficient column =
    base.coefficient column + ∑ place, weights place * (rows place).equation.coefficient column
  rhs : equation.rhs = base.rhs + ∑ place, weights place * (rows place).equation.rhs

theorem combines_of_excess {columns : Nat} {weights : Fin count → K} {base equation : Equation K}
    (rowsWidth : ∀ place, (rows place).equation.coefficients.length = columns)
    (baseWidth : base.coefficients.length = columns)
    (width : equation.coefficients.length = columns)
    (combined : equation.excess - base.excess =
      ∑ place, weights place • (rows place).equation.excess) :
    Combines rows weights base equation := by
  have at_zero := congrFun combined 0
  simp only [Pi.sub_apply, Finset.sum_apply, Pi.smul_apply, smul_eq_mul,
    Equation.excess_zero, mul_neg, Finset.sum_neg_distrib] at at_zero
  refine ⟨fun column => ?_, by linear_combination -at_zero⟩
  by_cases inside : column < columns
  · have at_unit := congrFun combined (Pi.single column 1)
    simp only [Pi.sub_apply, Finset.sum_apply, Pi.smul_apply, smul_eq_mul,
      Equation.excess_single _ (width.symm ▸ inside),
      Equation.excess_single _ (baseWidth.symm ▸ inside),
      Equation.excess_single _ ((rowsWidth _).symm ▸ inside), mul_add, Finset.sum_add_distrib,
      Equation.excess_zero, mul_neg, Finset.sum_neg_distrib] at at_unit
    linear_combination at_unit - at_zero
  · have outside {other : Equation K} (otherWidth : other.coefficients.length = columns) :
        other.coefficient column = 0 :=
      Dense.entry_of_length_le (otherWidth.symm ▸ Nat.le_of_not_lt inside)
    simp [outside width, outside baseWidth, outside (rowsWidth _)]

end Combinations

/-! ## Pivots -/

inductive PivotedFrom (start : Tableau K) : Tableau K → Prop
  | refl : PivotedFrom start start
  | pivot {tableau : Tableau K} {row column : Nat} {chosen : Row K}
      (earlier : PivotedFrom start tableau) (found : tableau.rows[row]? = some chosen)
      (nonzero : chosen.equation.coefficient column ≠ 0) :
      PivotedFrom start (tableau.pivot row column)

variable {start tableau : Tableau K}

theorem Shaped.pivotable (shaped : tableau.Shaped) {row column : Nat} {chosen : Row K}
    (found : tableau.rows[row]? = some chosen)
    (nonzero : chosen.equation.coefficient column ≠ 0) :
    tableau.Pivotable row column chosen := by
  refine ⟨found, ?_, nonzero⟩
  by_contra outside
  have width := shaped.rows chosen (List.mem_of_getElem? found)
  exact nonzero (Dense.entry_of_length_le (width.symm ▸ Nat.le_of_not_lt outside))

/-- The rows say what they said at the start, in terms of another basis, and the objective has
moved by what follows from them. -/
structure Restates (start tableau : Tableau K) : Prop extends tableau.Canonical where
  equivalent : tableau.Equivalent start
  moved : tableau.objective.excess - start.objective.excess ∈ start.rowSpace

theorem Canonical.restates (canonical : start.Canonical) : start.Restates start where
  toCanonical := canonical
  equivalent := .refl start
  moved := by
    rw [sub_self]
    exact Submodule.zero_mem _

theorem Restates.pivot (restates : start.Restates tableau) {row column : Nat} {chosen : Row K}
    (pivotable : tableau.Pivotable row column chosen) :
    start.Restates (tableau.pivot row column) where
  toCanonical := restates.toCanonical.pivot pivotable
  equivalent := (equivalent_pivot restates.toShaped pivotable).trans restates.equivalent
  moved := by
    have changed := objective_pivot_sub_mem restates.toShaped pivotable
    rw [restates.equivalent.rowSpace] at changed
    rw [← sub_add_sub_cancel]
    exact Submodule.add_mem _ changed restates.moved

theorem PivotedFrom.restates (pivoted : start.PivotedFrom tableau) (canonical : start.Canonical) :
    start.Restates tableau := by
  induction pivoted with
  | refl => exact canonical.restates
  | pivot _ found nonzero inductionHypothesis =>
      exact inductionHypothesis.pivot (inductionHypothesis.toShaped.pivotable found nonzero)

/-- The objective that has moved is the first one plus weighted rows of the start. -/
theorem Restates.exists_combines (restates : start.Restates tableau) (shaped : start.Shaped) :
    ∃ weights, Combines start.rows.get weights start.objective tableau.objective := by
  obtain ⟨weights, combined⟩ := exists_weights (fun _ => List.mem_iff_get) restates.moved
  refine ⟨weights, combines_of_excess (fun place => shaped.rows _ (List.get_mem _ place))
    shaped.objective ?_ combined⟩
  rw [restates.objective, restates.equivalent.columns_eq]

/-! ## Starting tableaus and all that follow them -/

/-- A starting tableau has an identity basis at a non-negative point, and without its artificial
columns it says what the constraints say; all that pivots make of a canonical tableau has the
solutions of its rows, an identity basis, and its objective plus a combination of its rows.  The
form is one over its own variables, as that of every program is (`ofProgram_wellFormed`). -/
theorem ofStandardForm_invariant {form : StandardForm K} (wellFormed : form.WellFormed) :
    ((ofStandardForm form).NonNegative ∧ (ofStandardForm form).Canonical ∧
      ∀ assignment : Nat → K, (∀ index, 0 ≤ assignment index) →
        (∀ index, (ofStandardForm form).artificialStart ≤ index → assignment index = 0) →
          ((ofStandardForm form).Solves assignment ↔
            ∀ index (constraint : Constraint K), form.constraints[index]? = some constraint →
              constraint.HoldsWith (firstValues form.variableCount assignment)
                (assignment (slackColumn form index)))) ∧
      ∀ start tableau : Tableau K, start.Canonical → start.PivotedFrom tableau →
        (∀ assignment, tableau.Solves assignment ↔ start.Solves assignment) ∧
          tableau.Canonical ∧
          ∃ weights, Combines start.rows.get weights start.objective tableau.objective := by
  refine ⟨⟨nonNegative_ofStandardForm form, canonical_ofStandardForm wellFormed, ?_⟩, ?_⟩
  · intro assignment nonnegative artificial
    rw [solves_ofStandardForm_iff wellFormed]
    refine forall₃_congr fun index constraint _ => ?_
    rw [artificial _ (artificialStart_le_artificialColumn form index), mul_zero, add_zero]
    exact slack_iff_holdsWith (nonnegative _)
  · intro start tableau canonical pivoted
    have restates := pivoted.restates canonical
    exact ⟨restates.equivalent.solves_iff, restates.toCanonical,
      restates.exists_combines canonical.toShaped⟩

theorem ofStandardForm_invariant_blend :
    ∃ start tableau : Tableau ℚ, start = ofStandardForm (.ofProgram Program.blend) ∧
      start.Canonical ∧ start.PivotedFrom tableau ∧
      tableau.rows.map Row.basic = [0, 3, 11, 8, 12, 9] ∧ start.NonNegative ∧
      (∀ assignment, tableau.Solves assignment ↔ start.Solves assignment) ∧
      tableau.Canonical ∧
      ∃ weights, Combines start.rows.get weights start.objective tableau.objective := by
  have wellFormed : (StandardForm.ofProgram Program.blend).WellFormed :=
    StandardForm.ofProgram_wellFormed rfl
  obtain ⟨⟨nonnegative, canonical, -⟩, preserved⟩ := ofStandardForm_invariant wellFormed
  have first : (ofStandardForm (.ofProgram Program.blend)).PivotedFrom
      ((ofStandardForm (.ofProgram Program.blend)).pivot 0 0) :=
    .pivot .refl (List.getElem?_eq_getElem (by decide +kernel)) (by decide +kernel)
  have pivoted : (ofStandardForm (.ofProgram Program.blend)).PivotedFrom
      (((ofStandardForm (.ofProgram Program.blend)).pivot 0 0).pivot 1 3) :=
    .pivot first (List.getElem?_eq_getElem (by decide +kernel)) (by decide +kernel)
  exact ⟨_, _, rfl, canonical, pivoted, by decide +kernel, nonnegative,
    preserved _ _ canonical pivoted⟩

end Tableau

end Simplex

end LinearProgramming
