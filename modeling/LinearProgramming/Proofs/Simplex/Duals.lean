import Mathlib.Tactic.LinearCombination
import LinearProgramming.Proofs.Certificate
import LinearProgramming.Proofs.Simplex.RowOperations
import LinearProgramming.Proofs.Simplex.Soundness

/-!
# The duals of the simplex method

The objective of a tableau differs from the original one by a combination of the
starting rows.  The weights of the combination are read off the markers, since the
column of a marker has its only entry in the row of its constraint.
-/

namespace LinearProgramming.Simplex

variable {K : Type} [ExactScalar K]

namespace Tableau

section Markers

variable {form : StandardForm K} {index place : Nat} {constraint other : Constraint K}

theorem marker_startRow (form : StandardForm K) (index : Nat) (constraint : Constraint K) :
    let marker := (startRow form index constraint).2
    marker.flipped = flips constraint ∧
      (takesSlack constraint = true ∧ marker.column = slackColumn form index ∧
          marker.sign = slackSign constraint ∨
        takesArtificial constraint = true ∧ marker.column = artificialColumn form index ∧
          marker.sign = 1) := by
  unfold startRow rowOf
  cases kind : relation constraint <;>
    simp [takesSlack, takesArtificial, slackSign, kind, Relation.hasSlack]

theorem sign_mul_self (form : StandardForm K) (index : Nat) (constraint : Constraint K) :
    (startRow form index constraint).2.sign * (startRow form index constraint).2.sign = 1 := by
  obtain ⟨-, ⟨takes, -, sign⟩ | ⟨-, -, sign⟩⟩ := marker_startRow form index constraint
  · rw [sign, slackSign_mul_self takes]
  · rw [sign, one_mul]

variable (at_index : form.constraints[index]? = some constraint)

include at_index

theorem marker_bounds :
    form.variableCount ≤ (startRow form index constraint).2.column ∧
      (startRow form index constraint).2.column < (ofStandardForm form).columns := by
  have start := variableCount_le_artificialStart form
  obtain ⟨-, ⟨takes, column, -⟩ | ⟨takes, column, -⟩⟩ := marker_startRow form index constraint
  · rw [column]
    exact ⟨variableCount_le_slackColumn form index,
      (slackColumn_lt at_index takes).trans_le (artificialStart_le_columns _)⟩
  · rw [column]
    exact ⟨start.trans (artificialStart_le_artificialColumn form index),
      artificialColumn_lt at_index takes⟩

theorem coefficient_marker (wellFormed : form.WellFormed)
    (at_place : form.constraints[place]? = some other) :
    (startRow form place other).1.equation.coefficient (startRow form index constraint).2.column =
      if index = place then (startRow form index constraint).2.sign else 0 := by
  obtain ⟨-, ⟨takes, column, sign⟩ | ⟨takes, column, sign⟩⟩ := marker_startRow form index constraint
  · rw [column, sign]
    exact coefficient_slackColumn wellFormed at_index at_place takes
  · rw [column, sign]
    exact coefficient_artificialColumn wellFormed at_index at_place takes

end Markers

section Weights

variable {form : StandardForm K}

def rowAt (form : StandardForm K) (place : Fin form.constraints.length) : Row K :=
  (startRow form place.val form.constraints[place.val]).1

theorem mem_rows_iff_rowAt (row : Row K) :
    row ∈ (ofStandardForm form).rows ↔ ∃ place, rowAt form place = row := by
  constructor
  · intro member
    obtain ⟨index, constraint, at_index, rfl⟩ := mem_rows_ofStandardForm member
    obtain ⟨inside, rfl⟩ := List.getElem?_eq_some_iff.mp at_index
    exact ⟨⟨index, inside⟩, rfl⟩
  · rintro ⟨place, rfl⟩
    have at_row := getElem?_rows_ofStandardForm form place.val
    rw [List.getElem?_eq_getElem place.isLt, Option.map_some] at at_row
    exact List.mem_of_getElem? at_row

/-- The objective of a tableau is the original one plus weighted starting rows. -/
def Weighs (form : StandardForm K) (tableau : Tableau K)
    (weights : Fin form.constraints.length → K) : Prop :=
  ∀ column < (ofStandardForm form).columns,
    tableau.objective.coefficient column =
      (ofStandardForm form).objective.coefficient column +
        ∑ place, weights place * (rowAt form place).equation.coefficient column

theorem exists_weighs {tableau : Tableau K}
    (basis : ClearedBasis (ofStandardForm form) tableau) :
    ∃ weights, Weighs form tableau weights := by
  have membership := basis.objective_mem
  rw [basis.equivalent.rowSpace] at membership
  obtain ⟨weights, combined⟩ := exists_weights mem_rows_iff_rowAt membership
  have combines := combines_of_excess (fun _ => length_rowOf _ _ _ _)
    (shaped_ofStandardForm form).objective
    (basis.objective.trans basis.equivalent.columns_eq) combined
  exact ⟨weights, fun column _ => combines.coefficient column⟩

variable {tableau : Tableau K} {weights : Fin form.constraints.length → K}
  (weighs : Weighs form tableau weights) (wellFormed : form.WellFormed)

include weighs

/-- A column with its only entry in one starting row shows the weight of that row. -/
theorem Weighs.coefficient_unit {column : Nat} {place : Fin form.constraints.length} {sign : K}
    (outside : form.variableCount ≤ column) (inside : column < (ofStandardForm form).columns)
    (unit : ∀ other : Fin form.constraints.length,
      (rowAt form other).equation.coefficient column = if place.val = other.val then sign else 0) :
    tableau.objective.coefficient column = weights place * sign := by
  rw [weighs column inside, objective_ofStandardForm_of_le outside, zero_add]
  simp [unit, Fin.val_inj]

include wellFormed

theorem Weighs.coefficient_slackColumn {place : Fin form.constraints.length}
    (takes : takesSlack form.constraints[place.val] = true) :
    tableau.objective.coefficient (slackColumn form place.val) =
      weights place * slackSign form.constraints[place.val] := by
  have at_place := List.getElem?_eq_getElem place.isLt
  apply weighs.coefficient_unit (variableCount_le_slackColumn form _)
    ((slackColumn_lt at_place takes).trans_le (artificialStart_le_columns _))
  intro other
  exact Tableau.coefficient_slackColumn wellFormed at_place
    (List.getElem?_eq_getElem other.isLt) takes

theorem Weighs.entry_multipliers (markers : tableau.markers = (ofStandardForm form).markers)
    (place : Fin form.constraints.length) :
    Dense.entry tableau.multipliers place.val =
      -(entrySign form.constraints[place.val] * weights place) := by
  have at_place := List.getElem?_eq_getElem place.isLt
  obtain ⟨outside, inside⟩ := marker_bounds at_place
  have sign := weighs.coefficient_unit outside inside fun other =>
    coefficient_marker at_place wellFormed (List.getElem?_eq_getElem other.isLt)
  have squared := sign_mul_self form place.val form.constraints[place.val]
  obtain ⟨flipped, -⟩ := marker_startRow form place.val form.constraints[place.val]
  have read : Dense.entry tableau.multipliers place.val =
      let marker := (startRow form place.val form.constraints[place.val]).2
      let multiplier := -tableau.objective.coefficient marker.column * marker.sign
      if marker.flipped then -multiplier else multiplier := by
    simp [multipliers, markers, Dense.entry, getElem?_markers_ofStandardForm]
  rw [read]
  simp only [sign, flipped, entrySign]
  split
  · linear_combination weights place * squared
  · linear_combination -weights place * squared

omit weighs wellFormed in
theorem length_multipliers (markers : tableau.markers = (ofStandardForm form).markers) :
    tableau.multipliers.length = form.constraints.length := by
  have rows (slack artificial columns : Nat) (constraints : List (Constraint K)) :
      (rowsOf columns slack artificial constraints).length = constraints.length := by
    induction constraints generalizing slack artificial with
    | nil => rfl
    | cons constraint constraints inductionHypothesis => simp [rowsOf, inductionHypothesis]
  simp [multipliers, markers, ofStandardForm, rows]

theorem Weighs.of_mem_zip (markers : tableau.markers = (ofStandardForm form).markers)
    {pair : Constraint K × K} (member : pair ∈ List.zip form.constraints tableau.multipliers) :
    ∃ place : Fin form.constraints.length, form.constraints[place.val] = pair.1 ∧
      pair.2 = -(entrySign pair.1 * weights place) := by
  obtain ⟨place, inside, rfl⟩ := List.mem_iff_getElem.mp member
  have bounds : place < form.constraints.length ∧ place < tableau.multipliers.length := by
    simpa using inside
  have multiplier := weighs.entry_multipliers wellFormed markers ⟨place, bounds.1⟩
  rw [Dense.entry_eq_getElem bounds.2] at multiplier
  exact ⟨⟨place, bounds.1⟩, by simp, by simpa using multiplier⟩

/-- The reduced costs of the variables at the multipliers are the coefficients of the
objective. -/
theorem Weighs.reducedCost_eq (markers : tableau.markers = (ofStandardForm form).markers)
    {index : Nat} (inside : index < form.variableCount) :
    form.reducedCost tableau.multipliers index = tableau.objective.coefficient index := by
  have columnInside : index < (ofStandardForm form).columns :=
    inside.trans_le ((variableCount_le_artificialStart form).trans (artificialStart_le_columns _))
  have cost : (ofStandardForm form).objective.coefficient index = Dense.entry form.cost index := by
    rw [Equation.coefficient, ofStandardForm, Dense.entry_append_left _ inside]
  have charge : ((List.zip form.constraints tableau.multipliers).map fun pair =>
      Dense.coefficientAt pair.1.cells index * pair.2) =
        List.ofFn fun place : Fin form.constraints.length =>
          -(weights place * (rowAt form place).equation.coefficient index) := by
    apply List.ext_getElem (by simp [length_multipliers markers])
    intro place _ placeInside
    rw [List.length_ofFn] at placeInside
    have multiplier := weighs.entry_multipliers wellFormed markers ⟨place, placeInside⟩
    rw [Dense.entry_eq_getElem (by simpa [length_multipliers markers] using placeInside)]
      at multiplier
    have notSlack := (inside.trans_le (variableCount_le_slackColumn form place)).ne
    have notArtificial := (inside.trans_le ((variableCount_le_artificialStart form).trans
      (artificialStart_le_artificialColumn form place))).ne
    have entry := coefficient_ofStandardForm wellFormed (List.getElem?_eq_getElem placeInside)
      columnInside
    rw [if_neg notSlack, if_neg notArtificial, add_zero, add_zero] at entry
    simp only [List.getElem_map, List.getElem_zip, List.getElem_ofFn, multiplier, rowAt, entry]
    ring
  rw [StandardForm.reducedCost, charge, List.sum_ofFn, Finset.sum_neg_distrib, sub_neg_eq_add,
    weighs index columnInside, cost]

end Weights

section Certificate

variable {form : StandardForm K} {tableau : Tableau K}

/-- A column that the basic point uses has no reduced cost. -/
theorem coefficient_eq_zero_of_basicPoint (priced : tableau.PricedOut) {column : Nat}
    (used : tableau.basicPoint column ≠ 0) : tableau.objective.coefficient column = 0 := by
  by_contra nonzero
  refine used (basicPoint_of_forall_ne fun row member isBasic => ?_)
  exact nonzero (isBasic ▸ priced row member)

theorem entrySign_eq_slackSign (constraint : Constraint K) :
    (constraint.relation = .atMost →
        takesSlack constraint = true ∧ entrySign constraint = slackSign constraint) ∧
      (constraint.relation = .atLeast →
        takesSlack constraint = true ∧ entrySign constraint = -slackSign constraint) := by
  unfold takesSlack entrySign slackSign Tableau.relation
  constructor <;> intro stated <;> split <;>
    simp [stated, Relation.negated, Relation.hasSlack]

/-- A constraint that is not tight has a slack, and the basic point uses it. -/
theorem slack_used (wellFormed : form.WellFormed)
    (basis : ClearedBasis (ofStandardForm form) tableau) {place : Fin form.constraints.length}
    (loose : Dense.dotCells form.constraints[place.val].cells tableau.values ≠
      form.constraints[place.val].rhs) :
    slackSign form.constraints[place.val] ≠ 0 ∧
      tableau.basicPoint (slackColumn form place.val) ≠ 0 := by
  have equation := (solves_ofStandardForm_iff wellFormed _).mp basis.solves_basicPoint place.val
    form.constraints[place.val] (List.getElem?_eq_getElem place.isLt)
  have noArtificial : tableau.basicPoint (artificialColumn form place.val) = 0 :=
    basis.cleared.basicPoint_artificial
      (basis.equivalent.artificialStart_eq ▸ artificialStart_le_artificialColumn form _)
  have count : tableau.variableCount = form.variableCount := basis.equivalent.variableCount
  rw [noArtificial, mul_zero, add_zero, ← count,
    ← basis.toCanonical.values_eq basis.nonnegative] at equation
  have entered : entrySign form.constraints[place.val] ≠ 0 :=
    left_ne_zero_of_mul_eq_one (entrySign_mul_self _)
  apply mul_ne_zero_iff.mp
  intro unused
  rw [unused, add_zero] at equation
  exact mul_ne_zero entered (sub_ne_zero.mpr loose) equation

/-- Where no variable or slack enters, the multipliers certify the values. -/
theorem certificate_of_basis (wellFormed : form.WellFormed)
    (basis : ClearedBasis (ofStandardForm form) tableau)
    (nonpositive : ∀ column < (ofStandardForm form).artificialStart,
      tableau.objective.coefficient column ≤ 0) :
    form.Certificate tableau.values tableau.multipliers := by
  obtain ⟨weights, weighs⟩ := exists_weighs basis
  have markers := basis.equivalent.markers
  have start := variableCount_le_artificialStart form
  have slackCost {place : Fin form.constraints.length}
      (takes : takesSlack form.constraints[place.val] = true) :=
    weighs.coefficient_slackColumn wellFormed takes
  have slackNonpositive {place : Fin form.constraints.length}
      (takes : takesSlack form.constraints[place.val] = true) :
      weights place * slackSign form.constraints[place.val] ≤ 0 := by
    rw [← slackCost takes]
    exact nonpositive _ (slackColumn_lt (List.getElem?_eq_getElem place.isLt) takes)
  constructor
  case reducedCost_nonpos =>
    intro index inside
    rw [weighs.reducedCost_eq wellFormed markers inside]
    exact nonpositive index (inside.trans_le start)
  case reducedCost_eq_zero =>
    intro index inside used
    have count : tableau.variableCount = form.variableCount := basis.equivalent.variableCount
    rw [weighs.reducedCost_eq wellFormed markers inside]
    rw [basis.toCanonical.entry_values basis.nonnegative (count ▸ inside)] at used
    exact coefficient_eq_zero_of_basicPoint basis.priced used
  case atMost =>
    intro pair member relation
    obtain ⟨place, isConstraint, multiplier⟩ := weighs.of_mem_zip wellFormed markers member
    obtain ⟨takes, sign⟩ := (entrySign_eq_slackSign pair.1).1 relation
    have cost := slackNonpositive (isConstraint ▸ takes)
    rw [isConstraint] at cost
    rw [multiplier, sign]
    linarith
  case atLeast =>
    intro pair member relation
    obtain ⟨place, isConstraint, multiplier⟩ := weighs.of_mem_zip wellFormed markers member
    obtain ⟨takes, sign⟩ := (entrySign_eq_slackSign pair.1).2 relation
    have cost := slackNonpositive (isConstraint ▸ takes)
    rw [isConstraint] at cost
    rw [multiplier, sign]
    linarith
  case tight =>
    intro pair member loose
    obtain ⟨place, isConstraint, multiplier⟩ := weighs.of_mem_zip wellFormed markers member
    rw [← isConstraint] at loose
    -- The slack of a loose constraint is used, so its column has no reduced cost.
    obtain ⟨sign, level⟩ := slack_used wellFormed basis loose
    have takes : takesSlack form.constraints[place.val] = true := by
      by_contra without
      exact sign (slackSign_of_not_takesSlack without)
    have cost := slackCost takes
    rw [coefficient_eq_zero_of_basicPoint basis.priced level] at cost
    rw [multiplier, (mul_eq_zero.mp cost.symm).resolve_right sign, mul_zero, neg_zero]

end Certificate

end Tableau

/-- The duals that the simplex method reports at an optimum certify it. -/
theorem solve_certified {program : Program K}
    (priced : program.cost.length = program.columns.length) {options : Options K}
    (zero : options.ZeroTolerances) (clock : Clock)
    (optimal : (solve options clock program).status = .optimal) :
    ∃ point ∈ (solve options clock program).point, program.Certified point := by
  have verdict := solve_verdict priced zero clock
  rw [optimal] at verdict
  generalize (solve options clock program).point = point at verdict ⊢
  cases verdict with
  | optimal basis missing =>
      have nonpositive := enteringColumn_eq_none basis.toShaped zero.reducedCost.ge missing
      rw [zero.reducedCost] at nonpositive
      have certificate := Tableau.certificate_of_basis
        (StandardForm.ofProgram_wellFormed priced) basis nonpositive
      exact ⟨_, rfl, certificate.certified priced⟩

theorem solve_certified_blend :
    Program.blend.cost.length = Program.blend.columns.length ∧
      (Options.exact : Options ℚ).ZeroTolerances ∧
      (solve Options.exact .still Program.blend).status = .optimal ∧
      ∃ point ∈ (solve Options.exact .still Program.blend).point, Program.blend.Certified point :=
  ⟨rfl, Options.zeroTolerances_exact, by decide +kernel,
    solve_certified rfl Options.zeroTolerances_exact .still (by decide +kernel)⟩

end LinearProgramming.Simplex
