import LinearProgramming.Proofs.Simplex.BasicPoint
import LinearProgramming.Proofs.StandardForm

/-!
# The starting tableau

The starting tableau of a standard form has a feasible basis, and its solutions
that are non-negative and zero in the artificial columns are the feasible points of
the form, extended by the slacks of the constraints.
-/

namespace LinearProgramming.Simplex.Tableau

variable {K : Type} [ExactScalar K]

section Counting

variable {A : Type} {test : A → Bool}

theorem countP_take_lt {items : List A} {index place : Nat} {item : A}
    (at_index : items[index]? = some item) (passes : test item = true) (before : index < place) :
    (items.take index).countP test < (items.take place).countP test := by
  induction items generalizing index place with
  | nil => simp at at_index
  | cons first items inductionHypothesis =>
      obtain ⟨place, rfl⟩ := Nat.exists_eq_succ_of_ne_zero (Nat.ne_zero_of_lt before)
      cases index with
      | zero =>
          obtain rfl : first = item := by simpa using at_index
          simp [passes]
      | succ index =>
          have rest := inductionHypothesis (by simpa using at_index) (Nat.lt_of_succ_lt_succ before)
          simpa [List.countP_cons] using rest

theorem countP_take_lt_countP {items : List A} {index : Nat} {item : A}
    (at_index : items[index]? = some item) (passes : test item = true) :
    (items.take index).countP test < items.countP test := by
  obtain ⟨inside, -⟩ := List.getElem?_eq_some_iff.mp at_index
  simpa using countP_take_lt at_index passes inside

theorem countP_take_inj {items : List A} {index place : Nat} {item other : A}
    (at_index : items[index]? = some item) (passes : test item = true)
    (at_place : items[place]? = some other) (otherPasses : test other = true) :
    (items.take index).countP test = (items.take place).countP test ↔ index = place := by
  constructor
  · intro same
    rcases lt_trichotomy index place with before | equal | after
    · exact absurd same (countP_take_lt at_index passes before).ne
    · exact equal
    · exact absurd same (countP_take_lt at_place otherPasses after).ne'
  · rintro rfl
    rfl

theorem getElem?_filter_countP {items : List A} {index : Nat} {item : A}
    (at_index : items[index]? = some item) (passes : test item = true) :
    (items.filter test)[(items.take index).countP test]? = some item := by
  induction items generalizing index with
  | nil => simp at at_index
  | cons first items inductionHypothesis =>
      cases index with
      | zero =>
          obtain rfl : first = item := by simpa using at_index
          simp [passes]
      | succ index =>
          have rest := inductionHypothesis (by simpa using at_index)
          by_cases firstPasses : test first = true
          · simpa [firstPasses] using rest
          · simpa [firstPasses] using rest

end Counting

section Row

def entrySign (constraint : Constraint K) : K :=
  if flips constraint then -1 else 1

def slackSign (constraint : Constraint K) : K :=
  match relation constraint with
  | .atMost => 1
  | .atLeast => -1
  | .equal => 0

def artificialSign (constraint : Constraint K) : K :=
  if takesArtificial constraint then 1 else 0

theorem entrySign_mul_self (constraint : Constraint K) :
    entrySign constraint * entrySign constraint = 1 := by
  unfold entrySign
  split <;> simp

theorem entrySign_mul_rhs_nonneg (constraint : Constraint K) :
    0 ≤ entrySign constraint * constraint.rhs := by
  by_cases negative : constraint.rhs < 0
  · simpa [entrySign, flips, negative] using negative.le
  · simpa [entrySign, flips, negative] using not_lt.mp negative

theorem slackSign_of_not_takesSlack {constraint : Constraint K}
    (without : ¬ takesSlack constraint = true) : slackSign constraint = 0 := by
  cases entered : relation constraint <;>
    simp_all [takesSlack, Relation.hasSlack, slackSign]

/-- A constraint holds if a non-negative slack makes it an equation as it enters. -/
theorem holds_of_slack {constraint : Constraint K} {left slack : K} (nonneg : 0 ≤ slack)
    (equation : entrySign constraint * (left - constraint.rhs) +
      slackSign constraint * slack = 0) :
    constraint.relation.Holds left constraint.rhs := by
  by_cases negative : constraint.rhs < 0 <;> cases stated : constraint.relation <;>
    simp [entrySign, slackSign, Tableau.relation, flips, negative, stated,
      Relation.negated] at equation <;>
    simp only [Relation.Holds] <;>
    linarith

theorem slack_of_holds {constraint : Constraint K} {left : K}
    (holds : constraint.relation.Holds left constraint.rhs) :
    entrySign constraint * (left - constraint.rhs) +
      slackSign constraint * |left - constraint.rhs| = 0 := by
  cases stated : constraint.relation with
  | atMost =>
      have below : left - constraint.rhs ≤ 0 := by
        simpa [stated, Relation.Holds] using holds
      by_cases negative : constraint.rhs < 0 <;>
        simp [entrySign, slackSign, Tableau.relation, flips, negative, stated, Relation.negated,
          abs_of_nonpos below]
  | atLeast =>
      have above : 0 ≤ left - constraint.rhs := by
        simpa [stated, Relation.Holds] using holds
      by_cases negative : constraint.rhs < 0 <;>
        simp [entrySign, slackSign, Tableau.relation, flips, negative, stated, Relation.negated,
          abs_of_nonneg above]
  | equal =>
      have same : left - constraint.rhs = 0 := by
        simpa [stated, Relation.Holds, sub_eq_zero] using holds
      simp [same]

variable {columns slack artificial : Nat} {constraint : Constraint K}

theorem length_rowOf (columns slack artificial : Nat) (constraint : Constraint K) :
    (rowOf columns slack artificial constraint).1.equation.coefficients.length = columns := by
  unfold rowOf
  cases relation constraint <;> simp

theorem rhs_rowOf (columns slack artificial : Nat) (constraint : Constraint K) :
    (rowOf columns slack artificial constraint).1.equation.rhs =
      entrySign constraint * constraint.rhs := by
  unfold rowOf
  cases relation constraint <;> rfl

def entered (columns : Nat) (constraint : Constraint K) : List K :=
  Dense.ofCells columns
    (constraint.cells.map fun (column, value) => (column, entrySign constraint * value))

theorem entry_entered {column : Nat} (inside : column < columns) :
    Dense.entry (entered columns constraint) column =
      entrySign constraint * Dense.coefficientAt constraint.cells column := by
  rw [entered, Dense.entry_ofCells _ inside, Dense.coefficientAt_scale]

theorem coefficients_rowOf (columns slack artificial : Nat) (constraint : Constraint K) :
    (rowOf columns slack artificial constraint).1.equation.coefficients =
      match relation constraint with
      | .atMost => (entered columns constraint).set slack 1
      | .atLeast => ((entered columns constraint).set slack (-1)).set artificial 1
      | .equal => (entered columns constraint).set artificial 1 := by
  unfold rowOf
  cases relation constraint <;> rfl

/-- The entries of a constraint's row: those of the variables, of its slack and of its
artificial column. -/
theorem coefficient_rowOf
    (overVariables : ∀ cell ∈ constraint.cells, cell.1 < slack ∧ cell.1 < artificial)
    (distinct : takesSlack constraint = true → slack < artificial) {column : Nat}
    (inside : column < columns) :
    (rowOf columns slack artificial constraint).1.equation.coefficient column =
      entrySign constraint * Dense.coefficientAt constraint.cells column +
        (if column = slack then slackSign constraint else 0) +
        (if column = artificial then artificialSign constraint else 0) := by
  have absent {place : Nat} (outside : ∀ cell ∈ constraint.cells, cell.1 < place)
      (isPlace : column = place) : Dense.coefficientAt constraint.cells column = 0 :=
    Dense.coefficientAt_of_forall_ne fun cell member => isPlace ▸ (outside cell member).ne
  have atSlack := absent fun cell member => (overVariables cell member).1
  have atArtificial := absent fun cell member => (overVariables cell member).2
  have base : Dense.entry (entered columns constraint) column =
      entrySign constraint * Dense.coefficientAt constraint.cells column := entry_entered inside
  have length : (entered columns constraint).length = columns := Dense.length_ofCells _ _
  rw [Equation.coefficient, coefficients_rowOf]
  cases kind : relation constraint with
  | atMost =>
      by_cases isSlack : column = slack
      · simp [Dense.entry_set, slackSign, artificialSign, takesArtificial, kind, length, inside,
          isSlack.symm, atSlack isSlack]
      · simp [Dense.entry_set, base, artificialSign, takesArtificial, kind, isSlack,
          Ne.symm isSlack]
  | atLeast =>
      have order : slack < artificial := distinct (by simp [takesSlack, kind, Relation.hasSlack])
      by_cases isArtificial : column = artificial
      · have notSlack : column ≠ slack := by omega
        simp [Dense.entry_set, artificialSign, takesArtificial, kind, length, inside,
          isArtificial.symm, notSlack, atArtificial isArtificial]
      · by_cases isSlack : column = slack
        · simp [Dense.entry_set, slackSign, kind, length, inside, Ne.symm isArtificial,
            isArtificial, isSlack.symm, atSlack isSlack]
        · simp [Dense.entry_set, base, isArtificial, Ne.symm isArtificial, isSlack,
            Ne.symm isSlack]
  | equal =>
      by_cases isArtificial : column = artificial
      · simp [Dense.entry_set, slackSign, artificialSign, takesArtificial, kind, length, inside,
          isArtificial.symm, atArtificial isArtificial]
      · simp [Dense.entry_set, base, slackSign, kind, isArtificial, Ne.symm isArtificial]

def firstValues (count : Nat) (assignment : Nat → K) : List K :=
  (List.range count).map assignment

omit [ExactScalar K] in
@[simp]
theorem length_firstValues (count : Nat) (assignment : Nat → K) :
    (firstValues count assignment).length = count := by
  simp [firstValues]

theorem entry_firstValues {count index : Nat} (inside : index < count) (assignment : Nat → K) :
    Dense.entry (firstValues count assignment) index = assignment index := by
  simp [firstValues, Dense.entry, inside]

theorem Canonical.values_eq {tableau : Tableau K} (canonical : tableau.Canonical)
    (nonnegative : tableau.NonNegative) :
    tableau.values = firstValues tableau.variableCount tableau.basicPoint := by
  apply List.ext_getElem (by simp)
  intro index inside other
  rw [← Dense.entry_eq_getElem inside, ← Dense.entry_eq_getElem other,
    canonical.entry_values nonnegative (by simpa using inside),
    entry_firstValues (by simpa using inside)]

theorem excess_rowOf {count : Nat} (overVariables : ∀ cell ∈ constraint.cells, cell.1 < count)
    (countSlack : count ≤ slack) (countArtificial : count ≤ artificial)
    (distinct : takesSlack constraint = true → slack < artificial)
    (slackInside : takesSlack constraint = true → slack < columns)
    (artificialInside : takesArtificial constraint = true → artificial < columns)
    (countInside : count ≤ columns) (assignment : Nat → K) :
    (rowOf columns slack artificial constraint).1.equation.excess assignment =
      entrySign constraint *
          (Dense.dotCells constraint.cells (firstValues count assignment) - constraint.rhs) +
        slackSign constraint * assignment slack +
        artificialSign constraint * assignment artificial := by
  have places : ∀ cell ∈ constraint.cells, cell.1 < slack ∧ cell.1 < artificial :=
    fun cell member =>
      ⟨(overVariables cell member).trans_le countSlack,
        (overVariables cell member).trans_le countArtificial⟩
  have variablePart : ∑ column ∈ Finset.range columns,
      Dense.coefficientAt constraint.cells column * assignment column =
        Dense.dotCells constraint.cells (firstValues count assignment) := by
    rw [Dense.dotCells_eq_sum fun cell member => (overVariables cell member).trans_le countInside]
    apply Finset.sum_congr rfl
    intro column _
    by_cases inside : column < count
    · rw [entry_firstValues inside]
    · have zero : Dense.coefficientAt constraint.cells column = 0 :=
        Dense.coefficientAt_of_forall_ne fun cell member => by
          have below := overVariables cell member
          omega
      rw [zero, zero_mul, zero_mul]
  have slackPart : ∑ column ∈ Finset.range columns,
      (if column = slack then slackSign constraint else 0) * assignment column =
        slackSign constraint * assignment slack := by
    by_cases takes : takesSlack constraint = true
    · simp [slackInside takes]
    · simp [slackSign_of_not_takesSlack takes]
  have artificialPart : ∑ column ∈ Finset.range columns,
      (if column = artificial then artificialSign constraint else 0) * assignment column =
        artificialSign constraint * assignment artificial := by
    by_cases takes : takesArtificial constraint = true
    · simp [artificialInside takes]
    · simp [artificialSign, takes]
  rw [Equation.excess, length_rowOf, rhs_rowOf]
  have expanded := Finset.sum_congr (rfl : Finset.range columns = Finset.range columns)
    fun column member => congrArg (· * assignment column)
      (coefficient_rowOf places distinct (Finset.mem_range.mp member))
  rw [expanded]
  simp only [add_mul, Finset.sum_add_distrib, slackPart, artificialPart, mul_assoc,
    ← Finset.mul_sum, variablePart]
  ring

end Row

section Columns

/-- The slack column of the constraint at an index, if it takes one. -/
def slackColumn (form : StandardForm K) (index : Nat) : Nat :=
  form.variableCount + (form.constraints.take index).countP takesSlack

/-- The artificial column of the constraint at an index, if it takes one. -/
def artificialColumn (form : StandardForm K) (index : Nat) : Nat :=
  form.variableCount + form.constraints.countP takesSlack +
    (form.constraints.take index).countP takesArtificial

theorem getElem?_rowsOf (columns slack artificial : Nat) (constraints : List (Constraint K))
    (index : Nat) :
    (rowsOf columns slack artificial constraints)[index]? =
      constraints[index]?.map
        (rowOf columns (slack + (constraints.take index).countP takesSlack)
          (artificial + (constraints.take index).countP takesArtificial)) := by
  induction constraints generalizing slack artificial index with
  | nil => simp [rowsOf]
  | cons constraint constraints inductionHypothesis =>
      cases index with
      | zero => simp [rowsOf]
      | succ index =>
          simp only [rowsOf, List.getElem?_cons_succ, inductionHypothesis, List.take_succ_cons,
            List.countP_cons, Bool.toNat]
          simp [add_comm, add_left_comm, Bool.cond_eq_ite]

variable (form : StandardForm K)

theorem columns_ofStandardForm :
    (ofStandardForm form).columns =
      form.variableCount + form.constraints.countP takesSlack +
        form.constraints.countP takesArtificial := rfl

def startRow (form : StandardForm K) (index : Nat) (constraint : Constraint K) : Row K × Marker K :=
  rowOf (ofStandardForm form).columns (slackColumn form index) (artificialColumn form index)
    constraint

theorem getElem?_rows_ofStandardForm (index : Nat) :
    (ofStandardForm form).rows[index]? =
      form.constraints[index]?.map fun constraint =>
        (startRow form index constraint).1 := by
  simp only [ofStandardForm, List.getElem?_map, getElem?_rowsOf, Option.map_map]
  rfl

theorem getElem?_markers_ofStandardForm (index : Nat) :
    (ofStandardForm form).markers[index]? =
      form.constraints[index]?.map fun constraint =>
        (startRow form index constraint).2 := by
  simp only [ofStandardForm, List.getElem?_map, getElem?_rowsOf, Option.map_map]
  rfl

variable {form} {index place : Nat} {constraint other : Constraint K}
  (at_index : form.constraints[index]? = some constraint)
  (at_place : form.constraints[place]? = some other)

theorem variableCount_le_slackColumn (form : StandardForm K) (index : Nat) :
    form.variableCount ≤ slackColumn form index := Nat.le_add_right _ _

theorem artificialStart_le_artificialColumn (form : StandardForm K) (index : Nat) :
    (ofStandardForm form).artificialStart ≤ artificialColumn form index := Nat.le_add_right _ _

theorem variableCount_le_artificialStart (form : StandardForm K) :
    form.variableCount ≤ (ofStandardForm form).artificialStart := Nat.le_add_right _ _

include at_index

theorem slackColumn_lt (takes : takesSlack constraint = true) :
    slackColumn form index < (ofStandardForm form).artificialStart :=
  Nat.add_lt_add_left (countP_take_lt_countP at_index takes) _

theorem artificialColumn_lt (takes : takesArtificial constraint = true) :
    artificialColumn form index < (ofStandardForm form).columns :=
  Nat.add_lt_add_left (countP_take_lt_countP at_index takes) _

include at_place

theorem slackColumn_inj (takes : takesSlack constraint = true)
    (otherTakes : takesSlack other = true) :
    slackColumn form index = slackColumn form place ↔ index = place := by
  rw [slackColumn, slackColumn, Nat.add_left_cancel_iff]
  exact countP_take_inj at_index takes at_place otherTakes

theorem artificialColumn_inj (takes : takesArtificial constraint = true)
    (otherTakes : takesArtificial other = true) :
    artificialColumn form index = artificialColumn form place ↔ index = place := by
  rw [artificialColumn, artificialColumn, Nat.add_left_cancel_iff]
  exact countP_take_inj at_index takes at_place otherTakes

end Columns

section Start

variable {form : StandardForm K}

theorem mem_rows_ofStandardForm {row : Row K} (member : row ∈ (ofStandardForm form).rows) :
    ∃ index constraint, form.constraints[index]? = some constraint ∧
      (startRow form index constraint).1 = row := by
  obtain ⟨index, at_index⟩ := List.mem_iff_getElem?.mp member
  rw [getElem?_rows_ofStandardForm, Option.map_eq_some_iff] at at_index
  obtain ⟨constraint, found, isRow⟩ := at_index
  exact ⟨index, constraint, found, isRow⟩

theorem shaped_ofStandardForm (form : StandardForm K) : (ofStandardForm form).Shaped where
  rows := by
    intro row member
    obtain ⟨index, constraint, -, rfl⟩ := mem_rows_ofStandardForm member
    exact length_rowOf _ _ _ _
  objective := by
    simp [ofStandardForm, columns, artificialStart, Dense.zeros, StandardForm.variableCount,
      Nat.add_assoc]

theorem nonNegative_ofStandardForm (form : StandardForm K) :
    (ofStandardForm form).NonNegative := by
  intro row member
  obtain ⟨index, constraint, -, rfl⟩ := mem_rows_ofStandardForm member
  rw [startRow, rhs_rowOf]
  exact entrySign_mul_rhs_nonneg constraint

theorem basic_rowOf (columns slack artificial : Nat) (constraint : Constraint K) :
    (rowOf columns slack artificial constraint).1.basic =
      if takesArtificial constraint then artificial else slack := by
  unfold rowOf takesArtificial
  cases relation constraint <;> simp

theorem basic_startRow (form : StandardForm K) (index : Nat) (constraint : Constraint K) :
    (startRow form index constraint).1.basic =
      if takesArtificial constraint then artificialColumn form index
      else slackColumn form index :=
  basic_rowOf _ _ _ _

theorem takesSlack_of_not_takesArtificial {constraint : Constraint K}
    (without : ¬ takesArtificial constraint = true) :
    takesSlack constraint = true ∧ slackSign constraint = 1 := by
  have kind : relation constraint = .atMost := by simpa [takesArtificial] using without
  simp [takesSlack, slackSign, kind, Relation.hasSlack]

theorem basic_bounds {index : Nat} {constraint : Constraint K}
    (at_index : form.constraints[index]? = some constraint) :
    form.variableCount ≤
        (startRow form index constraint).1.basic ∧
      (startRow form index constraint).1.basic < (ofStandardForm form).columns := by
  rw [basic_startRow]
  have start := variableCount_le_artificialStart form
  split
  · rename_i takes
    have lower := artificialStart_le_artificialColumn form index
    exact ⟨start.trans lower, artificialColumn_lt at_index takes⟩
  · rename_i without
    have below := slackColumn_lt at_index (takesSlack_of_not_takesArtificial without).1
    exact ⟨variableCount_le_slackColumn form index,
      below.trans_le (artificialStart_le_columns _)⟩

theorem objective_ofStandardForm_of_le {column : Nat} (outside : form.variableCount ≤ column) :
    (ofStandardForm form).objective.coefficient column = 0 := by
  obtain ⟨offset, rfl⟩ := Nat.exists_eq_add_of_le outside
  rw [Equation.coefficient, ofStandardForm, StandardForm.variableCount, Dense.entry_append_right,
    Dense.entry_zeros]

theorem pricedOut_ofStandardForm (form : StandardForm K) : (ofStandardForm form).PricedOut := by
  intro row member
  obtain ⟨index, constraint, at_index, rfl⟩ := mem_rows_ofStandardForm member
  exact objective_ofStandardForm_of_le (basic_bounds at_index).1

theorem objective_excess_ofStandardForm (form : StandardForm K) (assignment : Nat → K) :
    (ofStandardForm form).objective.excess assignment =
      Dense.dot form.cost (firstValues form.variableCount assignment) := by
  have rest : ∑ column ∈ Finset.range
      (form.constraints.countP takesSlack + form.constraints.countP takesArtificial),
      (ofStandardForm form).objective.coefficient (form.variableCount + column) *
        assignment (form.variableCount + column) = 0 :=
    Finset.sum_eq_zero fun column _ => by
      rw [objective_ofStandardForm_of_le (Nat.le_add_right _ _), zero_mul]
  have rhs : (ofStandardForm form).objective.rhs = 0 := rfl
  rw [Equation.excess, (shaped_ofStandardForm form).objective, columns_ofStandardForm,
    Nat.add_assoc, Finset.sum_range_add, rest, rhs, add_zero, sub_zero, Dense.dot_eq_sum]
  apply Finset.sum_congr rfl
  intro column member
  have inside : column < form.variableCount := Finset.mem_range.mp member
  rw [entry_firstValues inside, Equation.coefficient, ofStandardForm,
    Dense.entry_append_left _ inside]

variable (wellFormed : form.WellFormed)

include wellFormed

theorem coefficient_ofStandardForm {index : Nat} {constraint : Constraint K}
    (at_index : form.constraints[index]? = some constraint) {column : Nat}
    (inside : column < (ofStandardForm form).columns) :
    (startRow form index constraint).1.equation.coefficient column =
      entrySign constraint * Dense.coefficientAt constraint.cells column +
        (if column = slackColumn form index then slackSign constraint else 0) +
        (if column = artificialColumn form index then artificialSign constraint else 0) := by
  have start := variableCount_le_artificialStart form
  have artificial := artificialStart_le_artificialColumn form index
  apply coefficient_rowOf _ _ inside
  · intro cell member
    have below := wellFormed constraint (List.mem_of_getElem? at_index) cell member
    have slack := variableCount_le_slackColumn form index
    omega
  · intro takes
    exact (slackColumn_lt at_index takes).trans_le artificial

theorem coefficient_outside {index : Nat} {constraint : Constraint K}
    (at_index : form.constraints[index]? = some constraint) {column : Nat}
    (outside : form.variableCount ≤ column) (inside : column < (ofStandardForm form).columns) :
    (startRow form index constraint).1.equation.coefficient column =
      (if column = slackColumn form index then slackSign constraint else 0) +
        (if column = artificialColumn form index then artificialSign constraint else 0) := by
  have zero : Dense.coefficientAt constraint.cells column = 0 :=
    Dense.coefficientAt_of_forall_ne fun cell member => by
      have below := wellFormed constraint (List.mem_of_getElem? at_index) cell member
      omega
  rw [coefficient_ofStandardForm wellFormed at_index inside, zero, mul_zero, zero_add]

/-- A slack column has its only entry in the row of its constraint. -/
theorem coefficient_slackColumn {index place : Nat} {constraint other : Constraint K}
    (at_index : form.constraints[index]? = some constraint)
    (at_place : form.constraints[place]? = some other) (takes : takesSlack constraint = true) :
    (startRow form place other).1.equation.coefficient (slackColumn form index) =
      if index = place then slackSign constraint else 0 := by
  have below := slackColumn_lt at_index takes
  have artificial := artificialStart_le_artificialColumn form place
  have noArtificial : (if slackColumn form index = artificialColumn form place then
      artificialSign other else 0) = 0 := if_neg (by omega)
  rw [coefficient_outside wellFormed at_place (variableCount_le_slackColumn form index)
    (below.trans_le (artificialStart_le_columns _)), noArtificial, add_zero]
  by_cases otherTakes : takesSlack other = true
  · have samePlace := slackColumn_inj at_index at_place takes otherTakes
    by_cases same : index = place
    · obtain rfl : constraint = other :=
        Option.some.inj ((same ▸ at_index).symm.trans at_place)
      rw [if_pos (samePlace.mpr same), if_pos same]
    · rw [if_neg (mt samePlace.mp same), if_neg same]
  · have differs : index ≠ place := by
      rintro rfl
      exact otherTakes (Option.some.inj (at_index.symm.trans at_place) ▸ takes)
    simp [slackSign_of_not_takesSlack otherTakes, differs]

theorem coefficient_artificialColumn {index place : Nat} {constraint other : Constraint K}
    (at_index : form.constraints[index]? = some constraint)
    (at_place : form.constraints[place]? = some other)
    (takes : takesArtificial constraint = true) :
    (startRow form place other).1.equation.coefficient
          (artificialColumn form index) = if index = place then 1 else 0 := by
  have lower := artificialStart_le_artificialColumn form index
  have start := variableCount_le_artificialStart form
  have noSlack : (if artificialColumn form index = slackColumn form place then slackSign other
      else 0) = 0 := by
    by_cases otherTakes : takesSlack other = true
    · have below := slackColumn_lt at_place otherTakes
      rw [if_neg (by omega)]
    · simp [slackSign_of_not_takesSlack otherTakes]
  rw [coefficient_outside wellFormed at_place (start.trans lower)
    (artificialColumn_lt at_index takes), noSlack, zero_add]
  by_cases otherTakes : takesArtificial other = true
  · simp [artificialColumn_inj at_index at_place takes otherTakes, artificialSign, otherTakes]
  · have differs : index ≠ place := by
      rintro rfl
      exact otherTakes (Option.some.inj (at_index.symm.trans at_place) ▸ takes)
    simp [artificialSign, otherTakes, differs]

theorem canonical_ofStandardForm : (ofStandardForm form).Canonical where
  toShaped := shaped_ofStandardForm form
  basic_lt := by
    intro row member
    obtain ⟨index, constraint, at_index, rfl⟩ := mem_rows_ofStandardForm member
    exact (basic_bounds at_index).2
  unit := by
    intro index place row otherRow at_index at_place
    rw [getElem?_rows_ofStandardForm, Option.map_eq_some_iff] at at_index at_place
    obtain ⟨constraint, at_index, rfl⟩ := at_index
    obtain ⟨other, at_place, rfl⟩ := at_place
    rw [basic_startRow]
    split
    · rename_i takes
      exact coefficient_artificialColumn wellFormed at_index at_place takes
    · rename_i without
      obtain ⟨takes, sign⟩ := takesSlack_of_not_takesArtificial without
      rw [coefficient_slackColumn wellFormed at_index at_place takes, sign]

theorem excess_startRow {index : Nat} {constraint : Constraint K}
    (at_index : form.constraints[index]? = some constraint) (assignment : Nat → K) :
    (startRow form index constraint).1.equation.excess assignment =
      entrySign constraint *
          (Dense.dotCells constraint.cells (firstValues form.variableCount assignment) -
            constraint.rhs) +
        slackSign constraint * assignment (slackColumn form index) +
        artificialSign constraint * assignment (artificialColumn form index) := by
  have start := variableCount_le_artificialStart form
  have artificial := artificialStart_le_artificialColumn form index
  exact excess_rowOf (wellFormed constraint (List.mem_of_getElem? at_index))
    (variableCount_le_slackColumn form index) (start.trans artificial)
    (fun takes => (slackColumn_lt at_index takes).trans_le artificial)
    (fun takes => (slackColumn_lt at_index takes).trans_le (artificialStart_le_columns _))
    (artificialColumn_lt at_index)
    (start.trans (artificialStart_le_columns (ofStandardForm form))) assignment

/-- The rows of the starting tableau, written out at an assignment. -/
theorem solves_ofStandardForm_iff (assignment : Nat → K) :
    (ofStandardForm form).Solves assignment ↔
      ∀ index constraint, form.constraints[index]? = some constraint →
        entrySign constraint *
            (Dense.dotCells constraint.cells (firstValues form.variableCount assignment) -
              constraint.rhs) +
          slackSign constraint * assignment (slackColumn form index) +
          artificialSign constraint * assignment (artificialColumn form index) = 0 := by
  constructor
  · intro solves index constraint at_index
    have at_row := getElem?_rows_ofStandardForm form index
    rw [at_index, Option.map_some] at at_row
    rw [← excess_startRow wellFormed at_index]
    exact solves _ (List.mem_of_getElem? at_row)
  · intro equations row member
    obtain ⟨index, constraint, at_index, rfl⟩ := mem_rows_ofStandardForm member
    rw [excess_startRow wellFormed at_index]
    exact equations index constraint at_index

/-- A non-negative solution without artificial columns gives a feasible point. -/
theorem feasible_of_solves {assignment : Nat → K}
    (solves : (ofStandardForm form).Solves assignment) (nonnegative : ∀ index, 0 ≤ assignment index)
    (artificial : ∀ index, (ofStandardForm form).artificialStart ≤ index → assignment index = 0) :
    form.Feasible (firstValues form.variableCount assignment) where
  length_eq := length_firstValues _ _
  nonnegative := by
    intro value member
    obtain ⟨index, -, rfl⟩ := List.mem_map.mp member
    exact nonnegative index
  constraints := by
    intro constraint member
    obtain ⟨index, at_index⟩ := List.mem_iff_getElem?.mp member
    have equation := (solves_ofStandardForm_iff wellFormed assignment).mp solves index constraint
      at_index
    rw [artificial _ (artificialStart_le_artificialColumn form index), mul_zero, add_zero]
      at equation
    exact holds_of_slack (nonnegative _) equation

/-- A feasible point, extended by the slacks of its constraints, is a solution. -/
theorem exists_solves {point : List K} (feasible : form.Feasible point) :
    ∃ assignment, (ofStandardForm form).Solves assignment ∧ (∀ index, 0 ≤ assignment index) ∧
      (∀ index, (ofStandardForm form).artificialStart ≤ index → assignment index = 0) ∧
      firstValues form.variableCount assignment = point := by
  -- The point is followed by the slacks, in the order of their constraints, and by zeros.
  let slacks := (form.constraints.filter takesSlack).map fun constraint =>
    |Dense.dotCells constraint.cells point - constraint.rhs|
  have slacksLength : slacks.length = form.constraints.countP takesSlack := by
    simp [slacks, List.countP_eq_length_filter]
  have first : firstValues form.variableCount (Dense.entry (point ++ slacks)) = point := by
    apply List.ext_getElem (by simp [feasible.length_eq])
    intro index _ inside
    simp [firstValues, Dense.entry, inside, List.getElem?_append_left inside]
  have artificial (index : Nat) (outside : (ofStandardForm form).artificialStart ≤ index) :
      Dense.entry (point ++ slacks) index = 0 := by
    apply Dense.entry_of_length_le
    rw [List.length_append, feasible.length_eq, slacksLength]
    exact outside
  refine ⟨Dense.entry (point ++ slacks), ?_, ?_, artificial, first⟩
  · rw [solves_ofStandardForm_iff wellFormed]
    intro index constraint at_index
    have holds := feasible.constraints constraint (List.mem_of_getElem? at_index)
    rw [first, artificial _ (artificialStart_le_artificialColumn form index), mul_zero, add_zero]
    by_cases takes : takesSlack constraint = true
    · have slack : Dense.entry (point ++ slacks) (slackColumn form index) =
          |Dense.dotCells constraint.cells point - constraint.rhs| := by
        rw [slackColumn, ← feasible.length_eq, Dense.entry_append_right]
        simp [Dense.entry, slacks, getElem?_filter_countP at_index takes]
      rw [slack]
      exact slack_of_holds holds
    · have equation := slack_of_holds holds
      rwa [slackSign_of_not_takesSlack takes, zero_mul] at equation ⊢
  · apply Dense.entry_nonneg
    intro value member
    rcases List.mem_append.mp member with inPoint | inSlacks
    · exact feasible.nonnegative value inPoint
    · obtain ⟨constraint, -, rfl⟩ := List.mem_map.mp inSlacks
      exact abs_nonneg _

end Start

end LinearProgramming.Simplex.Tableau
