import Mathlib.Algebra.Order.BigOperators.Group.Finset
import LinearProgramming.Proofs.Simplex.Pivot

/-!
# The points of a canonical tableau

A canonical tableau determines, for every level of one of its columns, a solution
of its rows: basic columns follow and all other columns are zero.  At level zero
this is the basic point, whose values are the ones a tableau reports.
-/

namespace LinearProgramming.Simplex.Tableau

variable {K : Type} [ExactScalar K]

def follow (row : Row K) (column : Nat) (level : K) : K :=
  row.equation.rhs - level * row.equation.coefficient column

/-- The assignment at which a column has a level, the basic columns follow, and all
other columns are zero. -/
def raised (tableau : Tableau K) (column : Nat) (level : K) (index : Nat) : K :=
  (if index = column then level else 0) +
    ∑ place : Fin tableau.rows.length,
      if tableau.rows[place.val].basic = index then follow tableau.rows[place.val] column level
      else 0

def basicPoint (tableau : Tableau K) (index : Nat) : K :=
  ∑ place : Fin tableau.rows.length,
    if tableau.rows[place.val].basic = index then tableau.rows[place.val].equation.rhs else 0

theorem raised_zero (tableau : Tableau K) (column : Nat) :
    tableau.raised column 0 = tableau.basicPoint := by
  funext index
  simp [raised, basicPoint, follow]

def NonNegative (tableau : Tableau K) : Prop :=
  ∀ row ∈ tableau.rows, 0 ≤ row.equation.rhs

/-- The objective has no coefficient in a basic column. -/
def PricedOut (tableau : Tableau K) : Prop :=
  ∀ row ∈ tableau.rows, tableau.objective.coefficient row.basic = 0

/-- Rows with a basic artificial column say nothing about the other columns. -/
def Cleared (tableau : Tableau K) : Prop :=
  ∀ row ∈ tableau.rows, tableau.artificialStart ≤ row.basic →
    row.equation.rhs = 0 ∧
      ∀ column < tableau.artificialStart, row.equation.coefficient column = 0

section Canonical

variable {tableau : Tableau K} (canonical : tableau.Canonical)

include canonical

theorem Canonical.basic_injective {index place : Nat} {row other : Row K}
    (at_index : tableau.rows[index]? = some row) (at_place : tableau.rows[place]? = some other)
    (sameBasic : row.basic = other.basic) : index = place := by
  have atOne := canonical.unit at_place at_place
  have atUnit := canonical.unit at_index at_place
  rw [sameBasic, atOne] at atUnit
  by_contra differs
  simp [differs] at atUnit

theorem Canonical.excess_raised {equation : Equation K}
    (width : equation.coefficients.length = tableau.columns) (column : Nat) (level : K) :
    equation.excess (tableau.raised column level) =
      equation.coefficient column * level +
        ∑ place : Fin tableau.rows.length,
          equation.coefficient tableau.rows[place.val].basic *
            follow tableau.rows[place.val] column level -
        equation.rhs := by
  have basicInside (place : Fin tableau.rows.length) :
      tableau.rows[place.val].basic < tableau.columns :=
    canonical.basic_lt _ (List.getElem_mem place.isLt)
  have raisedTerm : ∑ index ∈ Finset.range tableau.columns,
      (if index = column then equation.coefficient index * level else 0) =
        equation.coefficient column * level := by
    by_cases inside : column < tableau.columns
    · simp [inside]
    · have zero : equation.coefficient column = 0 :=
        Dense.entry_of_length_le (width ▸ Nat.le_of_not_lt inside)
      simp [inside, zero]
  simp only [Equation.excess, width, raised, mul_add, mul_ite, mul_zero, Finset.sum_add_distrib,
    Finset.mul_sum, raisedTerm]
  rw [Finset.sum_comm]
  simp [basicInside]

theorem Canonical.solves_raised (column : Nat) (level : K) :
    tableau.Solves (tableau.raised column level) := by
  intro row member
  obtain ⟨index, indexInside, rfl⟩ := List.mem_iff_getElem.mp member
  have coefficients (place : Fin tableau.rows.length) :
      tableau.rows[index].equation.coefficient tableau.rows[place.val].basic =
        if place = ⟨index, indexInside⟩ then 1 else 0 := by
    have entry := canonical.unit (List.getElem?_eq_getElem place.isLt)
      (List.getElem?_eq_getElem indexInside)
    simpa [Fin.ext_iff] using entry
  rw [canonical.excess_raised (canonical.rows _ member)]
  simp only [coefficients, ite_mul, one_mul, zero_mul, Finset.sum_ite_eq', Finset.mem_univ,
    if_true, follow]
  ring

theorem Canonical.objective_raised (priced : tableau.PricedOut) (column : Nat) (level : K) :
    tableau.objective.excess (tableau.raised column level) =
      tableau.objective.coefficient column * level - tableau.objective.rhs := by
  have zero (place : Fin tableau.rows.length) :
      tableau.objective.coefficient tableau.rows[place.val].basic = 0 :=
    priced _ (List.getElem_mem place.isLt)
  rw [canonical.excess_raised canonical.objective]
  simp only [zero, zero_mul, Finset.sum_const_zero, add_zero]

theorem Canonical.basic_eq_iff {index : Nat} (inside : index < tableau.rows.length)
    (place : Fin tableau.rows.length) :
    tableau.rows[place.val].basic = tableau.rows[index].basic ↔ place = ⟨index, inside⟩ := by
  constructor
  · intro sameBasic
    exact Fin.ext (canonical.basic_injective (List.getElem?_eq_getElem place.isLt)
      (List.getElem?_eq_getElem inside) sameBasic)
  · rintro rfl
    rfl

theorem Canonical.basicPoint_basic {index : Nat} {row : Row K}
    (at_index : tableau.rows[index]? = some row) :
    tableau.basicPoint row.basic = row.equation.rhs := by
  obtain ⟨inside, rfl⟩ := List.getElem?_eq_some_iff.mp at_index
  simp [basicPoint, canonical.basic_eq_iff inside]

end Canonical

theorem basicPoint_of_forall_ne {tableau : Tableau K} {index : Nat}
    (outside : ∀ row ∈ tableau.rows, row.basic ≠ index) : tableau.basicPoint index = 0 := by
  apply Finset.sum_eq_zero
  intro place _
  have differs : tableau.rows[place.val].basic ≠ index := outside _ (List.getElem_mem place.isLt)
  simp [differs]

theorem raised_nonneg {tableau : Tableau K} {column : Nat} {level : K} (levelNonneg : 0 ≤ level)
    (follows : ∀ row ∈ tableau.rows, 0 ≤ follow row column level) (index : Nat) :
    0 ≤ tableau.raised column level index := by
  have rows : 0 ≤ ∑ place : Fin tableau.rows.length,
      if tableau.rows[place.val].basic = index then follow tableau.rows[place.val] column level
      else 0 := by
    apply Finset.sum_nonneg
    intro place _
    have row : 0 ≤ follow tableau.rows[place.val] column level :=
      follows _ (List.getElem_mem place.isLt)
    split
    · exact row
    · exact le_rfl
  unfold raised
  split
  · exact add_nonneg levelNonneg rows
  · simpa using rows

theorem NonNegative.basicPoint_nonneg {tableau : Tableau K} (nonnegative : tableau.NonNegative)
    (index : Nat) : 0 ≤ tableau.basicPoint index := by
  rw [← raised_zero tableau 0]
  exact raised_nonneg le_rfl (fun row member => by simpa [follow] using nonnegative row member) _

/-- Raising a column that is not artificial leaves the artificial columns of a
cleared tableau at zero. -/
theorem Cleared.raised_artificial {tableau : Tableau K} (cleared : tableau.Cleared) {column : Nat}
    (inside : column < tableau.artificialStart) (level : K) {index : Nat}
    (artificial : tableau.artificialStart ≤ index) : tableau.raised column level index = 0 := by
  have differs : index ≠ column := by omega
  simp only [raised, if_neg differs, zero_add]
  apply Finset.sum_eq_zero
  intro place _
  split
  · rename_i isBasic
    obtain ⟨rhs, coefficients⟩ :=
      cleared _ (List.getElem_mem place.isLt) (isBasic ▸ artificial)
    have stays : follow tableau.rows[place.val] column level = 0 := by
      simp [follow, rhs, coefficients column inside]
    exact stays
  · rfl

theorem Cleared.basicPoint_artificial {tableau : Tableau K} (cleared : tableau.Cleared)
    {index : Nat} (artificial : tableau.artificialStart ≤ index) :
    tableau.basicPoint index = 0 := by
  apply Finset.sum_eq_zero
  intro place _
  split
  · rename_i isBasic
    exact (cleared _ (List.getElem_mem place.isLt) (isBasic ▸ artificial)).1
  · rfl

section Values

theorem length_foldl_set (rows : List (Row K)) (values : List K) :
    (rows.foldl (fun values row => values.set row.basic row.level) values).length =
      values.length := by
  induction rows generalizing values with
  | nil => rfl
  | cons row rows inductionHypothesis => simp [inductionHypothesis]

@[simp]
theorem length_values (tableau : Tableau K) :
    tableau.values.length = tableau.variableCount := by
  simp [values, length_foldl_set, Dense.zeros]

theorem entry_foldl_set_of_forall_ne {rows : List (Row K)} {index : Nat}
    (outside : ∀ row ∈ rows, row.basic ≠ index) (values : List K) :
    Dense.entry (rows.foldl (fun values row => values.set row.basic row.level) values) index =
      Dense.entry values index := by
  induction rows generalizing values with
  | nil => rfl
  | cons row rows inductionHypothesis =>
      rw [List.foldl_cons,
        inductionHypothesis fun other member => outside other (List.mem_cons_of_mem _ member),
        Dense.entry_set]
      simp [outside row List.mem_cons_self]

theorem entry_foldl_set {rows : List (Row K)} {index : Nat} {level : K}
    (agree : ∀ row ∈ rows, row.basic = index → row.level = level)
    (present : ∃ row ∈ rows, row.basic = index) {values : List K}
    (inside : index < values.length) :
    Dense.entry (rows.foldl (fun values row => values.set row.basic row.level) values) index =
      level := by
  induction rows generalizing values with
  | nil => simp at present
  | cons row rows inductionHypothesis =>
      have agreeRest : ∀ other ∈ rows, other.basic = index → other.level = level :=
        fun other member => agree other (List.mem_cons_of_mem _ member)
      rw [List.foldl_cons]
      by_cases inRest : ∃ other ∈ rows, other.basic = index
      · exact inductionHypothesis agreeRest inRest (by simpa using inside)
      · obtain ⟨found, member, isBasic⟩ := present
        have isRow : found = row := by
          rcases List.mem_cons.mp member with same | inTail
          · exact same
          · exact absurd ⟨found, inTail, isBasic⟩ inRest
        subst isRow
        rw [entry_foldl_set_of_forall_ne
          (fun other inTail basicOther => inRest ⟨other, inTail, basicOther⟩), Dense.entry_set]
        simp [isBasic, inside, agree found List.mem_cons_self isBasic]

/-- The reported values are those of the basic point, where levels below zero count as zero. -/
theorem Canonical.entry_values_eq_max {tableau : Tableau K} (canonical : tableau.Canonical)
    {index : Nat} (inside : index < tableau.variableCount) :
    Dense.entry tableau.values index = max (tableau.basicPoint index) 0 := by
  by_cases present : ∃ row ∈ tableau.rows, row.basic = index
  · have lengthInside : index < (Dense.zeros tableau.variableCount : List K).length := by
      simpa [Dense.zeros] using inside
    apply entry_foldl_set _ present lengthInside
    intro row member isBasic
    obtain ⟨place, at_place⟩ := List.mem_iff_getElem?.mp member
    rw [← isBasic, canonical.basicPoint_basic at_place, Row.level, Scalar.larger_eq_max]
  · have outside : ∀ row ∈ tableau.rows, row.basic ≠ index :=
      fun row member isBasic => present ⟨row, member, isBasic⟩
    rw [values, entry_foldl_set_of_forall_ne outside, Dense.entry_zeros,
      basicPoint_of_forall_ne outside, max_self]

theorem Canonical.entry_values {tableau : Tableau K} (canonical : tableau.Canonical)
    (nonnegative : tableau.NonNegative) {index : Nat} (inside : index < tableau.variableCount) :
    Dense.entry tableau.values index = tableau.basicPoint index := by
  rw [canonical.entry_values_eq_max inside, max_eq_left (nonnegative.basicPoint_nonneg index)]

end Values

end LinearProgramming.Simplex.Tableau
