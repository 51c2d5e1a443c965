import LinearProgramming.Proofs.Simplex.Improve

/-!
# The basis of a tableau

A pivot exchanges one basic column for another.  With the rows and the objective of a tableau
given, its basis determines its basic point and with it the value of the objective.  A chosen
pivot raises this value by what the entering column gains at the level of the leaving row, so it
keeps the value, and the point, where that level is zero.
-/

namespace LinearProgramming.Simplex

variable {K : Type} [ExactScalar K]

namespace Tableau

def basis (tableau : Tableau K) : Finset Nat :=
  (tableau.rows.map (·.basic)).toFinset

omit [ExactScalar K] in
theorem mem_basis {tableau : Tableau K} {column : Nat} :
    column ∈ tableau.basis ↔ ∃ row ∈ tableau.rows, row.basic = column := by
  simp [basis]

variable {tableau : Tableau K}

theorem Canonical.basis_subset (canonical : tableau.Canonical) :
    tableau.basis ⊆ Finset.range tableau.columns := by
  intro column member
  obtain ⟨row, inside, rfl⟩ := mem_basis.mp member
  exact Finset.mem_range.mpr (canonical.basic_lt row inside)

theorem Canonical.mem_basis_pivot (canonical : tableau.Canonical) {row column : Nat}
    {chosen : Row K} (pivotable : tableau.Pivotable row column chosen) {other : Nat} :
    other ∈ (tableau.pivot row column).basis ↔
      other = column ∨ other ∈ tableau.basis ∧ other ≠ chosen.basic := by
  rw [mem_basis, mem_basis]
  constructor
  · rintro ⟨current, member, rfl⟩
    obtain ⟨index, at_index⟩ := List.mem_iff_getElem?.mp member
    rcases getElem?_rows_pivot pivotable.found at_index with
      ⟨-, rfl⟩ | ⟨differs, old, at_old, rfl⟩
    · exact .inl rfl
    · refine .inr ⟨⟨old, List.mem_of_getElem? at_old, rfl⟩, fun same => differs ?_⟩
      exact canonical.basic_injective at_old pivotable.found same
  · rintro (rfl | ⟨⟨old, member, rfl⟩, differs⟩)
    · exact ⟨_, mem_rows_pivot pivotable.found other, rfl⟩
    · obtain ⟨index, at_index⟩ := List.mem_iff_getElem?.mp member
      have elsewhere : index ≠ row := by
        rintro rfl
        exact differs (congrArg Row.basic (Option.some.inj (at_index.symm.trans pivotable.found)))
      exact ⟨_, eliminate_mem_rows_pivot pivotable.found column at_index elsewhere, rfl⟩

/-- The basic point is the only solution that is zero outside the basis. -/
theorem Canonical.eq_basicPoint (canonical : tableau.Canonical) {assignment : Nat → K}
    (solves : tableau.Solves assignment)
    (outside : ∀ column ∉ tableau.basis, assignment column = 0) :
    assignment = tableau.basicPoint := by
  funext column
  by_cases member : column ∈ tableau.basis
  · obtain ⟨row, inside, rfl⟩ := mem_basis.mp member
    obtain ⟨index, at_index⟩ := List.mem_iff_getElem?.mp inside
    have only : ∑ place ∈ Finset.range row.equation.coefficients.length,
        row.equation.coefficient place * assignment place = assignment row.basic := by
      rw [Finset.sum_eq_single row.basic]
      · rw [canonical.unit at_index at_index, if_pos rfl, one_mul]
      · intro place _ differs
        by_cases basic : place ∈ tableau.basis
        · obtain ⟨other, otherInside, rfl⟩ := mem_basis.mp basic
          obtain ⟨otherIndex, at_other⟩ := List.mem_iff_getElem?.mp otherInside
          have elsewhere : otherIndex ≠ index := by
            rintro rfl
            exact differs (congrArg Row.basic (Option.some.inj (at_other.symm.trans at_index)))
          rw [canonical.unit at_other at_index, if_neg elsewhere, zero_mul]
        · rw [outside place basic, mul_zero]
      · intro beyond
        rw [canonical.rows row inside, Finset.mem_range] at beyond
        exact absurd (canonical.basic_lt row inside) beyond
    have holds := solves row inside
    rw [Equation.excess, only, sub_eq_zero] at holds
    rw [holds, canonical.basicPoint_basic at_index]
  · rw [outside column member, basicPoint_of_forall_ne]
    intro row inside same
    exact member (mem_basis.mpr ⟨row, inside, same⟩)

theorem basicPoint_of_not_mem_basis {column : Nat} (outside : column ∉ tableau.basis) :
    tableau.basicPoint column = 0 :=
  basicPoint_of_forall_ne fun row inside same => outside (mem_basis.mpr ⟨row, inside, same⟩)

theorem PricedOut.coefficient_eq_zero (priced : tableau.PricedOut) {column : Nat}
    (basic : column ∈ tableau.basis) : tableau.objective.coefficient column = 0 := by
  obtain ⟨row, inside, rfl⟩ := mem_basis.mp basic
  exact priced row inside

theorem raised_of_not_mem_basis {column : Nat} (outside : column ∉ tableau.basis)
    (lifted : Nat) (level : K) :
    tableau.raised lifted level column = if column = lifted then level else 0 := by
  have rows : ∀ place : Fin tableau.rows.length, tableau.rows[place.val].basic ≠ column :=
    fun place same => outside (mem_basis.mpr ⟨_, List.getElem_mem place.isLt, same⟩)
  simp [Tableau.raised, rows]

theorem Canonical.raised_basic (canonical : tableau.Canonical) {index : Nat} {row : Row K}
    (at_index : tableau.rows[index]? = some row) {column : Nat} (outside : column ∉ tableau.basis)
    (level : K) : tableau.raised column level row.basic = follow row column level := by
  obtain ⟨inside, rfl⟩ := List.getElem?_eq_some_iff.mp at_index
  have differs : tableau.rows[index].basic ≠ column :=
    fun same => outside (mem_basis.mpr ⟨_, List.getElem_mem inside, same⟩)
  simp [Tableau.raised, differs, canonical.basic_eq_iff inside]

end Tableau

/-! ## Chosen pivots -/

structure Improves (tableau : Tableau K) (row column : Nat) (chosen : Row K) : Prop
    extends tableau.Pivotable row column chosen where
  improving : 0 < tableau.objective.coefficient column
  positive : 0 < chosen.equation.coefficient column

section Pivots

variable {tableau : Tableau K} {row column : Nat} {chosen : Row K}

theorem Improves.rhs_objective_pivot (improves : Improves tableau row column chosen) :
    (tableau.pivot row column).objective.rhs =
      tableau.objective.rhs - tableau.objective.coefficient column *
        (chosen.equation.rhs / chosen.equation.coefficient column) := by
  rw [Tableau.objective_pivot improves.found, Equation.rhs_eliminate, Row.scaled,
    Equation.rhs_divide]

theorem Improves.not_mem_basis (improves : Improves tableau row column chosen)
    (priced : tableau.PricedOut) : column ∉ tableau.basis := by
  intro basic
  have zero := priced.coefficient_eq_zero basic
  exact improves.improving.ne' zero

end Pivots

namespace FeasibleBasis

variable {start first second tableau : Tableau K} {goal : Equation K}

theorem basicPoint_eq (firstBasis : FeasibleBasis start goal first)
    (secondBasis : FeasibleBasis start goal second) (same : first.basis = second.basis) :
    first.basicPoint = second.basicPoint := by
  apply secondBasis.toCanonical.eq_basicPoint
  · exact (secondBasis.equivalent.solves_iff _).mpr firstBasis.solves_basicPoint
  · intro column outside
    exact Tableau.basicPoint_of_not_mem_basis (same ▸ outside)

theorem rhs_objective_eq (firstBasis : FeasibleBasis start goal first)
    (secondBasis : FeasibleBasis start goal second) (same : first.basis = second.basis) :
    first.objective.rhs = second.objective.rhs := by
  have firstValue := firstBasis.goal_basicPoint
  have secondValue := secondBasis.goal_basicPoint
  rw [firstBasis.basicPoint_eq secondBasis same, secondValue] at firstValue
  exact (neg_injective firstValue).symm

/-- With exact comparisons the rules choose a pivot that improves. -/
theorem exists_improves {options : Options K} (zero : options.ZeroTolerances)
    {progress : Progress K} (basis : FeasibleBasis start goal progress.tableau)
    {columns row column : Nat} (choice : Chosen options progress columns row column) :
    ∃ chosen, Improves progress.tableau row column chosen := by
  obtain ⟨-, inside, improving⟩ := enteringColumn_eq_some choice.entering
  obtain ⟨chosen, found, positive, -⟩ :=
    leavingRow_eq_some zero.bound.ge zero.pivot.ge choice.leaving
  rw [zero.reducedCost] at improving
  rw [zero.pivot] at positive
  exact ⟨chosen, ⟨found, basis.objective ▸ inside, positive.ne'⟩, improving, positive⟩

variable {row column : Nat} {chosen : Row K}

/-- A pivot in a row at zero moves no column. -/
theorem basicPoint_pivot (basis : FeasibleBasis start goal tableau)
    (nextBasis : FeasibleBasis start goal (tableau.pivot row column))
    (pivotable : tableau.Pivotable row column chosen) (level : chosen.equation.rhs = 0) :
    (tableau.pivot row column).basicPoint = tableau.basicPoint := by
  symm
  apply nextBasis.toCanonical.eq_basicPoint
  · exact (nextBasis.equivalent.solves_iff _).mpr basis.solves_basicPoint
  · intro other outside
    rw [basis.toCanonical.mem_basis_pivot pivotable] at outside
    by_cases leaves : other = chosen.basic
    · rw [leaves, basis.toCanonical.basicPoint_basic pivotable.found, level]
    · exact Tableau.basicPoint_of_not_mem_basis fun basic => outside (.inr ⟨basic, leaves⟩)

end FeasibleBasis

end LinearProgramming.Simplex
