import Mathlib.LinearAlgebra.Span.Basic
import LinearProgramming.Proofs.Simplex.Equation

/-!
# What a pivot keeps

A pivot on an entry that is not zero leaves the row space of a tableau as it is,
and with it the solutions of the rows; it changes the objective by an element of
the row space, and it keeps the basic columns unit columns.
-/

namespace LinearProgramming.Simplex

variable {K : Type} [ExactScalar K]

def Row.scaled (row : Row K) (column : Nat) : Equation K :=
  row.equation.divide (row.equation.coefficient column)

theorem Row.coefficient_scaled_self {row : Row K} {column : Nat}
    (nonzero : row.equation.coefficient column ≠ 0) :
    (row.scaled column).coefficient column = 1 := by
  simp [Row.scaled, nonzero]

theorem Row.excess_scaled (row : Row K) (column : Nat) :
    (row.scaled column).excess = (row.equation.coefficient column)⁻¹ • row.equation.excess := by
  funext assignment
  simp [Row.scaled, Equation.excess_divide, div_eq_inv_mul]

namespace Tableau

omit [ExactScalar K] in
theorem artificialStart_le_columns (tableau : Tableau K) :
    tableau.artificialStart ≤ tableau.columns := Nat.le_add_right _ _

structure Shaped (tableau : Tableau K) : Prop where
  rows : ∀ row ∈ tableau.rows, row.equation.coefficients.length = tableau.columns
  objective : tableau.objective.coefficients.length = tableau.columns

structure Canonical (tableau : Tableau K) : Prop extends tableau.Shaped where
  basic_lt : ∀ row ∈ tableau.rows, row.basic < tableau.columns
  unit : ∀ {index place : Nat} {row other : Row K},
    tableau.rows[index]? = some row → tableau.rows[place]? = some other →
      other.equation.coefficient row.basic = if index = place then 1 else 0

/-- The affine functions that follow from the rows. -/
def rowSpace (tableau : Tableau K) : Submodule K ((Nat → K) → K) :=
  Submodule.span K {affine | ∃ row ∈ tableau.rows, row.equation.excess = affine}

def Solves (tableau : Tableau K) (assignment : Nat → K) : Prop :=
  ∀ row ∈ tableau.rows, row.equation.excess assignment = 0

theorem excess_mem_rowSpace {tableau : Tableau K} {row : Row K} (member : row ∈ tableau.rows) :
    row.equation.excess ∈ tableau.rowSpace :=
  Submodule.subset_span ⟨row, member, rfl⟩

theorem solves_iff_rowSpace (tableau : Tableau K) (assignment : Nat → K) :
    tableau.Solves assignment ↔ ∀ affine ∈ tableau.rowSpace, affine assignment = 0 := by
  constructor
  · intro solves affine membership
    induction membership using Submodule.span_induction with
    | mem affine generated =>
        obtain ⟨row, member, rfl⟩ := generated
        exact solves row member
    | zero => rfl
    | add first second _ _ firstZero secondZero => simp [firstZero, secondZero]
    | smul factor affine _ isZero => simp [isZero]
  · intro vanishes row member
    exact vanishes _ (excess_mem_rowSpace member)

structure Equivalent (tableau other : Tableau K) : Prop where
  variableCount : tableau.variableCount = other.variableCount
  slacks : tableau.slacks = other.slacks
  artificials : tableau.artificials = other.artificials
  markers : tableau.markers = other.markers
  rowSpace : tableau.rowSpace = other.rowSpace

namespace Equivalent

variable {first second third : Tableau K}

theorem refl (tableau : Tableau K) : tableau.Equivalent tableau :=
  ⟨rfl, rfl, rfl, rfl, rfl⟩

theorem trans (left : first.Equivalent second) (right : second.Equivalent third) :
    first.Equivalent third where
  variableCount := left.variableCount.trans right.variableCount
  slacks := left.slacks.trans right.slacks
  artificials := left.artificials.trans right.artificials
  markers := left.markers.trans right.markers
  rowSpace := left.rowSpace.trans right.rowSpace

theorem artificialStart_eq (equivalent : first.Equivalent second) :
    first.artificialStart = second.artificialStart := by
  simp [artificialStart, equivalent.variableCount, equivalent.slacks]

theorem columns_eq (equivalent : first.Equivalent second) : first.columns = second.columns := by
  simp [columns, equivalent.artificialStart_eq, equivalent.artificials]

theorem solves_iff (equivalent : first.Equivalent second) (assignment : Nat → K) :
    first.Solves assignment ↔ second.Solves assignment := by
  rw [solves_iff_rowSpace, solves_iff_rowSpace, equivalent.rowSpace]

end Equivalent

structure Pivotable (tableau : Tableau K) (row column : Nat) (chosen : Row K) : Prop where
  found : tableau.rows[row]? = some chosen
  inside : column < tableau.columns
  nonzero : chosen.equation.coefficient column ≠ 0

section Pivot

variable {tableau : Tableau K} {row column : Nat} {chosen : Row K}

theorem objective_pivot (found : tableau.rows[row]? = some chosen) :
    (tableau.pivot row column).objective =
      tableau.objective.eliminate column (chosen.scaled column) := by
  simp [pivot, found, Row.scaled]

theorem rows_pivot (found : tableau.rows[row]? = some chosen) :
    (tableau.pivot row column).rows =
      tableau.rows.mapIdx fun index other =>
        if index = row then ⟨column, chosen.scaled column⟩
        else { other with equation := other.equation.eliminate column (chosen.scaled column) } := by
  simp [pivot, found, Row.scaled]

@[simp]
theorem variableCount_pivot (tableau : Tableau K) (row column : Nat) :
    (tableau.pivot row column).variableCount = tableau.variableCount := by
  unfold pivot
  split <;> rfl

@[simp]
theorem slacks_pivot (tableau : Tableau K) (row column : Nat) :
    (tableau.pivot row column).slacks = tableau.slacks := by
  unfold pivot
  split <;> rfl

@[simp]
theorem artificials_pivot (tableau : Tableau K) (row column : Nat) :
    (tableau.pivot row column).artificials = tableau.artificials := by
  unfold pivot
  split <;> rfl

@[simp]
theorem markers_pivot (tableau : Tableau K) (row column : Nat) :
    (tableau.pivot row column).markers = tableau.markers := by
  unfold pivot
  split <;> rfl

@[simp]
theorem artificialStart_pivot (tableau : Tableau K) (row column : Nat) :
    (tableau.pivot row column).artificialStart = tableau.artificialStart := by
  simp [artificialStart]

@[simp]
theorem columns_pivot (tableau : Tableau K) (row column : Nat) :
    (tableau.pivot row column).columns = tableau.columns := by
  simp [columns]

@[simp]
theorem length_rows_pivot (tableau : Tableau K) (row column : Nat) :
    (tableau.pivot row column).rows.length = tableau.rows.length := by
  unfold pivot
  split <;> simp

theorem getElem?_rows_pivot (found : tableau.rows[row]? = some chosen) {index : Nat}
    {current : Row K} (at_index : (tableau.pivot row column).rows[index]? = some current) :
    (index = row ∧ current = ⟨column, chosen.scaled column⟩) ∨
      index ≠ row ∧ ∃ other, tableau.rows[index]? = some other ∧
        current = ⟨other.basic, other.equation.eliminate column (chosen.scaled column)⟩ := by
  rw [rows_pivot found, List.getElem?_mapIdx, Option.map_eq_some_iff] at at_index
  obtain ⟨other, at_old, rfl⟩ := at_index
  by_cases same : index = row
  · exact .inl ⟨same, by simp [same]⟩
  · exact .inr ⟨same, other, at_old, by simp [same]⟩

theorem mem_rows_pivot (found : tableau.rows[row]? = some chosen) (column : Nat) :
    (⟨column, chosen.scaled column⟩ : Row K) ∈ (tableau.pivot row column).rows := by
  rw [rows_pivot found]
  obtain ⟨inside, -⟩ := List.getElem?_eq_some_iff.mp found
  exact List.mem_mapIdx.mpr ⟨row, inside, by simp⟩

theorem eliminate_mem_rows_pivot (found : tableau.rows[row]? = some chosen) (column : Nat)
    {index : Nat} {other : Row K} (at_index : tableau.rows[index]? = some other)
    (differs : index ≠ row) :
    (⟨other.basic, other.equation.eliminate column (chosen.scaled column)⟩ : Row K) ∈
      (tableau.pivot row column).rows := by
  rw [rows_pivot found]
  obtain ⟨inside, rfl⟩ := List.getElem?_eq_some_iff.mp at_index
  exact List.mem_mapIdx.mpr ⟨index, inside, by simp [differs]⟩

variable (shaped : tableau.Shaped) (pivotable : tableau.Pivotable row column chosen)

include shaped pivotable

theorem Pivotable.length_scaled : (chosen.scaled column).coefficients.length = tableau.columns := by
  simpa [Row.scaled] using shaped.rows chosen (List.mem_of_getElem? pivotable.found)

theorem Shaped.pivot : (tableau.pivot row column).Shaped where
  rows := by
    intro current member
    obtain ⟨index, at_index⟩ := List.mem_iff_getElem?.mp member
    rw [columns_pivot]
    have width := pivotable.length_scaled shaped
    rcases getElem?_rows_pivot pivotable.found at_index with ⟨-, rfl⟩ | ⟨-, other, at_old, rfl⟩
    · exact width
    · have otherWidth := shaped.rows other (List.mem_of_getElem? at_old)
      rw [Equation.length_eliminate (otherWidth.trans width.symm), otherWidth]
  objective := by
    have width := pivotable.length_scaled shaped
    rw [objective_pivot pivotable.found, columns_pivot,
      Equation.length_eliminate (shaped.objective.trans width.symm), shaped.objective]

theorem Pivotable.excess_eliminate {equation : Equation K}
    (width : equation.coefficients.length = tableau.columns) :
    (equation.eliminate column (chosen.scaled column)).excess =
      equation.excess - equation.coefficient column • (chosen.scaled column).excess := by
  funext assignment
  exact Equation.excess_eliminate (width.trans (pivotable.length_scaled shaped).symm) _ _

theorem Pivotable.coefficient_eliminate {equation : Equation K}
    (width : equation.coefficients.length = tableau.columns) (index : Nat) :
    (equation.eliminate column (chosen.scaled column)).coefficient index =
      equation.coefficient index -
        equation.coefficient column * (chosen.scaled column).coefficient index :=
  Equation.coefficient_eliminate (width.trans (pivotable.length_scaled shaped).symm) _ _

omit shaped in
theorem Pivotable.excess_scaled_mem : (chosen.scaled column).excess ∈ tableau.rowSpace := by
  rw [Row.excess_scaled]
  exact Submodule.smul_mem _ _ (excess_mem_rowSpace (List.mem_of_getElem? pivotable.found))

/-- A pivot keeps the row space: every new row is a combination of old ones, and the
old rows are recovered from the new ones. -/
theorem rowSpace_pivot : (tableau.pivot row column).rowSpace = tableau.rowSpace := by
  apply le_antisymm
  · apply Submodule.span_le.mpr
    rintro _ ⟨current, member, rfl⟩
    obtain ⟨index, at_index⟩ := List.mem_iff_getElem?.mp member
    rcases getElem?_rows_pivot pivotable.found at_index with ⟨-, rfl⟩ | ⟨-, other, at_old, rfl⟩
    · exact pivotable.excess_scaled_mem
    · have old := List.mem_of_getElem? at_old
      have expanded := pivotable.excess_eliminate shaped (shaped.rows other old)
      rw [SetLike.mem_coe, expanded]
      exact Submodule.sub_mem _ (excess_mem_rowSpace old)
        (Submodule.smul_mem _ _ pivotable.excess_scaled_mem)
  · -- The old rows are recovered: the chosen one from its scaled row, the others with its help.
    apply Submodule.span_le.mpr
    rintro _ ⟨other, member, rfl⟩
    have scaled := excess_mem_rowSpace (mem_rows_pivot pivotable.found column)
    obtain ⟨index, at_index⟩ := List.mem_iff_getElem?.mp member
    by_cases same : index = row
    · have isChosen : other = chosen := by
        have both := (same ▸ at_index).symm.trans pivotable.found
        exact Option.some.inj both
      have recovered : other.equation.excess =
          chosen.equation.coefficient column • (chosen.scaled column).excess := by
        rw [isChosen, Row.excess_scaled, smul_smul, mul_inv_cancel₀ pivotable.nonzero, one_smul]
      rw [SetLike.mem_coe, recovered]
      exact Submodule.smul_mem _ _ scaled
    · have eliminated := excess_mem_rowSpace
        (eliminate_mem_rows_pivot pivotable.found column at_index same)
      have recovered : other.equation.excess =
          (other.equation.eliminate column (chosen.scaled column)).excess +
            other.equation.coefficient column • (chosen.scaled column).excess := by
        rw [pivotable.excess_eliminate shaped (shaped.rows other member), sub_add_cancel]
      rw [SetLike.mem_coe, recovered]
      exact Submodule.add_mem _ eliminated (Submodule.smul_mem _ _ scaled)

theorem equivalent_pivot : (tableau.pivot row column).Equivalent tableau where
  variableCount := variableCount_pivot _ _ _
  slacks := slacks_pivot _ _ _
  artificials := artificials_pivot _ _ _
  markers := markers_pivot _ _ _
  rowSpace := rowSpace_pivot shaped pivotable

theorem objective_pivot_sub_mem :
    (tableau.pivot row column).objective.excess - tableau.objective.excess ∈
      tableau.rowSpace := by
  rw [objective_pivot pivotable.found, pivotable.excess_eliminate shaped shaped.objective,
    sub_sub_cancel_left]
  exact Submodule.neg_mem _ (Submodule.smul_mem _ _ pivotable.excess_scaled_mem)

end Pivot

theorem Canonical.pivot {tableau : Tableau K} (canonical : tableau.Canonical) {row column : Nat}
    {chosen : Row K} (pivotable : tableau.Pivotable row column chosen) :
    (tableau.pivot row column).Canonical where
  toShaped := canonical.toShaped.pivot pivotable
  basic_lt := by
    intro current member
    obtain ⟨index, at_index⟩ := List.mem_iff_getElem?.mp member
    rw [columns_pivot]
    rcases getElem?_rows_pivot pivotable.found at_index with ⟨-, rfl⟩ | ⟨-, other, at_old, rfl⟩
    · exact pivotable.inside
    · exact canonical.basic_lt other (List.mem_of_getElem? at_old)
  unit := by
    intro index place first second at_index at_place
    have one := Row.coefficient_scaled_self pivotable.nonzero
    have scaledUnit {other : Row K} {index : Nat} (at_old : tableau.rows[index]? = some other)
        (differs : index ≠ row) : (chosen.scaled column).coefficient other.basic = 0 := by
      simp [Row.scaled, canonical.unit at_old pivotable.found, differs]
    rcases getElem?_rows_pivot pivotable.found at_index with
      ⟨rfl, rfl⟩ | ⟨indexDiffers, old, at_old, rfl⟩ <;>
    rcases getElem?_rows_pivot pivotable.found at_place with
      ⟨rfl, rfl⟩ | ⟨placeDiffers, other, at_other, rfl⟩
    · simp [one]
    · have width := canonical.rows other (List.mem_of_getElem? at_other)
      rw [pivotable.coefficient_eliminate canonical.toShaped width, one]
      simp [Ne.symm placeDiffers]
    · simp [scaledUnit at_old indexDiffers, indexDiffers]
    · have width := canonical.rows other (List.mem_of_getElem? at_other)
      rw [pivotable.coefficient_eliminate canonical.toShaped width, scaledUnit at_old indexDiffers,
        mul_zero, sub_zero]
      have kept := canonical.unit at_old at_other
      exact kept

end Tableau

end LinearProgramming.Simplex
