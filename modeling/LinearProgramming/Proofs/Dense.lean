import Mathlib.Algebra.BigOperators.Group.Finset.Basic
import Mathlib.Algebra.BigOperators.Ring.Finset
import Mathlib.Algebra.BigOperators.Intervals
import Mathlib.Tactic.Ring
import LinearProgramming.Proofs.ExactScalar
import LinearProgramming.Dense

/-!
# Dense vectors over exact scalars

Lengths and entries of vectors after each operation, and sums of products as sums
over the index range.
-/

namespace LinearProgramming.Dense

section Lengths

variable {K : Type} [Scalar K]

@[simp]
theorem length_addAt (values : List K) (index : Nat) (amount : K) :
    (addAt values index amount).length = values.length := by
  simp [addAt]

theorem length_foldl_addAt (cells : List (Nat × K)) (values : List K) :
    (cells.foldl (fun values cell => addAt values cell.1 cell.2) values).length =
      values.length := by
  induction cells generalizing values with
  | nil => rfl
  | cons cell cells inductionHypothesis => simp [inductionHypothesis]

@[simp]
theorem length_ofCells (length : Nat) (cells : List (Nat × K)) :
    (ofCells length cells).length = length := by
  simp [ofCells, length_foldl_addAt, zeros]

end Lengths

variable {K : Type} [ExactScalar K]

theorem entry_of_length_le {values : List K} {index : Nat} (outside : values.length ≤ index) :
    entry values index = 0 := by
  simp [entry, outside]

@[simp]
theorem entry_nil (index : Nat) : entry ([] : List K) index = 0 := rfl

@[simp]
theorem entry_cons_zero (value : K) (rest : List K) : entry (value :: rest) 0 = value := rfl

@[simp]
theorem entry_cons_succ (value : K) (rest : List K) (index : Nat) :
    entry (value :: rest) (index + 1) = entry rest index := rfl

theorem entry_eq_getElem {values : List K} {index : Nat} (inside : index < values.length) :
    entry values index = values[index] := by
  simp [entry, inside]

theorem entry_mem {values : List K} {index : Nat} (inside : index < values.length) :
    entry values index ∈ values := by
  rw [entry_eq_getElem inside]
  exact List.getElem_mem inside

@[simp]
theorem entry_zeros (length index : Nat) : entry (zeros length : List K) index = 0 := by
  by_cases inside : index < length
  · rw [entry_eq_getElem (by simpa [zeros] using inside)]
    simp [zeros]
  · exact entry_of_length_le (by simpa [zeros] using inside)

theorem entry_append_left {first : List K} (second : List K) {index : Nat}
    (inside : index < first.length) : entry (first ++ second) index = entry first index := by
  simp [entry, List.getElem?_append_left inside]

@[simp]
theorem entry_append_right (first second : List K) (index : Nat) :
    entry (first ++ second) (first.length + index) = entry second index := by
  simp [entry, List.getElem?_append_right]

theorem entry_set (values : List K) (place : Nat) (value : K) (index : Nat) :
    entry (values.set place value) index =
      if place = index ∧ index < values.length then value else entry values index := by
  by_cases same : place = index
  · subst same
    by_cases inside : place < values.length <;> simp [entry, inside]
  · simp [entry, same]

theorem entry_modify (values : List K) (place : Nat) (change : K → K) (index : Nat) :
    entry (values.modify place change) index =
      if place = index ∧ index < values.length then change (entry values index)
      else entry values index := by
  by_cases same : place = index
  · subst same
    by_cases inside : place < values.length <;> simp [entry, inside]
  · simp [entry, same]

theorem entry_map {change : K → K} (fixesZero : change 0 = 0) (values : List K) (index : Nat) :
    entry (values.map change) index = change (entry values index) := by
  by_cases inside : index < values.length
  · simp [entry, inside]
  · rw [entry_of_length_le (by simpa using inside),
      entry_of_length_le (Nat.le_of_not_lt inside), fixesZero]

theorem entry_zipWith {combine : K → K → K} (fixesZero : combine 0 0 = 0)
    {left right : List K} (sameLength : left.length = right.length) (index : Nat) :
    entry (List.zipWith combine left right) index =
      combine (entry left index) (entry right index) := by
  by_cases inside : index < left.length
  · simp [entry, inside, sameLength ▸ inside]
  · have outside := Nat.le_of_not_lt inside
    have outsideRight : right.length ≤ index := sameLength ▸ outside
    have outsideBoth : (List.zipWith combine left right).length ≤ index := by
      simp [outside]
    rw [entry_of_length_le outside, entry_of_length_le outsideRight,
      entry_of_length_le outsideBoth, fixesZero]

theorem total_eq_sum (values : List K) : total values = values.sum := by
  rw [total, neg_zero, List.sum_eq_foldl]

/-- The value at an index that a list of cells amounts to. -/
def coefficientAt (cells : List (Nat × K)) (index : Nat) : K :=
  (cells.map fun cell => if cell.1 = index then cell.2 else 0).sum

@[simp]
theorem coefficientAt_nil (index : Nat) : coefficientAt ([] : List (Nat × K)) index = 0 := rfl

@[simp]
theorem coefficientAt_cons (cell : Nat × K) (cells : List (Nat × K)) (index : Nat) :
    coefficientAt (cell :: cells) index =
      (if cell.1 = index then cell.2 else 0) + coefficientAt cells index := by
  simp [coefficientAt]

theorem coefficientAt_append (first second : List (Nat × K)) (index : Nat) :
    coefficientAt (first ++ second) index =
      coefficientAt first index + coefficientAt second index := by
  simp [coefficientAt]

theorem coefficientAt_scale (factor : K) (cells : List (Nat × K)) (index : Nat) :
    coefficientAt (cells.map fun (column, value) => (column, factor * value)) index =
      factor * coefficientAt cells index := by
  induction cells with
  | nil => simp
  | cons cell cells inductionHypothesis =>
      rw [List.map_cons, coefficientAt_cons, inductionHypothesis, coefficientAt_cons, mul_add,
        mul_ite, mul_zero]

theorem coefficientAt_of_forall_ne {cells : List (Nat × K)} {index : Nat}
    (absent : ∀ cell ∈ cells, cell.1 ≠ index) : coefficientAt cells index = 0 := by
  induction cells with
  | nil => rfl
  | cons cell cells inductionHypothesis =>
      have rest := inductionHypothesis fun other member =>
        absent other (List.mem_cons_of_mem _ member)
      simp [rest, absent cell List.mem_cons_self]

theorem entry_foldl_addAt (cells : List (Nat × K)) (values : List K) {index : Nat}
    (inside : index < values.length) :
    entry (cells.foldl (fun values cell => addAt values cell.1 cell.2) values) index =
      entry values index + coefficientAt cells index := by
  induction cells generalizing values with
  | nil => simp
  | cons cell cells inductionHypothesis =>
      rw [List.foldl_cons, inductionHypothesis _ (by simpa using inside), addAt, entry_modify,
        coefficientAt_cons]
      by_cases same : cell.1 = index
      · simp [same, inside, add_assoc]
      · simp [same]

theorem entry_ofCells {length index : Nat} (cells : List (Nat × K)) (inside : index < length) :
    entry (ofCells length cells) index = coefficientAt cells index := by
  rw [ofCells, entry_foldl_addAt _ _ (by simpa [zeros] using inside), entry_zeros, zero_add]

theorem dot_eq_sum (left right : List K) :
    dot left right =
      ∑ index ∈ Finset.range left.length, entry left index * entry right index := by
  rw [dot, total_eq_sum]
  induction left generalizing right with
  | nil => simp
  | cons first left inductionHypothesis =>
      cases right with
      | nil => simp
      | cons second right =>
          simp [inductionHypothesis, Finset.sum_range_succ', add_comm]

@[simp]
theorem dot_nil_left (right : List K) : dot [] right = 0 := by
  simp [dot, total_eq_sum]

@[simp]
theorem dot_nil_right (left : List K) : dot left [] = 0 := by
  simp [dot, total_eq_sum]

theorem dot_cons (value : K) (left right : List K) :
    dot (value :: left) right = value * entry right 0 + dot left (right.drop 1) := by
  cases right with
  | nil => simp
  | cons first right => simp [dot, total_eq_sum]

theorem dot_append (first second right : List K) :
    dot (first ++ second) right = dot first right + dot second (right.drop first.length) := by
  induction first generalizing right with
  | nil => simp
  | cons value first inductionHypothesis =>
      rw [List.cons_append, dot_cons, dot_cons, inductionHypothesis, List.drop_drop,
        List.length_cons, add_comm first.length, add_assoc]

theorem dot_map_neg (left right : List K) : dot (left.map (-·)) right = -dot left right := by
  induction left generalizing right with
  | nil => simp
  | cons value left inductionHypothesis =>
      rw [List.map_cons, dot_cons, inductionHypothesis, dot_cons]
      ring

theorem dot_map_sub {A : Type} (left : List K) (items : List A) (first second : A → K) :
    dot left (items.map fun item => first item - second item) =
      dot left (items.map first) - dot left (items.map second) := by
  induction left generalizing items with
  | nil => simp
  | cons value left inductionHypothesis =>
      cases items with
      | nil => simp
      | cons item items =>
          simp only [List.map_cons, dot_cons, entry_cons_zero, List.drop_succ_cons,
            List.drop_zero, inductionHypothesis]
          ring

theorem dotCells_cons (cell : Nat × K) (cells : List (Nat × K)) (values : List K) :
    dotCells (cell :: cells) values = cell.2 * entry values cell.1 + dotCells cells values := by
  simp [dotCells, total_eq_sum]

@[simp]
theorem dotCells_nil (values : List K) : dotCells ([] : List (Nat × K)) values = 0 := by
  simp [dotCells, total_eq_sum]

theorem dotCells_append (first second : List (Nat × K)) (values : List K) :
    dotCells (first ++ second) values = dotCells first values + dotCells second values := by
  simp [dotCells, total_eq_sum]

theorem dotCells_eq_sum {cells : List (Nat × K)} {length : Nat}
    (inside : ∀ cell ∈ cells, cell.1 < length) (values : List K) :
    dotCells cells values =
      ∑ index ∈ Finset.range length, coefficientAt cells index * entry values index := by
  induction cells with
  | nil => simp
  | cons cell cells inductionHypothesis =>
      have first : ∑ index ∈ Finset.range length,
          (if cell.1 = index then cell.2 else 0) * entry values index =
            cell.2 * entry values cell.1 := by
        simp [inside cell List.mem_cons_self]
      have rest := inductionHypothesis fun other member =>
        inside other (List.mem_cons_of_mem _ member)
      simp only [dotCells_cons, coefficientAt_cons, add_mul, Finset.sum_add_distrib, first, rest]

theorem dotCells_scale (factor : K) (cells : List (Nat × K)) (values : List K) :
    dotCells (cells.map fun (index, value) => (index, factor * value)) values =
      factor * dotCells cells values := by
  induction cells with
  | nil => simp
  | cons cell cells inductionHypothesis =>
      rw [List.map_cons, dotCells_cons, dotCells_cons, inductionHypothesis]
      ring

@[simp]
theorem dotCells_zeros (cells : List (Nat × K)) (length : Nat) :
    dotCells cells (zeros length) = 0 := by
  induction cells with
  | nil => simp
  | cons cell cells inductionHypothesis => simp [dotCells_cons, inductionHypothesis]

def single (index : Nat) : List K :=
  zeros index ++ [1]

theorem entry_single (place index : Nat) :
    entry (single place : List K) index = if index = place then 1 else 0 := by
  have length : (zeros place : List K).length = place := by simp [zeros]
  rcases lt_trichotomy index place with before | rfl | after
  · rw [single, entry_append_left _ (by simpa [length] using before), entry_zeros,
      if_neg before.ne]
  · have first := entry_append_right (zeros index) ([1] : List K) 0
    simpa [single, length] using first
  · rw [single, entry_of_length_le (by simpa [length] using after), if_neg after.ne']

theorem dot_single (left : List K) (index : Nat) : dot left (single index) = entry left index := by
  by_cases inside : index < left.length
  · simp [dot_eq_sum, entry_single, inside]
  · simp [dot_eq_sum, entry_single, inside, entry_of_length_le (Nat.le_of_not_lt inside)]

theorem dotCells_single (cells : List (Nat × K)) (index : Nat) :
    dotCells cells (single index) = coefficientAt cells index := by
  induction cells with
  | nil => simp
  | cons cell cells inductionHypothesis =>
      simp [dotCells_cons, inductionHypothesis, entry_single]

theorem entry_nonneg {values : List K} (nonnegative : ∀ value ∈ values, 0 ≤ value) (index : Nat) :
    0 ≤ entry values index := by
  by_cases inside : index < values.length
  · exact nonnegative _ (entry_mem inside)
  · exact (entry_of_length_le (Nat.le_of_not_lt inside)).ge

end LinearProgramming.Dense
