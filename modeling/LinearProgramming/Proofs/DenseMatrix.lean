import Mathlib.LinearAlgebra.Matrix.Block
import LinearProgramming.Proofs.Dense

/-!
# Rows of numbers as matrices

A list of rows is read as a matrix of a given size, with zeros where a row is too short, and a
product of lists is the product of the matrix and the vector they stand for.
-/

namespace LinearProgramming.Dense

open Matrix

section Rows

variable {K : Type}

/-- The row at an index, without entries outside the list. -/
def rowAt (rows : List (List K)) (index : Nat) : List K :=
  rows.getD index []

theorem rowAt_eq_getElem {rows : List (List K)} {index : Nat} (inside : index < rows.length) :
    rowAt rows index = rows[index] := by
  simp [rowAt, inside]

theorem rowAt_mem {rows : List (List K)} {index : Nat} (inside : index < rows.length) :
    rowAt rows index ∈ rows := by
  rw [rowAt_eq_getElem inside]
  exact List.getElem_mem inside

theorem rowAt_append_left {first : List (List K)} (second : List (List K)) {index : Nat}
    (inside : index < first.length) : rowAt (first ++ second) index = rowAt first index := by
  simp [rowAt, List.getElem?_append_left inside]

@[simp]
theorem rowAt_append_length (first : List (List K)) (row : List K) :
    rowAt (first ++ [row]) first.length = row := by
  simp [rowAt]

theorem lt_or_eq_of_lt_append {rows : List (List K)} {last : List K} {index : Nat}
    (inside : index < (rows ++ [last]).length) : index < rows.length ∨ index = rows.length := by
  rw [List.length_append, List.length_singleton] at inside
  omega

@[simp]
theorem rowAt_cons_succ (row : List K) (rows : List (List K)) (index : Nat) :
    rowAt (row :: rows) (index + 1) = rowAt rows index := rfl

end Rows

section Lengths

variable {K : Type} [Scalar K]

@[simp]
theorem length_mulVec (rows : List (List K)) (values : List K) :
    (mulVec rows values).length = rows.length :=
  List.length_map _

theorem length_foldl_addRow (pairs : List (List K × K)) (sums : List K)
    (wide : ∀ pair ∈ pairs, pair.1.length = sums.length) :
    (pairs.foldl
      (fun sums pair => List.zipWith (fun sum value => sum + value * pair.2) sums pair.1)
      sums).length = sums.length := by
  induction pairs generalizing sums with
  | nil => rfl
  | cons pair pairs inductionHypothesis =>
      have kept : (List.zipWith (fun sum value => sum + value * pair.2) sums pair.1).length =
          sums.length := by
        simp [wide pair List.mem_cons_self]
      rw [List.foldl_cons, inductionHypothesis _ fun other member =>
        (wide other (List.mem_cons_of_mem _ member)).trans kept.symm, kept]

theorem length_fst_of_mem_zip {rows : List (List K)} {width : Nat}
    (wide : ∀ row ∈ rows, row.length = width) {weights : List K} {pair : List K × K}
    (member : pair ∈ List.zip rows weights) : pair.1.length = (zeros width : List K).length := by
  rw [zeros, List.length_replicate]
  exact wide _ (List.of_mem_zip member).1

theorem length_transposeMulVec {rows : List (List K)} {width : Nat}
    (wide : ∀ row ∈ rows, row.length = width) (weights : List K) :
    (transposeMulVec rows width weights).length = width :=
  (length_foldl_addRow (List.zip rows weights) (zeros width) fun _ member =>
    length_fst_of_mem_zip wide member).trans List.length_replicate

end Lengths

variable {K : Type} [ExactScalar K]

def vector (length : Nat) (values : List K) : Fin length → K :=
  fun index => entry values index

def matrix (height width : Nat) (rows : List (List K)) : Matrix (Fin height) (Fin width) K :=
  .of fun row column => entry (rowAt rows row) column

/-! ## Products -/

theorem dot_comm (left right : List K) : dot left right = dot right left := by
  rw [dot, dot, List.zipWith_comm_of_comm mul_comm]

theorem dot_eq_sum_of_length_le {left : List K} {length : Nat} (short : left.length ≤ length)
    (right : List K) :
    dot left right = ∑ index ∈ Finset.range length, entry left index * entry right index := by
  rw [dot_eq_sum]
  apply Finset.sum_subset (Finset.range_mono short)
  intro index _ outside
  rw [entry_of_length_le (by simpa using outside), zero_mul]

theorem dot_eq_dotProduct {left : List K} {length : Nat} (short : left.length ≤ length)
    (right : List K) : dot left right = vector length left ⬝ᵥ vector length right := by
  rw [dot_eq_sum_of_length_le short, Finset.sum_range]
  rfl

theorem dot_append_single (row solved : List K) (value : K) :
    dot row (solved ++ [value]) = dot row solved + entry row solved.length * value := by
  rw [dot_comm, dot_append, dot_comm solved, dot_cons, dot_nil_left, add_zero, mul_comm]
  simp [entry]

theorem entry_mulVec (rows : List (List K)) (values : List K) (index : Nat) :
    entry (mulVec rows values) index = dot (rowAt rows index) values := by
  by_cases inside : index < rows.length
  · simp [entry, mulVec, rowAt, inside]
  · simp [entry, mulVec, rowAt, Nat.le_of_not_lt inside]

theorem vector_mulVec (rows : List (List K)) {values : List K} {height width : Nat}
    (fits : values.length ≤ width) :
    vector height (mulVec rows values) = matrix height width rows *ᵥ vector width values := by
  funext row
  change entry (mulVec rows values) row = _
  rw [entry_mulVec, dot_comm, dot_eq_dotProduct fits, dotProduct_comm]
  rfl

def column (rows : List (List K)) (index : Nat) : List K :=
  rows.map fun row => entry row index

theorem entry_column (rows : List (List K)) (index row : Nat) :
    entry (column rows index) row = entry (rowAt rows row) index := by
  by_cases inside : row < rows.length
  · simp [column, rowAt, entry, inside]
  · simp [column, rowAt, entry, Nat.le_of_not_lt inside]

theorem transpose_mulVec_apply {rows : List (List K)} {height width : Nat}
    (fits : rows.length ≤ height) (weights : List K) (index : Fin width) :
    ((matrix height width rows)ᵀ *ᵥ vector height weights) index =
      dot (column rows index) weights := by
  have short : (column rows index).length ≤ height := (List.length_map _).trans_le fits
  have entries : vector height (column rows index) = (matrix height width rows)ᵀ index :=
    funext fun row => entry_column rows index row
  rw [dot_eq_dotProduct short, entries]
  rfl

theorem entry_foldl_addRow (pairs : List (List K × K)) (sums : List K)
    (wide : ∀ pair ∈ pairs, pair.1.length = sums.length) (index : Nat) :
    entry (pairs.foldl
      (fun sums pair => List.zipWith (fun sum value => sum + value * pair.2) sums pair.1)
      sums) index =
      entry sums index + (pairs.map fun pair => entry pair.1 index * pair.2).sum := by
  induction pairs generalizing sums with
  | nil => simp
  | cons pair pairs inductionHypothesis =>
      have same := wide pair List.mem_cons_self
      have kept : (List.zipWith (fun sum value => sum + value * pair.2) sums pair.1).length =
          sums.length := by
        simp [same]
      rw [List.foldl_cons, inductionHypothesis _ fun other member =>
          (wide other (List.mem_cons_of_mem _ member)).trans kept.symm,
        entry_zipWith (by simp) same.symm, List.map_cons, List.sum_cons, add_assoc]

section Transpose

variable {rows : List (List K)} {width : Nat} (wide : ∀ row ∈ rows, row.length = width)
  (weights : List K)

include wide

theorem entry_transposeMulVec (index : Nat) :
    entry (transposeMulVec rows width weights) index = dot (column rows index) weights := by
  have added := entry_foldl_addRow (List.zip rows weights) (zeros width)
    (fun _ member => length_fst_of_mem_zip wide member) index
  rw [entry_zeros, zero_add] at added
  refine added.trans ?_
  rw [dot, total_eq_sum, column, List.zipWith_map_left, ← List.map_uncurry_zip_eq_zipWith]
  rfl

theorem vector_transposeMulVec {height : Nat} (fits : rows.length ≤ height) :
    vector width (transposeMulVec rows width weights) =
      (matrix height width rows)ᵀ *ᵥ vector height weights := by
  funext index
  rw [transpose_mulVec_apply fits]
  exact entry_transposeMulVec wide weights index

end Transpose

/-! ## Entrywise operations -/

theorem vector_zipWith {left right : List K} {length : Nat} (leftLength : left.length = length)
    (rightLength : right.length = length) (combine : K → K → K) :
    vector length (List.zipWith combine left right) =
      fun index => combine (vector length left index) (vector length right index) := by
  funext index
  have inLeft : index < left.length := leftLength ▸ index.isLt
  have inRight : index < right.length := rightLength ▸ index.isLt
  simp [vector, entry, inLeft, inRight]

end LinearProgramming.Dense
