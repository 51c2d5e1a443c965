import LinearProgramming.Proofs.RootedScalar
import LinearProgramming.Proofs.DenseMatrix
import LinearProgramming.Interior.Cholesky

/-!
# Cholesky factors

Substitution from the first row on and from the last row back solves the two triangular systems of
a factor.  A row of a factor is itself such a solution, for the rows above it; with its diagonal
entry the products of the rows are the entries of the matrix, as long as no pivot is replaced.
-/

namespace LinearProgramming.Interior

open Matrix LinearProgramming.Dense

/-! ## Lengths -/

section Lengths

variable {K : Type} [Scalar K]

omit [Scalar K] in
theorem exists_concat {factor : List (List K)} {last : List K} {rhs : List K}
    (same : (factor ++ [last]).length = rhs.length) :
    ∃ before value, rhs = before ++ [value] ∧ factor.length = before.length := by
  rcases List.eq_nil_or_concat' rhs with rfl | ⟨before, value, rfl⟩
  · simp at same
  · exact ⟨before, value, rfl, by simpa using same⟩

theorem forwardSolve_append {factor : List (List K)} {rhs : List K}
    (same : factor.length = rhs.length) (row : List K) (value : K) :
    forwardSolve (factor ++ [row]) (rhs ++ [value]) =
      forwardSolve factor rhs ++
        [(value - dot row (forwardSolve factor rhs)) /
          entry row (forwardSolve factor rhs).length] := by
  rw [forwardSolve, List.zip_append same, List.foldl_append]
  rfl

@[simp]
theorem length_forwardSolve {factor : List (List K)} {rhs : List K}
    (same : factor.length = rhs.length) : (forwardSolve factor rhs).length = rhs.length := by
  induction factor using List.reverseRecOn generalizing rhs with
  | nil =>
      obtain rfl := List.eq_nil_of_length_eq_zero same.symm
      rfl
  | append_singleton factor last inductionHypothesis =>
      obtain ⟨rhs, value, rfl, shorter⟩ := exists_concat same
      simp [forwardSolve_append shorter, inductionHypothesis shorter]

theorem length_backwardSolve (index : Nat) {factor : List (List K)} {rhs : List K}
    (same : factor.length = rhs.length) :
    (backwardSolve index factor rhs).length = rhs.length := by
  induction factor generalizing index rhs with
  | nil =>
      obtain rfl := List.eq_nil_of_length_eq_zero same.symm
      rfl
  | cons row factor inductionHypothesis =>
      obtain ⟨value, rhs, rfl⟩ := List.exists_cons_of_length_eq_add_one same.symm
      simp [backwardSolve, inductionHypothesis (index + 1) (Nat.succ.inj same)]

@[simp]
theorem length_choleskySolve {factor : List (List K)} {rhs : List K}
    (same : factor.length = rhs.length) : (choleskySolve factor rhs).length = rhs.length := by
  have solved := length_forwardSolve same
  rw [choleskySolve, length_backwardSolve 0 (same.trans solved.symm), solved]

theorem length_of_cholesky {rows factor : List (List K)} (factored : cholesky rows = some factor) :
    factor.length = rows.length := by
  have lengthened (scale : K) (rest above : List (List K)) {factor : List (List K)}
      (found : rest.foldlM (fun above row =>
        (factorRow? scale above row).map fun next => above ++ [next]) above = some factor) :
      factor.length = above.length + rest.length := by
    induction rest generalizing above with
    | nil => exact congrArg List.length (Option.some.inj found).symm
    | cons row rest inductionHypothesis =>
        rw [List.foldlM_cons] at found
        obtain ⟨longer, next, last⟩ := Option.bind_eq_some_iff.mp found
        obtain ⟨appended, -, rfl⟩ := Option.map_eq_some_iff.mp next
        rw [inductionHypothesis _ last, List.length_append, List.length_singleton,
          List.length_cons, Nat.add_right_comm, Nat.add_assoc]
  simpa using lengthened _ rows [] factored

end Lengths

variable {K : Type} [ExactScalar K]

/-! ## Triangular systems -/

structure Triangular (factor : List (List K)) : Prop where
  above : ∀ row column, row < column → column < factor.length →
    entry (rowAt factor row) column = 0
  diagonal : ∀ row < factor.length, entry (rowAt factor row) row ≠ 0

theorem Triangular.of_append {factor : List (List K)} {last : List K}
    (triangular : Triangular (factor ++ [last])) : Triangular factor where
  above row column right inside := by
    have zero := triangular.above row column right (by simp; omega)
    rwa [rowAt_append_left _ (right.trans inside)] at zero
  diagonal row inside := by
    have regular := triangular.diagonal row (by simp; omega)
    rwa [rowAt_append_left _ inside] at regular

/-- Each row of the system holds once all rows are solved, since a row does not look beyond its
diagonal. -/
theorem Triangular.dot_forwardSolve {factor : List (List K)} (triangular : Triangular factor)
    {rhs : List K} (same : factor.length = rhs.length) {row : Nat} (inside : row < factor.length) :
    dot (rowAt factor row) (forwardSolve factor rhs) = entry rhs row := by
  induction factor using List.reverseRecOn generalizing rhs row with
  | nil => cases inside
  | append_singleton factor last inductionHypothesis =>
      obtain ⟨rhs, value, rfl, shorter⟩ := exists_concat same
      have solved : (forwardSolve factor rhs).length = factor.length :=
        (length_forwardSolve shorter).trans shorter.symm
      rw [forwardSolve_append shorter, dot_append_single, solved]
      rcases lt_or_eq_of_lt_append inside with before | rfl
      · have beyond := triangular.above row factor.length before (by simp)
        rw [beyond, zero_mul, add_zero, rowAt_append_left _ before,
          inductionHypothesis triangular.of_append shorter before,
          entry_append_left _ (shorter ▸ before)]
      · have regular := triangular.diagonal factor.length (by simp)
        rw [rowAt_append_length] at regular ⊢
        rw [mul_div_cancel₀ _ regular, add_sub_cancel, shorter]
        simpa using (entry_append_right rhs [value] 0).symm

theorem dot_column_backwardSolve (index : Nat) {factor : List (List K)}
    (above : ∀ row column, row < column → column < factor.length →
      entry (rowAt factor row) (index + column) = 0)
    (diagonal : ∀ row < factor.length, entry (rowAt factor row) (index + row) ≠ 0)
    {rhs : List K} (same : factor.length = rhs.length) {row : Nat} (inside : row < factor.length) :
    dot (column factor (index + row)) (backwardSolve index factor rhs) = entry rhs row := by
  induction factor generalizing index rhs row with
  | nil => cases inside
  | cons first factor inductionHypothesis =>
      obtain ⟨value, rhs, rfl⟩ := List.exists_cons_of_length_eq_add_one same.symm
      rw [backwardSolve, column, List.map_cons, dot_cons, entry_cons_zero, List.drop_one,
        List.tail_cons]
      cases row with
      | zero =>
          -- The first value is what the later ones leave, divided by the diagonal entry.
          have regular : entry first index ≠ 0 := diagonal 0 (Nat.succ_pos _)
          rw [Nat.add_zero, mul_div_cancel₀ _ regular, entry_cons_zero]
          exact sub_add_cancel _ _
      | succ row =>
          have beyond : entry first (index + (row + 1)) = 0 :=
            above 0 (row + 1) (Nat.succ_pos _) inside
          have shifted (place : Nat) : index + (place + 1) = index + 1 + place :=
            Nat.add_right_comm index place 1
          rw [beyond, zero_mul, zero_add, entry_cons_succ, shifted]
          refine inductionHypothesis (index + 1) (fun before after right within => ?_)
            (fun place within => ?_) (Nat.succ.inj same) (Nat.lt_of_succ_lt_succ inside)
          · have zero := above (before + 1) (after + 1) (Nat.succ_lt_succ right)
              (Nat.succ_lt_succ within)
            rwa [rowAt_cons_succ, shifted] at zero
          · have regular := diagonal (place + 1) (Nat.succ_lt_succ within)
            rwa [rowAt_cons_succ, shifted] at regular

section Solve

variable {factor : List (List K)} (triangular : Triangular factor) {size : Nat}
  (length : factor.length = size) {rhs : List K} (rhsLength : rhs.length = size)

include triangular length rhsLength

theorem Triangular.mulVec_forwardSolve :
    matrix size size factor *ᵥ vector size (forwardSolve factor rhs) = vector size rhs := by
  have same := length.trans rhsLength.symm
  have fits : (forwardSolve factor rhs).length ≤ size :=
    ((length_forwardSolve same).trans rhsLength).le
  rw [← vector_mulVec factor fits]
  funext row
  exact (entry_mulVec factor _ row).trans
    (triangular.dot_forwardSolve same (row.isLt.trans_eq length.symm))

/-- A factor `L` solves `L Lᵀ x = r`. -/
theorem Triangular.mulVec_choleskySolve :
    matrix size size factor *ᵥ
        ((matrix size size factor)ᵀ *ᵥ vector size (choleskySolve factor rhs)) =
      vector size rhs := by
  have same := length.trans rhsLength.symm
  have solved : factor.length = (forwardSolve factor rhs).length :=
    same.trans (length_forwardSolve same).symm
  have backward : (matrix size size factor)ᵀ *ᵥ vector size (choleskySolve factor rhs) =
      vector size (forwardSolve factor rhs) := by
    funext column
    rw [transpose_mulVec_apply length.le]
    have found := dot_column_backwardSolve 0 (fun row column right inside => by
        simpa using triangular.above row column right inside)
      (fun row inside => by simpa using triangular.diagonal row inside) solved
      (column.isLt.trans_eq length.symm)
    rwa [Nat.zero_add] at found
  rw [backward, triangular.mulVec_forwardSolve length rhsLength]

end Solve

/-! ## Factors -/

/-- What the rows above leave of the diagonal entry of the next row. -/
def pivotOf (above : List (List K)) (row : List K) : K :=
  entry row above.length - dot (offDiagonal above row) (offDiagonal above row)

def factorRow (scale : K) (above : List (List K)) (row : List K) : List K :=
  offDiagonal above row ++ [diagonalEntry scale (pivotOf above row)]

def factorRows (scale : K) (rows : List (List K)) : List (List K) :=
  rows.foldl (fun above row => above ++ [factorRow scale above row]) []

theorem factorRow?_eq (scale : K) (above : List (List K)) (row : List K) :
    factorRow? scale above row = some (factorRow scale above row) :=
  if_pos (LawfulScalar.isFinite_eq _)

theorem cholesky_eq (rows : List (List K)) :
    cholesky rows = some (factorRows (pivotScale rows) rows) := by
  have unfailing (scale : K) (rest above : List (List K)) :
      rest.foldlM (fun above row =>
          (factorRow? scale above row).map fun next => above ++ [next]) above =
        some (rest.foldl (fun above row => above ++ [factorRow scale above row]) above) := by
    induction rest generalizing above with
    | nil => rfl
    | cons row rest inductionHypothesis =>
        rw [List.foldlM_cons, factorRow?_eq]
        exact inductionHypothesis _
  exact unfailing _ _ _

@[simp]
theorem factorRows_append (scale : K) (rows : List (List K)) (row : List K) :
    factorRows scale (rows ++ [row]) =
      factorRows scale rows ++ [factorRow scale (factorRows scale rows) row] := by
  simp [factorRows]

@[simp]
theorem length_factorRows (scale : K) (rows : List (List K)) :
    (factorRows scale rows).length = rows.length := by
  induction rows using List.reverseRecOn with
  | nil => rfl
  | append_singleton rows row inductionHypothesis => simp [inductionHypothesis]

/-- The entries left of the diagonal solve the system of the rows above. -/
theorem offDiagonal_eq (above : List (List K)) {row : List K} (long : above.length ≤ row.length) :
    offDiagonal above row = forwardSolve above (row.take above.length) := by
  have cut : List.zip above row = List.zip above (row.take above.length) := by
    rw [List.zip_eq_zip_take_min, Nat.min_eq_left long, List.take_length]
  rw [offDiagonal, forwardSolve, cut]
  congr 1
  funext entries ⟨other, value⟩
  change entries ++ [(value - dot entries other) / _] = entries ++ [(value - dot other entries) / _]
  rw [dot_comm]

theorem length_offDiagonal {above : List (List K)} {row : List K}
    (long : above.length ≤ row.length) : (offDiagonal above row).length = above.length := by
  have cut : (row.take above.length).length = above.length := List.length_take_of_le long
  rw [offDiagonal_eq above long, length_forwardSolve cut.symm, cut]

theorem pivotScale_pos (rows : List (List K)) : 0 < pivotScale rows := by
  rw [pivotScale, Scalar.larger_eq_max]
  exact lt_max_of_lt_right zero_lt_one

section Diagonal

variable [RootedScalar K] {scale pivot : K}

theorem threshold_pos (positive : 0 < scale) : 0 < 1e-30 * scale :=
  mul_pos (RootedScalar.decimal_pos.mpr (by norm_num)) positive

theorem diagonalEntry_pos (positive : 0 < scale) (pivot : K) : 0 < diagonalEntry scale pivot := by
  unfold diagonalEntry
  split
  · exact RootedScalar.squareRoot_pos (RootedScalar.decimal_pos.mpr (by norm_num))
  · rename_i kept
    exact RootedScalar.squareRoot_pos ((threshold_pos positive).trans (not_le.mp kept))

/-- Row `i` of a factor ends with the entry on the diagonal, which is positive. -/
structure Staircase (factor : List (List K)) : Prop where
  length_eq : ∀ row < factor.length, (rowAt factor row).length = row + 1
  positive : ∀ row < factor.length, 0 < entry (rowAt factor row) row

omit [RootedScalar K] in
theorem Staircase.triangular {factor : List (List K)} (staircase : Staircase factor) :
    Triangular factor where
  above row _ right inside :=
    entry_of_length_le ((staircase.length_eq row (right.trans inside)).trans_le right)
  diagonal row inside := (staircase.positive row inside).ne'

def ReachesDiagonal (rows : List (List K)) : Prop :=
  ∀ row < rows.length, row < (rowAt rows row).length

omit [ExactScalar K] [RootedScalar K] in
theorem ReachesDiagonal.of_append {rows : List (List K)} {last : List K}
    (reaches : ReachesDiagonal (rows ++ [last])) :
    ReachesDiagonal rows ∧ rows.length < last.length := by
  constructor
  · intro row inside
    have long := reaches row (by simp; omega)
    rwa [rowAt_append_left _ inside] at long
  · simpa using reaches rows.length (by simp)

omit [RootedScalar K] in
theorem length_factorRow (scale : K) {above : List (List K)} {row : List K}
    (long : above.length ≤ row.length) : (factorRow scale above row).length = above.length + 1 := by
  simp [factorRow, length_offDiagonal long]

omit [RootedScalar K] in
theorem entry_factorRow (scale : K) {above : List (List K)} {row : List K}
    (long : above.length ≤ row.length) :
    entry (factorRow scale above row) above.length = diagonalEntry scale (pivotOf above row) := by
  have last := entry_append_right (offDiagonal above row)
    [diagonalEntry scale (pivotOf above row)] 0
  rwa [length_offDiagonal long] at last

theorem staircase_factorRows (positive : 0 < scale) {rows : List (List K)}
    (reaches : ReachesDiagonal rows) : Staircase (factorRows scale rows) := by
  induction rows using List.reverseRecOn with
  | nil => exact ⟨by simp [factorRows], by simp [factorRows]⟩
  | append_singleton rows last inductionHypothesis =>
      obtain ⟨reachesBefore, long⟩ := reaches.of_append
      have before := inductionHypothesis reachesBefore
      have fits : (factorRows scale rows).length ≤ last.length := by simpa using long.le
      rw [factorRows_append]
      constructor
      all_goals
        intro row inside
        rcases lt_or_eq_of_lt_append inside with earlier | rfl
      · rw [rowAt_append_left _ earlier, before.length_eq row earlier]
      · rw [rowAt_append_length, length_factorRow scale fits]
      · rw [rowAt_append_left _ earlier]
        exact before.positive row earlier
      · rw [rowAt_append_length, entry_factorRow scale fits]
        exact diagonalEntry_pos positive _

theorem staircase_of_cholesky {rows factor : List (List K)} (reaches : ReachesDiagonal rows)
    (factored : cholesky rows = some factor) : Staircase factor := by
  rw [cholesky_eq, Option.some_inj] at factored
  subst factored
  exact staircase_factorRows (pivotScale_pos rows) reaches

end Diagonal

/-! ## Products of the rows -/

/-- No pivot is replaced, since each one is above the threshold. -/
def KeepsPivots (scale : K) (rows : List (List K)) : Prop :=
  ∀ row < rows.length,
    1e-30 * scale < pivotOf (factorRows scale (rows.take row)) (rowAt rows row)

theorem KeepsPivots.of_append {scale : K} {rows : List (List K)} {last : List K}
    (keeps : KeepsPivots scale (rows ++ [last])) :
    KeepsPivots scale rows ∧ 1e-30 * scale < pivotOf (factorRows scale rows) last := by
  constructor
  · intro row inside
    have kept := keeps row (by simp; omega)
    rwa [rowAt_append_left _ inside, List.take_append_of_le_length inside.le] at kept
  · simpa using keeps rows.length (by simp)

theorem dot_factorRow_of_lt {above : List (List K)} (staircase : Staircase above) (scale : K)
    {row : List K} (long : above.length ≤ row.length) {column : Nat}
    (before : column < above.length) :
    dot (factorRow scale above row) (rowAt above column) = entry row column := by
  have cut : above.length = (row.take above.length).length := (List.length_take_of_le long).symm
  have beyond : entry (rowAt above column) above.length = 0 :=
    entry_of_length_le ((staircase.length_eq column before).trans_le before)
  have solved := staircase.triangular.dot_forwardSolve cut before
  rw [dot_comm, factorRow, dot_append_single, length_offDiagonal long, beyond, zero_mul, add_zero,
    offDiagonal_eq above long, solved]
  simp [entry, before]

theorem dot_factorRow_self {above : List (List K)} {scale : K} {row : List K}
    (long : above.length ≤ row.length)
    (root : diagonalEntry scale (pivotOf above row) * diagonalEntry scale (pivotOf above row) =
      pivotOf above row) :
    dot (factorRow scale above row) (factorRow scale above row) = entry row above.length := by
  have last := entry_factorRow scale long
  rw [factorRow] at last ⊢
  rw [dot_append_single, length_offDiagonal long, last, root, dot_comm, dot_append_single,
    entry_of_length_le le_rfl, zero_mul, add_zero, pivotOf, add_sub_cancel]

section Roots

variable [ExactlyRootedScalar K] {scale : K}

theorem diagonalEntry_mul_self (positive : 0 < scale) {pivot : K} (kept : 1e-30 * scale < pivot) :
    diagonalEntry scale pivot * diagonalEntry scale pivot = pivot := by
  rw [diagonalEntry, if_neg (not_le.mpr kept)]
  exact ExactlyRootedScalar.squareRoot_mul_self ((threshold_pos positive).trans kept)

/-- The products of the rows of a factor are the entries of the matrix up to the diagonal. -/
theorem dot_factorRows (positive : 0 < scale) {rows : List (List K)}
    (reaches : ReachesDiagonal rows) (keeps : KeepsPivots scale rows) {row column : Nat}
    (inside : row < rows.length) (left : column ≤ row) :
    dot (rowAt (factorRows scale rows) row) (rowAt (factorRows scale rows) column) =
      entry (rowAt rows row) column := by
  induction rows using List.reverseRecOn generalizing row column with
  | nil => cases inside
  | append_singleton rows last inductionHypothesis =>
      obtain ⟨reachesBefore, long⟩ := reaches.of_append
      obtain ⟨keepsBefore, kept⟩ := keeps.of_append
      have length := length_factorRows scale rows
      have fits : (factorRows scale rows).length ≤ last.length := length.trans_le long.le
      rw [factorRows_append]
      rcases lt_or_eq_of_lt_append inside with before | rfl
      · rw [rowAt_append_left _ (length.symm ▸ before),
          rowAt_append_left _ (length.symm ▸ left.trans_lt before), rowAt_append_left _ before]
        exact inductionHypothesis reachesBefore keepsBefore before left
      · rw [rowAt_append_length]
        rw [← length] at left ⊢
        rw [rowAt_append_length]
        rcases left.lt_or_eq with before | rfl
        · rw [rowAt_append_left _ before]
          exact dot_factorRow_of_lt (staircase_factorRows positive reachesBefore) scale fits before
        · rw [rowAt_append_length]
          exact dot_factorRow_self fits (diagonalEntry_mul_self positive kept)

/-- A factor `L` of a symmetric matrix gives it back as `L Lᵀ`. -/
theorem gram_factorRows (positive : 0 < scale) {rows : List (List K)} {size : Nat}
    (length : rows.length = size) (reaches : ReachesDiagonal rows)
    (keeps : KeepsPivots scale rows) (symmetric : (matrix size size rows).IsSymm) :
    matrix size size (factorRows scale rows) * (matrix size size (factorRows scale rows))ᵀ =
      matrix size size rows := by
  subst length
  have staircase := staircase_factorRows positive reaches
  have product (row column : Fin rows.length) :
      (matrix rows.length rows.length (factorRows scale rows) *
        (matrix rows.length rows.length (factorRows scale rows))ᵀ) row column =
      dot (rowAt (factorRows scale rows) row) (rowAt (factorRows scale rows) column) := by
    have inside : row < (factorRows scale rows).length := by simp
    have short : (rowAt (factorRows scale rows) row).length ≤ rows.length :=
      (staircase.length_eq row inside).trans_le row.isLt
    exact (dot_eq_dotProduct short _).symm
  ext row column
  rw [product]
  rcases le_total column row with left | right
  · exact dot_factorRows positive reaches keeps row.isLt left
  · rw [dot_comm, dot_factorRows positive reaches keeps column.isLt right]
    exact symmetric.apply row column

end Roots

theorem triangular_iff {factor : List (List K)} {size : Nat} (length : factor.length = size) :
    Triangular factor ↔
      (matrix size size factor).IsLowerTriangular ∧ ∀ row, matrix size size factor row row ≠ 0 := by
  subst length
  constructor
  · intro triangular
    exact ⟨fun row column right => triangular.above row column right column.isLt,
      fun row => triangular.diagonal row row.isLt⟩
  · rintro ⟨lower, regular⟩
    refine ⟨fun row column right inside => ?_, fun row inside => regular ⟨row, inside⟩⟩
    exact lower (i := ⟨row, right.trans inside⟩) (j := ⟨column, inside⟩) right

/-- A symmetric matrix of which no pivot is replaced has a lower-triangular factor with a positive
diagonal, and every lower-triangular factor without a zero on the diagonal solves its system. -/
theorem factorizes_and_solves [ExactlyRootedScalar K] :
    (∀ (size : Nat) (rows : List (List K)), rows.length = size →
      (∀ row ∈ rows, row.length = size) → (matrix size size rows).IsSymm →
      KeepsPivots (pivotScale rows) rows →
      ∃ factor, cholesky rows = some factor ∧ factor.length = size ∧
        (matrix size size factor).IsLowerTriangular ∧
        (∀ row, 0 < matrix size size factor row row) ∧
        matrix size size factor * (matrix size size factor)ᵀ = matrix size size rows) ∧
    ∀ (size : Nat) (factor : List (List K)) (rhs : List K), factor.length = size →
      rhs.length = size → (matrix size size factor).IsLowerTriangular →
      (∀ row, matrix size size factor row row ≠ 0) →
      (choleskySolve factor rhs).length = size ∧
        matrix size size factor *ᵥ
            ((matrix size size factor)ᵀ *ᵥ vector size (choleskySolve factor rhs)) =
          vector size rhs := by
  constructor
  · intro size rows length wide symmetric keeps
    have reaches : ReachesDiagonal rows := fun row inside => by
      rwa [wide _ (rowAt_mem inside), ← length]
    have positive := pivotScale_pos rows
    have staircase := staircase_factorRows positive reaches
    have sized : (factorRows (pivotScale rows) rows).length = size :=
      (length_factorRows _ _).trans length
    refine ⟨_, cholesky_eq rows, sized, ((triangular_iff sized).mp staircase.triangular).1,
      fun row => staircase.positive row (sized.symm ▸ row.isLt),
      gram_factorRows positive length reaches keeps symmetric⟩
  · intro size factor rhs length rhsLength lower regular
    exact ⟨(length_choleskySolve (length.trans rhsLength.symm)).trans rhsLength,
      ((triangular_iff length).mpr ⟨lower, regular⟩).mulVec_choleskySolve length rhsLength⟩

/-- A positive definite matrix whose second pivot is no square of a rational number. -/
def definite : List (List ℝ) :=
  [[4, 2], [2, 3]].map fun row => row.map Nat.cast

theorem pivotScale_definite : pivotScale definite = 4 := by
  norm_num [pivotScale, definite, List.mapIdx_cons]

theorem threshold_definite : (1e-30 * pivotScale definite : ℝ) < 2 := by
  rw [pivotScale_definite, RootedScalar.decimal_eq]
  norm_num

theorem factorRows_definite : factorRows (pivotScale definite) (definite.take 1) = [[2]] := by
  have kept : ¬ (4 : ℝ) ≤ 1e-30 * pivotScale definite := by
    linarith [threshold_definite]
  have root : Scalar.squareRoot (4 : ℝ) = 2 :=
    (Real.sqrt_eq_iff_mul_self_eq_of_pos two_pos).mpr (by norm_num)
  change [[diagonalEntry (pivotScale definite) ((4 : ℝ) - dot [] [])]] = [[2]]
  rw [dot_nil_left, sub_zero, diagonalEntry, if_neg kept, root]

theorem keepsPivots_definite : KeepsPivots (pivotScale definite) definite := by
  rintro (_ | _ | row) inside
  · refine threshold_definite.trans ?_
    change (2 : ℝ) < 4 - dot [] []
    norm_num
  · rw [factorRows_definite]
    refine threshold_definite.trans_eq ?_
    change (2 : ℝ) = 3 - dot [(2 - dot [] [2]) / 2] [(2 - dot [] [2]) / 2]
    norm_num [dot_cons]
  · simp [definite] at inside

theorem isSymm_definite : (matrix 2 2 definite).IsSymm := by
  apply Matrix.IsSymm.ext
  intro row column
  fin_cases row <;> fin_cases column <;> rfl

theorem factorizes_and_solves_definite :
    definite.length = 2 ∧ (∀ row ∈ definite, row.length = 2) ∧ (matrix 2 2 definite).IsSymm ∧
      KeepsPivots (pivotScale definite) definite ∧
      ∃ factor, cholesky definite = some factor ∧ factor.length = 2 ∧
        (matrix 2 2 factor).IsLowerTriangular ∧ (∀ row, 0 < matrix 2 2 factor row row) ∧
        matrix 2 2 factor * (matrix 2 2 factor)ᵀ = matrix 2 2 definite ∧
        matrix 2 2 factor *ᵥ ((matrix 2 2 factor)ᵀ *ᵥ vector 2 (choleskySolve factor [2, 1])) =
          vector 2 [2, 1] := by
  have wide : ∀ row ∈ definite, row.length = 2 := by simp [definite]
  obtain ⟨factorizes, solves⟩ := factorizes_and_solves (K := ℝ)
  obtain ⟨factor, factored, length, lower, positive, gram⟩ :=
    factorizes 2 definite rfl wide isSymm_definite keepsPivots_definite
  have solved := solves 2 factor [2, 1] length rfl lower fun row => (positive row).ne'
  exact ⟨rfl, wide, isSymm_definite, keepsPivots_definite, factor, factored, length, lower,
    positive, gram, solved.2⟩

end LinearProgramming.Interior
