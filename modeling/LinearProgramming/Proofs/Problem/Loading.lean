import LinearProgramming.Storage.Model
import LinearProgramming.Proofs.Problem.Counting

/-!
# Loads of matrices whose lists differ in length

The three lists of a matrix have one length however it is built up, but not if it is read from
storage.  A load takes in what stands in front of the end of the shortest list: what is behind it
in the others is dropped without an error.
-/

namespace LinearProgramming

namespace SparseMatrix

variable {K : Type} {matrix : SparseMatrix K}

structure Matched (matrix : SparseMatrix K) : Prop where
  rows : matrix.rows.length = matrix.size
  columns : matrix.columns.length = matrix.size

inductive Built : SparseMatrix K → Prop
  | empty : Built empty
  | ofTriplets {rows columns : List Nat} {values : List K} {matrix : SparseMatrix K}
      (made : SparseMatrix.ofTriplets rows columns values = .ok matrix) : Built matrix
  | ofList (entries : List (Nat × Nat × K)) : Built (ofList entries)
  | push {matrix : SparseMatrix K} (entry : Nat × Nat × K) : Built matrix →
      Built (matrix.push entry)

theorem matched_of_ofTriplets {rows columns : List Nat} {values : List K}
    (made : ofTriplets rows columns values = .ok matrix) : matrix.Matched := by
  obtain ⟨_, sameRows, rest⟩ := Except.bind_eq_ok_iff.mp made
  obtain ⟨_, sameColumns, same⟩ := Except.bind_eq_ok_iff.mp rest
  cases same
  exact ⟨Problem.ensureSameLength_eq_ok_iff.mp sameRows,
    Problem.ensureSameLength_eq_ok_iff.mp sameColumns⟩

theorem matched_ofList (entries : List (Nat × Nat × K)) : (ofList entries).Matched where
  rows := by simp only [ofList, size, List.length_map]
  columns := by simp only [ofList, size, List.length_map]

theorem Matched.push (matched : matrix.Matched) (entry : Nat × Nat × K) :
    (matrix.push entry).Matched where
  rows := by
    simp only [SparseMatrix.push, size, List.length_append]
    exact congrArg (· + 1) matched.rows
  columns := by
    simp only [SparseMatrix.push, size, List.length_append]
    exact congrArg (· + 1) matched.columns

theorem Built.matched (built : matrix.Built) : matrix.Matched := by
  induction built with
  | empty => exact ⟨rfl, rfl⟩
  | ofTriplets made => exact matched_of_ofTriplets made
  | ofList entries => exact matched_ofList entries
  | push entry _ matched => exact matched.push entry

/-! ## The shortest list -/

def shortest (matrix : SparseMatrix K) : Nat :=
  min matrix.rows.length (min matrix.columns.length matrix.values.length)

/-- The matrix without what stands behind the end of the shortest list. -/
def trimmed (matrix : SparseMatrix K) : SparseMatrix K where
  rows := matrix.rows.take matrix.shortest
  columns := matrix.columns.take matrix.shortest
  values := matrix.values.take matrix.shortest

theorem matched_trimmed (matrix : SparseMatrix K) : matrix.trimmed.Matched where
  rows := by
    simp only [trimmed, size, shortest, List.length_take]
    omega
  columns := by
    simp only [trimmed, size, shortest, List.length_take]
    omega

theorem Matched.trimmed_eq (matched : matrix.Matched) : matrix.trimmed = matrix := by
  have whole : matrix.shortest = matrix.size := by
    rw [shortest, matched.rows, matched.columns, size, Nat.min_self, Nat.min_self]
  rw [trimmed, whole, List.take_of_length_le matched.rows.le,
    List.take_of_length_le matched.columns.le, size, List.take_length]

theorem toList_trimmed (matrix : SparseMatrix K) : matrix.trimmed.toList = matrix.toList := by
  -- The entries of the cut lists are the first of all entries, and there are no more of them.
  simp only [toList, trimmed, List.zip, ← List.take_zipWith]
  apply List.take_of_length_le
  rw [List.length_zipWith, List.length_zipWith, shortest]

theorem Matched.ofList_toList (matched : matrix.Matched) : ofList matrix.toList = matrix := by
  have paired : (matrix.columns.zip matrix.values).length = matrix.size := by
    rw [List.length_zip, matched.columns, size, Nat.min_self]
  have rows : matrix.toList.map (·.1) = matrix.rows :=
    List.map_fst_zip (by rw [matched.rows, paired])
  have pairs : matrix.toList.map (·.2) = matrix.columns.zip matrix.values :=
    List.map_snd_zip (by rw [matched.rows, paired])
  have columns : matrix.toList.map (·.2.1) = matrix.columns := by
    rw [← List.map_fst_zip matched.columns.le, ← pairs, List.map_map]
    rfl
  have values : matrix.toList.map (·.2.2) = matrix.values := by
    rw [← List.map_snd_zip matched.columns.ge, ← pairs, List.map_map]
    rfl
  rw [ofList, rows, columns, values]

theorem ofList_toList (matrix : SparseMatrix K) : ofList matrix.toList = matrix.trimmed := by
  rw [← toList_trimmed, matrix.matched_trimmed.ofList_toList]

/-- Every value is part of an entry just if there are a row and a column for it. -/
theorem values_trimmed_eq_iff : matrix.trimmed.values = matrix.values ↔
    matrix.size ≤ matrix.rows.length ∧ matrix.size ≤ matrix.columns.length := by
  rw [trimmed, List.take_eq_self_iff, shortest, size]
  omega

end SparseMatrix

theorem Problem.loadMatrix_congr {K : Type} [Scalar K] (problem : Problem K)
    {left right : SparseMatrix K} (same : left.toList = right.toList) :
    problem.loadMatrix left = problem.loadMatrix right := by
  rw [loadMatrix, loadMatrix, SparseMatrix.resolved, SparseMatrix.resolved, same]

/-! ## Histories -/

namespace History

variable {K : Type} [Scalar K] {events : List (Event K)} {problem : Problem K}

/-- A load stops without an effect, or takes in the lists up to the end of the shortest; below 2^31
cells no matrix with its entries inside is refused.  These are all values of every matrix that is
made in the program, but not of every one that is read. -/
theorem loads_trimmed (history : History events problem) (matrix : SparseMatrix K) :
    (∀ stop next, ((Request.edit (.loadMatrix matrix)).steps .plain).run problem =
      .error stop next → next = problem) ∧
    problem.loadMatrix matrix = problem.loadMatrix matrix.trimmed ∧
    (problem.Admits matrix → matrix.cells.card < Word.values31 →
      ∃ next, problem.loadMatrix matrix = .ok next) ∧
    (∀ next, problem.loadMatrix matrix = .ok next → matrix.cells.card < Word.values32 →
      ∀ row column, next.cell row column =
        lastListed (matrix.toList.map SparseMatrix.atCell) (row, column)) ∧
    SparseMatrix.ofList matrix.toList = matrix.trimmed ∧
    (matrix.trimmed.values = matrix.values ↔
      matrix.size ≤ matrix.rows.length ∧ matrix.size ≤ matrix.columns.length) ∧
    (matrix.Built → matrix.trimmed = matrix) := by
  have wellFormed := history.wellFormed
  refine ⟨fun stop next => Request.eq_of_stopped wellFormed rfl,
    problem.loadMatrix_congr matrix.toList_trimmed.symm, fun admits few => ?_,
    fun next set few => Problem.cell_loadMatrix_of_lt wellFormed set few, matrix.ofList_toList,
    SparseMatrix.values_trimmed_eq_iff, fun built => built.matched.trimmed_eq⟩
  obtain ⟨next, set, -⟩ := (Problem.stores_all_iff wellFormed admits).mpr few
  exact ⟨next, set⟩

/-- Lists of three, two and four entries, the last of which are not loaded. -/
theorem loads_trimmed_pair :
    ∃ (events : List (Event ℚ)) (problem next : Problem ℚ) (matrix : SparseMatrix ℚ),
      (History events problem ∧
        events.map (·.request) = [.edit (.addColumns 3), .edit (.addRows 2)]) ∧
      (matrix = ⟨[1, 2, 1], [1, 3], [4, 5, 6, 7]⟩ ∧ problem.Admits matrix ∧
        matrix.trimmed = ⟨[1, 2], [1, 3], [4, 5]⟩ ∧ matrix.trimmed.values ≠ matrix.values) ∧
      problem.loadMatrix matrix = .ok next ∧ next.cell 1 1 = some 4 ∧ next.cell 2 3 = some 5 := by
  have rows := History.returned (.edit (.addRows 2)) (History.create (K := ℚ)) rfl
  have columns := History.returned (.edit (.addColumns 3)) rows rfl
  obtain ⟨-, -, loads, stores, -, whole, -⟩ :=
    loads_trimmed columns ⟨[1, 2, 1], [1, 3], [4, 5, 6, 7]⟩
  obtain ⟨next, set⟩ := loads (Problem.forM_checkCell_iff.mp rfl) (by decide +kernel)
  have cells := stores next set (by decide +kernel)
  exact ⟨_, _, next, _, ⟨columns, rfl⟩,
    ⟨rfl, Problem.admits_of_loadMatrix set, rfl, fun same => absurd (whole.mp same) (by decide)⟩,
    set, cells 1 1, cells 2 3⟩

/-- A matrix that is read from storage with two values for one row and one column is loaded, and
the second value is lost. -/
theorem loads_mismatched :
    ∃ (events : List (Event Float)) (problem next : Problem Float) (matrix : SparseMatrix Float),
      (History events problem ∧
        events.map (·.request) = [.edit (.addColumns 1), .edit (.addRows 1)]) ∧
      Storage.Stored.load? (.record [("rows", .list [.whole 1]), ("columns", .list [.whole 1]),
        ("values", .list [.real 2, .real 3])]) = some matrix ∧
      matrix.rows.length ≠ matrix.size ∧
      problem.loadMatrix matrix = .ok next ∧ next.rowCoefficients 1 = .ok [(1, 2)] := by
  have rows := History.returned (.edit (.addRows 1)) (History.create (K := Float)) rfl
  have columns := History.returned (.edit (.addColumns 1)) rows rfl
  have loads : Problem.loadMatrix _ (⟨[1], [1], [2, 3]⟩ : SparseMatrix Float) = _ :=
    Problem.loadMatrix_of_admits columns.wellFormed (Problem.forM_checkCell_iff.mp rfl)
  exact ⟨_, _, _, _, ⟨columns, rfl⟩, rfl, by decide,
    loads.trans (if_neg (by decide +kernel)), rfl⟩

end History

end LinearProgramming
