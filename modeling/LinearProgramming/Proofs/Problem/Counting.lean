import LinearProgramming.Proofs.Problem.Chart

/-!
# Coefficients that are counted in 32 bits

The stored coefficients are counted, and the cells of a matrix handed over, in 32 bits with a sign,
while a problem has room for far more of them.  Below 2^31 every count is right and every cell is
stored.  From there on the count wraps around, and a load either halts or takes in only the first
of the cells.
-/

namespace LinearProgramming

namespace Slots

theorem narrow_lt (number : Nat) : narrow number < Word.values31 :=
  (Int.bmod_lt (x := number) (m := Word.values32) (Nat.succ_pos _)).trans_eq (by decide)

theorem le_narrow (number : Nat) : -(Word.values31 : Int) ≤ narrow number :=
  (Int.le_bmod (x := number) (m := Word.values32) (Nat.succ_pos _)).trans_eq' (by decide)

theorem widen_of_neg {number : Int} (least : -(Word.values31 : Int) ≤ number)
    (negative : number < 0) : Word.values63 ≤ widen number := by
  simp only [Word.values31, Word.values63, widen, Word.values64, Nat.cast_ofNat] at least ⊢
  omega

theorem mod_lt_of_nonneg {number : Nat} (nonneg : 0 ≤ narrow number) :
    number % Word.values32 < Word.values31 := by
  have below := narrow_lt number
  rwa [narrow_of_nonneg nonneg, Int.ofNat_lt] at below

/-- A number that was counted in 32 bits is told as it is if 31 bits hold it. -/
theorem widen_narrow_eq_iff {number : Nat} (small : number < Word.values63) :
    widen (narrow number) = number ↔ number < Word.values31 := by
  constructor
  · intro same
    by_cases negative : narrow number < 0
    · -- A negative count is widened to more than any number of 63 bits.
      have large := widen_of_neg (le_narrow number) negative
      rw [same] at large
      exact absurd small (Nat.not_lt.mpr large)
    · have nonneg := Int.not_lt.mp negative
      have below := mod_lt_of_nonneg nonneg
      rw [narrow_of_nonneg nonneg, widen_of_lt (below.trans (by decide))] at same
      rwa [same] at below
  · intro few
    rw [narrow_of_lt few, widen_of_lt (few.trans (by decide))]

end Slots

/-! ## Stored coefficients -/

namespace Problem

variable {K : Type} [Scalar K] {problem next : Problem K}

/-- There is room for one coefficient at each row and column. -/
theorem card_stored_lt (wellFormed : problem.workspace.WellFormed) :
    problem.stored.card < Word.values63 := by
  have within : problem.stored ⊆
      Finset.Icc 1 problem.rowCount ×ˢ Finset.Icc 1 problem.columnCount := by
    rintro ⟨row, column⟩ member
    obtain ⟨value, holds⟩ := mem_stored.mp member
    obtain ⟨rowInside, columnInside⟩ := (shows_cell wellFormed).inside row column value holds
    exact Finset.mem_product.mpr
      ⟨Finset.mem_Icc.mpr rowInside, Finset.mem_Icc.mpr columnInside⟩
  have few := Finset.card_le_card within
  rw [Finset.card_product, Nat.card_Icc, Nat.card_Icc, Nat.add_sub_cancel, Nat.add_sub_cancel,
    rowCount_eq wellFormed.rowLimit, columnCount_eq wellFormed.columnLimit] at few
  have room := Nat.mul_le_mul wellFormed.rowLimit wellFormed.columnLimit
  exact (few.trans room).trans_lt (by decide)

omit [Scalar K] in
theorem nonzeroCount_eq (problem : Problem K) :
    problem.nonzeroCount = Slots.widen (Slots.narrow problem.stored.card) := by
  rw [nonzeroCount, Workspace.coefficientCount, card_stored]

/-! ## Loads -/

theorem loadMatrix_of_neg (wellFormed : problem.workspace.WellFormed) {matrix : SparseMatrix K}
    (admits : problem.Admits matrix) (negative : Slots.narrow matrix.cells.card < 0) :
    problem.loadMatrix matrix =
      .error (.misuse (.invalidCount (Slots.narrow matrix.cells.card))) := by
  rw [matrix.card_cells] at negative ⊢
  rw [loadMatrix_of_admits wellFormed admits, if_pos negative]

theorem dimensions_of_loadMatrix (wellFormed : problem.workspace.WellFormed)
    {matrix : SparseMatrix K} (set : problem.loadMatrix matrix = .ok next) :
    next.rowCount = problem.rowCount ∧ next.columnCount = problem.columnCount := by
  rw [loadMatrix_of_admits wellFormed (admits_of_loadMatrix set)] at set
  split at set
  · cases set
  · cases set
    exact ⟨congrArg (fun count : Nat => Slots.widen count) (Workspace.length_rows_replaceMatrix _),
      congrArg (fun columns : List (WorkColumn K) => Slots.widen columns.length)
        (Workspace.columns_replaceMatrix _)⟩

/-- A load stores every cell that the matrix lists just if there are fewer than 2^31. -/
theorem stores_all_iff (wellFormed : problem.workspace.WellFormed) {matrix : SparseMatrix K}
    (admits : problem.Admits matrix) :
    (∃ next, problem.loadMatrix matrix = .ok next ∧ next.stored = matrix.cells) ↔
      matrix.cells.card < Word.values31 := by
  constructor
  · rintro ⟨next, set, same⟩
    have arrived := card_stored_of_loadMatrix wellFormed set
    have counted : ¬Slots.narrow matrix.cells.card < 0 := fun negative => by
      rw [loadMatrix_of_neg wellFormed admits negative] at set
      cases set
    have below := Slots.mod_lt_of_nonneg (Int.not_lt.mp counted)
    rwa [← arrived, same] at below
  · intro few
    have counted : ¬Slots.narrow matrix.cells.card < 0 := by
      rw [Slots.narrow_of_lt few]
      exact Int.not_lt.mpr (Int.natCast_nonneg _)
    obtain ⟨next, set⟩ := exists_loadMatrix wellFormed admits counted
    refine ⟨next, set, ?_⟩
    ext ⟨row, column⟩
    rw [mem_stored, SparseMatrix.mem_cells,
      cell_loadMatrix_of_lt wellFormed set (few.trans (by decide))]

end Problem

/-! ## Full problems -/

namespace Problem

/-- A problem can be filled by a load of all rows but the last, which is then set on its own. -/
theorem exists_filled {events : List (Event ℚ)} {problem : Problem ℚ}
    (history : History events problem) {rows : Nat} (rowCount : problem.rowCount = rows + 1)
    (few : rows * problem.columnCount < Word.values31) :
    ∃ (events : List (Event ℚ)) (filled : Problem ℚ), History events filled ∧
      filled.stored = Finset.Icc 1 (rows + 1) ×ˢ Finset.Icc 1 problem.columnCount := by
  generalize counted : problem.columnCount = columns at few ⊢
  have admits : problem.Admits (SparseMatrix.ones rows columns) :=
    SparseMatrix.admits_ones (by omega) counted.ge
  rw [← SparseMatrix.card_cells_ones] at few
  obtain ⟨loaded, set, stored⟩ := (stores_all_iff history.wellFormed admits).mpr few
  obtain ⟨rowsKept, columnsKept⟩ := dimensions_of_loadMatrix history.wellFormed set
  have loads : (Edit.loadMatrix (SparseMatrix.ones rows columns)).run problem =
      .ok (loaded, none) := by
    rw [Edit.run, set]
    rfl
  have afterLoad := history.edited loads
  have inside : ∀ column ∈ List.range' 1 columns,
      1 ≤ column ∧ column ≤ loaded.columnCount := by
    intro column member
    rw [List.mem_range'_1] at member
    omega
  -- The columns of one row are few enough, where all cells together need not be.
  obtain ⟨filled, fill⟩ : ∃ filled, loaded.setRowCoefficients (rows + 1) (List.range' 1 columns)
      (List.replicate columns 1) = .ok filled :=
    ⟨_, setRowCoefficients_of_inside afterLoad.wellFormed
      (by rw [List.length_range', List.length_replicate]) (by omega) inside⟩
  have fills : (Edit.setRowCoefficients (rows + 1) (List.range' 1 columns)
      (List.replicate columns 1)).run loaded = .ok (filled, none) := by
    rw [Edit.run, fill]
    rfl
  refine ⟨_, filled, afterLoad.edited fills, ?_⟩
  ext ⟨row, column⟩
  have listed : (∃ value, lastListed
      (List.zip (List.range' 1 columns) (List.replicate columns (1 : ℚ))) column = some value) ↔
        1 ≤ column ∧ column ≤ columns := by
    rw [← Option.isSome_iff_exists, Option.isSome_iff_ne_none, Ne, lastListed_eq_none_iff,
      not_not, List.map_fst_zip (by rw [List.length_range', List.length_replicate]),
      List.mem_range'_1]
    omega
  rw [mem_stored, cell_setRowCoefficients afterLoad.wellFormed fill]
  simp only [Finset.mem_product, Finset.mem_Icc]
  split
  · rw [listed]
    omega
  · rw [← mem_stored, stored, SparseMatrix.cells_ones]
    simp only [Finset.mem_product, Finset.mem_Icc]
    omega

end Problem

/-! ## Histories -/

namespace History

variable {K : Type} [Scalar K] {events : List (Event K)} {problem : Problem K}

/-- Counts of coefficients are right below 2^31, and so are loads.  Beyond, the count of what is
stored is told wrong, and a load halts or stores fewer cells than the matrix lists. -/
theorem counts_wrap (history : History events problem) :
    problem.nonzeroCount = Slots.widen (Slots.narrow problem.stored.card) ∧
    (problem.nonzeroCount = problem.stored.card ↔ problem.stored.card < Word.values31) ∧
    ∀ matrix, problem.Admits matrix →
      (Slots.narrow matrix.cells.card < 0 → problem.loadMatrix matrix =
        .error (.misuse (.invalidCount (Slots.narrow matrix.cells.card)))) ∧
      (¬Slots.narrow matrix.cells.card < 0 → ∃ next, problem.loadMatrix matrix = .ok next ∧
        next.stored.card = matrix.cells.card % Word.values32) ∧
      (matrix.cells.card < Word.values31 → ∃ next, problem.loadMatrix matrix = .ok next ∧
        ∀ row column, next.cell row column =
          lastListed (matrix.toList.map SparseMatrix.atCell) (row, column)) ∧
      ((∃ next, problem.loadMatrix matrix = .ok next ∧ next.stored = matrix.cells) ↔
        matrix.cells.card < Word.values31) := by
  have wellFormed := history.wellFormed
  have told := problem.nonzeroCount_eq
  refine ⟨told, ?_, fun matrix admits => ⟨problem.loadMatrix_of_neg wellFormed admits, ?_, ?_,
    problem.stores_all_iff wellFormed admits⟩⟩
  · rw [told]
    exact Slots.widen_narrow_eq_iff (Problem.card_stored_lt wellFormed)
  · intro counted
    obtain ⟨next, set⟩ := Problem.exists_loadMatrix wellFormed admits counted
    exact ⟨next, set, Problem.card_stored_of_loadMatrix wellFormed set⟩
  · intro few
    obtain ⟨next, set, -⟩ := (Problem.stores_all_iff wellFormed admits).mpr few
    exact ⟨next, set, Problem.cell_loadMatrix_of_lt wellFormed set (few.trans (by decide))⟩

/-- Two rows of three columns with two coefficients, and a matrix that lists a cell twice. -/
theorem counts_wrap_pair :
    ∃ (events : List (Event ℚ)) (problem next : Problem ℚ) (matrix : SparseMatrix ℚ),
      (History events problem ∧ events.map (·.request) =
        [.edit (.setRowCoefficients 1 [3, 1] [5, 6]), .edit (.addColumns 3),
          .edit (.addRows 2)]) ∧
      (problem.stored.card = 2 ∧ problem.nonzeroCount = problem.stored.card) ∧
      (matrix = ⟨[1, 2, 1], [1, 3, 1], [4, 5, 6]⟩ ∧ problem.Admits matrix ∧
        matrix.cells.card = 2) ∧
      problem.loadMatrix matrix = .ok next ∧ next.stored = matrix.cells := by
  have rows := History.returned (.edit (.addRows 2)) (History.create (K := ℚ)) rfl
  have columns := History.returned (.edit (.addColumns 3)) rows rfl
  have inRow := History.returned (.edit (.setRowCoefficients 1 [3, 1] [5, 6])) columns (by rfl)
  obtain ⟨-, told, loads⟩ := counts_wrap inRow
  obtain ⟨-, -, -, all⟩ := loads ⟨[1, 2, 1], [1, 3, 1], [4, 5, 6]⟩
    (Problem.forM_checkCell_iff.mp rfl)
  obtain ⟨next, set, stored⟩ := all.mpr (by decide +kernel)
  exact ⟨_, _, next, _, ⟨inRow, rfl⟩, ⟨by decide +kernel, told.mpr (by decide +kernel)⟩,
    ⟨rfl, Problem.admits_of_loadMatrix set, by decide +kernel⟩, set, stored⟩

/-- With 65536 rows and 32768 columns, a matrix of ones in all their cells is not loaded, and once
they are all set they are told to be more than there can be. -/
theorem counts_lost :
    ∃ (events : List (Event ℚ)) (problem : Problem ℚ), History events problem ∧
      (problem.Admits (SparseMatrix.ones 65536 32768) ∧
        (SparseMatrix.ones 65536 32768).cells.card = 2147483648 ∧
        problem.loadMatrix (SparseMatrix.ones 65536 32768) =
          .error (.misuse (.invalidCount (-2147483648)))) ∧
      ∃ (events : List (Event ℚ)) (filled : Problem ℚ), History events filled ∧
        filled.stored.card = 2147483648 ∧ filled.nonzeroCount = 18446744071562067968 := by
  have rowsFit : 1 ≤ 65536 ∧ 65536 ≤ maxDimension := by decide
  have columnsFit : 1 ≤ 32768 ∧ 32768 ≤ maxDimension := by decide
  obtain ⟨events, history, -⟩ := Problem.exists_history_spacious rowsFit columnsFit
  have rows : (Problem.spacious 65536 32768).rowCount = 65536 := Problem.rowCount_spacious rowsFit
  have columns : (Problem.spacious 65536 32768).columnCount = 32768 :=
    Problem.columnCount_spacious columnsFit
  have admits : (Problem.spacious 65536 32768).Admits (SparseMatrix.ones 65536 32768) :=
    SparseMatrix.admits_ones rows.ge columns.ge
  have cells : (SparseMatrix.ones 65536 32768).cells.card = 2147483648 :=
    SparseMatrix.card_cells_ones 65536 32768
  have wrapped : Slots.narrow 2147483648 = -2147483648 := by decide
  refine ⟨events, _, history, ⟨admits, cells, ?_⟩, ?_⟩
  · have halts := Problem.loadMatrix_of_neg history.wellFormed admits
    rw [cells, wrapped] at halts
    exact halts (by decide)
  · obtain ⟨later, filled, full, stored⟩ := Problem.exists_filled history rows
      (by rw [columns]; decide)
    have counted : filled.stored.card = 2147483648 := by
      rw [stored, columns, Finset.card_product, Nat.card_Icc, Nat.card_Icc]
    refine ⟨later, filled, full, counted, ?_⟩
    rw [filled.nonzeroCount_eq, counted, wrapped]
    decide

end History

end LinearProgramming
