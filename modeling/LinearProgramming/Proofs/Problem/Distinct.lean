import Mathlib.Data.Finset.Prod
import Mathlib.Order.Interval.Finset.Nat
import LinearProgramming.Proofs.Problem.Coefficients
import LinearProgramming.Proofs.Problem.History

/-!
# Distinct cells

The cells that a matrix lists, and those at which a problem stores a coefficient.  A load hands the
number of its cells over in 32 bits.  Whatever it stores is the last value of a cell that the matrix
lists, and it stores all of these just if 32 bits can count them.
-/

namespace LinearProgramming

/-! ## Cells of a matrix -/

namespace SparseMatrix

variable {K : Type} {matrix : SparseMatrix K}

theorem mem_cells_iff {entries : List (Nat × Nat × K)} {cell : Nat × Nat} :
    cell ∈ (entries.map atCell).map Prod.fst ↔
      ∃ value, lastListed (entries.map atCell) cell = some value := by
  rw [← Option.isSome_iff_exists, Option.isSome_iff_ne_none, Ne, lastListed_eq_none_iff, not_not]

theorem mem_cells_lastWrites_iff {entries : List (Nat × Nat × K)} {cell : Nat × Nat} :
    cell ∈ ((lastWrites entries).map atCell).map Prod.fst ↔
      cell ∈ (entries.map atCell).map Prod.fst := by
  rw [mem_cells_iff, mem_cells_iff, lastListed_lastWrites]

theorem nodup_lastWrites (entries : List (Nat × Nat × K)) :
    (((lastWrites entries).map atCell).map Prod.fst).Nodup := by
  induction entries with
  | nil => exact List.nodup_nil
  | cons entry rest inductionHypothesis =>
      rw [lastWrites]
      split
      · exact inductionHypothesis
      · rename_i single
        refine List.nodup_cons.mpr ⟨?_, inductionHypothesis⟩
        rw [mem_cells_lastWrites_iff, ← any_sameCell_iff]
        exact single

theorem nodup_resolved (matrix : SparseMatrix K) :
    ((matrix.resolved.toList.map atCell).map Prod.fst).Nodup := by
  rw [resolved, toList_ofList]
  exact nodup_lastWrites matrix.toList

theorem lastListed_resolved (matrix : SparseMatrix K) (cell : Nat × Nat) :
    lastListed (matrix.resolved.toList.map atCell) cell =
      lastListed (matrix.toList.map atCell) cell := by
  rw [resolved, toList_ofList, lastListed_lastWrites]

def cells (matrix : SparseMatrix K) : Finset (Nat × Nat) :=
  ((matrix.toList.map atCell).map Prod.fst).toFinset

theorem mem_cells {cell : Nat × Nat} :
    cell ∈ matrix.cells ↔
      ∃ value, lastListed (matrix.toList.map atCell) cell = some value := by
  rw [cells, List.mem_toFinset, mem_cells_iff]

theorem card_cells (matrix : SparseMatrix K) :
    matrix.cells.card = matrix.resolved.toList.length := by
  have same : matrix.cells = ((matrix.resolved.toList.map atCell).map Prod.fst).toFinset := by
    ext cell
    rw [mem_cells, List.mem_toFinset, mem_cells_iff]
    simp only [lastListed_resolved]
  rw [same, List.toFinset_card_of_nodup matrix.nodup_resolved, List.length_map, List.length_map]

section Take

variable {count : Nat}

theorem card_take_resolved (enough : count ≤ matrix.cells.card) :
    (((matrix.resolved.toList.take count).map atCell).map Prod.fst).toFinset.card = count := by
  rw [card_cells] at enough
  rw [List.toFinset_card_of_nodup]
  · rw [List.length_map, List.length_map, List.length_take]
    exact Nat.min_eq_left enough
  · rw [List.map_take, List.map_take]
    exact matrix.nodup_resolved.sublist (List.take_sublist _ _)

/-- Of entries without repetitions any first ones have the values of all. -/
theorem lastListed_of_take {cell : Nat × Nat} {value : K}
    (taken : lastListed ((matrix.resolved.toList.take count).map atCell) cell = some value) :
    lastListed (matrix.toList.map atCell) cell = some value := by
  have once := matrix.nodup_resolved
  have sublist : ((matrix.resolved.toList.take count).map atCell).Sublist
      (matrix.resolved.toList.map atCell) := (List.take_sublist _ _).map _
  rw [lastListed_eq_some_iff (once.sublist (sublist.map Prod.fst))] at taken
  rw [← lastListed_resolved, lastListed_eq_some_iff once]
  exact sublist.subset taken

end Take

end SparseMatrix

/-! ## Cells of a problem -/

namespace Problem

variable {K : Type} {problem next : Problem K}

/-- The coefficients that are counted, at rows and columns that are counted from one. -/
def places (problem : Problem K) : List (Nat × Nat) :=
  problem.workspace.places.map fun place => (place.1 + 1, place.2 + 1)

theorem nodup_places (problem : Problem K) : problem.places.Nodup := by
  apply problem.workspace.nodup_places.map
  intro left right same
  obtain ⟨row, column⟩ := Prod.mk.inj same
  exact Prod.ext (Nat.succ.inj row) (Nat.succ.inj column)

theorem mem_places_iff {row column : Nat} :
    (row, column) ∈ problem.places ↔ ∃ value, problem.cell row column = some value := by
  cases row with
  | zero => simp [places]
  | succ row =>
      cases column with
      | zero => simp [places]
      | succ column =>
          rw [cell, ← Workspace.mem_places_iff, places, List.mem_map]
          constructor
          · rintro ⟨place, stored, same⟩
            obtain ⟨sameRow, sameColumn⟩ := Prod.mk.inj same
            obtain rfl := Nat.succ.inj sameRow
            obtain rfl := Nat.succ.inj sameColumn
            exact stored
          · exact fun stored => ⟨_, stored, rfl⟩

def stored (problem : Problem K) : Finset (Nat × Nat) :=
  problem.places.toFinset

theorem mem_stored {row column : Nat} :
    (row, column) ∈ problem.stored ↔ ∃ value, problem.cell row column = some value := by
  rw [stored, List.mem_toFinset, mem_places_iff]

theorem card_stored (problem : Problem K) :
    problem.stored.card = problem.workspace.cellCount := by
  rw [stored, List.toFinset_card_of_nodup problem.nodup_places, places, List.length_map,
    Workspace.length_places]

/-! ## Loads -/

section Load

variable [Scalar K] {matrix : SparseMatrix K} (wellFormed : problem.workspace.WellFormed)

theorem exists_loadMatrix (wellFormed : problem.workspace.WellFormed)
    (admits : problem.Admits matrix) (counted : ¬Slots.narrow matrix.cells.card < 0) :
    ∃ next, problem.loadMatrix matrix = .ok next := by
  rw [matrix.card_cells] at counted
  rw [loadMatrix_of_admits wellFormed admits, if_neg counted]
  exact ⟨_, rfl⟩

variable (set : problem.loadMatrix matrix = .ok next)
include wellFormed set

theorem card_stored_of_loadMatrix :
    next.stored.card = matrix.cells.card % Word.values32 := by
  have same : next.stored = (((matrix.resolved.toList.take
      (matrix.cells.card % Word.values32)).map SparseMatrix.atCell).map Prod.fst).toFinset := by
    ext ⟨row, column⟩
    rw [mem_stored, List.mem_toFinset, SparseMatrix.mem_cells_iff, matrix.card_cells]
    exact exists_congr fun value => by rw [cell_loadMatrix wellFormed set]
  rw [same, SparseMatrix.card_take_resolved (Nat.mod_le _ _)]

theorem lastListed_of_loadMatrix {row column : Nat} {value : K}
    (stored : next.cell row column = some value) :
    lastListed (matrix.toList.map SparseMatrix.atCell) (row, column) = some value := by
  rw [cell_loadMatrix wellFormed set] at stored
  exact SparseMatrix.lastListed_of_take stored

/-- A load of as many cells as 32 bits can count stores all of them, at their last values. -/
theorem cell_loadMatrix_of_lt (few : matrix.cells.card < Word.values32) (row column : Nat) :
    next.cell row column = lastListed (matrix.toList.map SparseMatrix.atCell) (row, column) := by
  rw [cell_loadMatrix wellFormed set, ← matrix.card_cells, Nat.mod_eq_of_lt few,
    matrix.card_cells, List.take_length, matrix.lastListed_resolved]

/-- No other load does. -/
theorem cell_loadMatrix_iff :
    (∀ row column, next.cell row column =
      lastListed (matrix.toList.map SparseMatrix.atCell) (row, column)) ↔
        matrix.cells.card < Word.values32 := by
  constructor
  · intro all
    have same : next.stored = matrix.cells := by
      ext ⟨row, column⟩
      rw [mem_stored, SparseMatrix.mem_cells, all]
    have arrived := card_stored_of_loadMatrix wellFormed set
    rw [same] at arrived
    rw [arrived]
    exact Nat.mod_lt _ (Nat.succ_pos _)
  · exact cell_loadMatrix_of_lt wellFormed set

end Load

end Problem

/-! ## Full matrices -/

def SparseMatrix.ones (rows columns : Nat) : SparseMatrix ℚ :=
  ofList ((List.product (List.range' 1 rows) (List.range' 1 columns)).map fun cell =>
    (cell.1, cell.2, 1))

namespace SparseMatrix

theorem places_ones (rows columns : Nat) : ((ones rows columns).toList.map atCell).map Prod.fst =
    List.product (List.range' 1 rows) (List.range' 1 columns) := by
  rw [ones, toList_ofList, List.map_map, List.map_map]
  exact List.map_id _

theorem cells_ones (rows columns : Nat) :
    (ones rows columns).cells = Finset.Icc 1 rows ×ˢ Finset.Icc 1 columns := by
  ext ⟨row, column⟩
  rw [cells, places_ones, List.mem_toFinset, List.pair_mem_product, Finset.mem_product,
    List.mem_range'_1, List.mem_range'_1, Finset.mem_Icc, Finset.mem_Icc]
  omega

theorem card_cells_ones (rows columns : Nat) : (ones rows columns).cells.card = rows * columns := by
  rw [cells_ones, Finset.card_product, Nat.card_Icc, Nat.card_Icc, Nat.add_sub_cancel,
    Nat.add_sub_cancel]

theorem lastListed_ones {rows columns row column : Nat} (rowInside : 1 ≤ row ∧ row ≤ rows)
    (columnInside : 1 ≤ column ∧ column ≤ columns) :
    lastListed ((ones rows columns).toList.map atCell) (row, column) = some 1 := by
  have once : (((ones rows columns).toList.map atCell).map Prod.fst).Nodup := by
    rw [places_ones]
    exact List.Nodup.product List.nodup_range' List.nodup_range'
  rw [lastListed_eq_some_iff once, ones, toList_ofList, List.map_map]
  refine List.mem_map.mpr ⟨(row, column), ?_, rfl⟩
  rw [List.pair_mem_product, List.mem_range'_1, List.mem_range'_1]
  omega

theorem admits_ones {problem : Problem ℚ} {rows columns : Nat} (rowsFit : rows ≤ problem.rowCount)
    (columnsFit : columns ≤ problem.columnCount) : problem.Admits (ones rows columns) := by
  intro entry member
  rw [ones, toList_ofList] at member
  obtain ⟨cell, listed, rfl⟩ := List.mem_map.mp member
  obtain ⟨row, column⟩ := List.mem_product.mp listed
  rw [List.mem_range'_1] at row column
  dsimp only
  omega

end SparseMatrix

namespace Problem

def spacious (rows columns : Nat) : Problem ℚ :=
  ({ (empty : Problem ℚ) with
    workspace := ((Workspace.empty.appendRows rows).appendColumns columns) }).forget

section Spacious

variable {K : Type} [Scalar K] {problem : Problem K} {count : Nat}

omit [Scalar K] in
theorem checkCount_of_le (target : String) (fits : count ≤ maxDimension) :
    (checkCount target count : Except (Failure K) Int) = .ok count :=
  if_pos (lt_values31_of_le fits)

theorem run_addRows_of_nil (none : problem.workspace.rows = [])
    (fits : 1 ≤ count ∧ count ≤ maxDimension) :
    (Edit.addRows count).run problem = .ok
      (({ problem with workspace := problem.workspace.appendRows count } : Problem K).forget,
        some 1) := by
  have room : Workspace.hasRoom problem.workspace.rows.length count = true := by
    rw [none, Workspace.hasRoom, decide_eq_true_eq, List.length_nil]
    omega
  rw [Edit.run, addRows, if_neg (by omega), checkCount_of_le "rows" fits.2, Except.ok_bind,
    Workspace.addRows, if_pos room, none]
  rfl

theorem run_addColumns_of_nil (none : problem.workspace.columns = [])
    (fits : 1 ≤ count ∧ count ≤ maxDimension) :
    (Edit.addColumns count).run problem = .ok
      (({ problem with workspace := problem.workspace.appendColumns count } : Problem K).forget,
        some 1) := by
  have room : Workspace.hasRoom problem.workspace.columns.length count = true := by
    rw [none, Workspace.hasRoom, decide_eq_true_eq, List.length_nil]
    omega
  rw [Edit.run, addColumns, if_neg (by omega), checkCount_of_le "columns" fits.2, Except.ok_bind,
    Workspace.addColumns, if_pos room, none]
  rfl

variable {rows columns : Nat} (rowsFit : 1 ≤ rows ∧ rows ≤ maxDimension)
  (columnsFit : 1 ≤ columns ∧ columns ≤ maxDimension)

include rowsFit in
theorem rowCount_spacious : (spacious rows columns).rowCount = rows := by
  have length : (spacious rows columns).workspace.rows.length = rows := List.length_replicate
  rw [rowCount_eq (length.le.trans rowsFit.2), length]

include columnsFit in
theorem columnCount_spacious : (spacious rows columns).columnCount = columns := by
  have length : (spacious rows columns).workspace.columns.length = columns :=
    List.length_replicate
  rw [columnCount_eq (length.le.trans columnsFit.2), length]

include rowsFit columnsFit in
theorem exists_history_spacious : ∃ events, History events (spacious rows columns) ∧
    events.map (·.request) = [.edit (.addColumns columns), .edit (.addRows rows)] := by
  have rowsAdded := (History.create (K := ℚ)).edited (run_addRows_of_nil rfl rowsFit)
  exact ⟨_, rowsAdded.edited (run_addColumns_of_nil rfl columnsFit), rfl⟩

end Spacious

end Problem

end LinearProgramming
