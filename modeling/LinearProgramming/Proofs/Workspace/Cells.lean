import LinearProgramming.Proofs.Sparse
import LinearProgramming.Proofs.Workspace.Survivors
import LinearProgramming.Workspace.Query

/-!
# The coefficients of a workspace

The coefficients are stored by rows, but what matters is the value at each row and column.  Every
change of a workspace is a change of these values, and a row and a column that are read list
exactly the values that stand there.
-/

namespace LinearProgramming

namespace Workspace

variable {K : Type}

/-- The coefficient that is stored at a row and a column, which are counted from zero. -/
def cell (workspace : Workspace K) (row column : Nat) : Option K :=
  workspace.rows[row]?.bind fun current => current.cells.get? column

variable {workspace next : Workspace K}

theorem cell_congr
    (same : next.rows.map (·.cells) = workspace.rows.map (·.cells)) :
    next.cell = workspace.cell := by
  have read (workspace : Workspace K) (row column : Nat) : workspace.cell row column =
      ((workspace.rows.map (·.cells))[row]?).bind fun cells => cells.get? column := by
    rw [List.getElem?_map, Option.bind_map]
    rfl
  funext row column
  rw [read, read, same]

theorem cell_eq_some_iff {row column : Nat} {value : K} :
    workspace.cell row column = some value ↔
      ∃ current, workspace.rows[row]? = some current ∧ (column, value) ∈ current.cells.cells := by
  rw [cell, Option.bind_eq_some_iff]
  simp only [SparseRow.get?_eq_some_iff]

theorem InRange.lt_of_cell (inRange : workspace.InRange) {row column : Nat} {value : K}
    (stored : workspace.cell row column = some value) :
    row < workspace.rows.length ∧ column < workspace.columns.length := by
  obtain ⟨current, at_row, member⟩ := cell_eq_some_iff.mp stored
  exact ⟨(List.getElem?_eq_some_iff.mp at_row).1,
    inRange.cells current (List.mem_of_getElem? at_row) _ member⟩

theorem cell_modifyRow (workspace : Workspace K) (position : Nat)
    (change : WorkRow K → WorkRow K) (row column : Nat) :
    (workspace.modifyRow position change).cell row column =
      if position = row then
        workspace.rows[row]?.bind fun current => (change current).cells.get? column
      else workspace.cell row column := by
  rw [cell, modifyRow, List.getElem?_modify]
  split
  · simp [Option.bind_map]
  · simp [cell]

/-! ## Changes of the coefficients -/

theorem cell_insertCell {position : Nat} (inside : position < workspace.rows.length)
    (target : Nat) (value : K) (row column : Nat) :
    (workspace.insertCell position target value).cell row column =
      if (row, column) = (position, target) then some value else workspace.cell row column := by
  rw [insertCell, cell_modifyRow]
  by_cases here : position = row
  · subst here
    rw [if_pos rfl, cell, List.getElem?_eq_getElem inside, Option.bind_some, Option.bind_some,
      SparseRow.get?_insert]
    simp only [Prod.mk.injEq, true_and]
  · rw [if_neg here, if_neg fun found => here (congrArg Prod.fst found).symm]

/-- Values that are put in one after the other stand before those that were there. -/
theorem cell_foldl_insertCell (workspace : Workspace K) {entries : List (Nat × Nat × K)}
    (inside : ∀ entry ∈ entries, entry.1 < workspace.rows.length) (row column : Nat) :
    (entries.foldl (fun current entry => current.insertCell entry.1 entry.2.1 entry.2.2)
      workspace).cell row column =
        (lastListed (entries.map SparseMatrix.atCell) (row, column)).or
          (workspace.cell row column) := by
  induction entries generalizing workspace with
  | nil => rfl
  | cons entry rest inductionHypothesis =>
      obtain ⟨head, tail⟩ := List.forall_mem_cons.mp inside
      have rows : (workspace.insertCell entry.1 entry.2.1 entry.2.2).rows.length =
          workspace.rows.length := List.length_modify _ _ _
      rw [List.foldl_cons, inductionHypothesis _ (rows.symm ▸ tail), cell_insertCell head,
        List.map_cons, lastListed_cons, Option.or_assoc]
      congr 1
      change _ = (if (row, column) = (entry.1, entry.2.1) then some entry.2.2 else none).or _
      split <;> rfl

theorem columns_foldl_insertCell {A : Type} (place : A → Nat × Nat × K) (entries : List A) :
    (entries.foldl (fun current entry =>
      current.insertCell (place entry).1 (place entry).2.1 (place entry).2.2) workspace).columns =
        workspace.columns := by
  induction entries generalizing workspace with
  | nil => rfl
  | cons entry entries inductionHypothesis => exact inductionHypothesis

theorem length_rows_foldl_insertCell {A : Type} (place : A → Nat × Nat × K) (entries : List A) :
    (entries.foldl (fun current entry =>
      current.insertCell (place entry).1 (place entry).2.1 (place entry).2.2)
      workspace).rows.length = workspace.rows.length := by
  induction entries generalizing workspace with
  | nil => rfl
  | cons entry entries inductionHypothesis =>
      exact inductionHypothesis.trans (List.length_modify _ _ _)

/-- The workspace with other cells in each row. -/
def mapCells (workspace : Workspace K) (change : SparseRow K → SparseRow K) : Workspace K :=
  { workspace with
    rows := workspace.rows.map fun current => { current with cells := change current.cells } }

theorem cell_mapCells (workspace : Workspace K) (change : SparseRow K → SparseRow K)
    (row column : Nat) :
    (workspace.mapCells change).cell row column =
      workspace.rows[row]?.bind fun current => (change current.cells).get? column := by
  rw [cell, mapCells, List.getElem?_map, Option.bind_map]
  rfl

theorem length_rows_mapCells (workspace : Workspace K) (change : SparseRow K → SparseRow K) :
    (workspace.mapCells change).rows.length = workspace.rows.length :=
  List.length_map _

section Discarding

variable [Scalar K]

theorem cell_replaceRow {position : Nat} (inside : position < workspace.rows.length)
    (cells : List (Nat × K)) (row column : Nat) :
    (workspace.replaceRow position cells).cell row column =
      if row = position then lastListed cells column else workspace.cell row column := by
  refine (cell_modifyRow workspace position _ row column).trans ?_
  by_cases here : position = row
  · subst here
    rw [if_pos rfl, if_pos rfl, List.getElem?_eq_getElem inside, Option.bind_some,
      SparseRow.get?_ofCells]
  · rw [if_neg here, if_neg (Ne.symm here)]

theorem cell_replaceColumn {cells : List (Nat × K)}
    (inside : ∀ cell ∈ cells, cell.1 < workspace.rows.length) (target row column : Nat) :
    (workspace.replaceColumn target cells).cell row column =
      if column = target then lastListed cells row else workspace.cell row column := by
  have placed : ∀ entry ∈ cells.map fun cell => (cell.1, target, cell.2),
      entry.1 < (workspace.mapCells (·.erase target)).rows.length := by
    rw [length_rows_mapCells]
    exact List.forall_mem_map.mpr inside
  have written := cell_foldl_insertCell _ placed row column
  rw [List.foldl_map, cell_mapCells, SparseMatrix.lastListed_column] at written
  refine Eq.trans written ?_
  by_cases here : column = target
  · simp [here, SparseRow.get?_erase]
  · simp [here, SparseRow.get?_erase, cell]

theorem columns_replaceColumn (target : Nat) (cells : List (Nat × K)) :
    (workspace.replaceColumn target cells).columns = workspace.columns :=
  columns_foldl_insertCell (fun cell : Nat × K => (cell.1, target, cell.2)) cells

theorem cell_replaceMatrix {entries : List (Nat × Nat × K)}
    (inside : ∀ entry ∈ entries, entry.1 < workspace.rows.length) (row column : Nat) :
    (workspace.replaceMatrix entries).cell row column =
      lastListed (entries.map SparseMatrix.atCell) (row, column) := by
  have placed : ∀ entry ∈ entries,
      entry.1 < (workspace.mapCells fun _ => .empty).rows.length := by
    rwa [length_rows_mapCells]
  have written := cell_foldl_insertCell _ placed row column
  rw [cell_mapCells] at written
  refine Eq.trans written ?_
  -- What was there has been discarded, in a row that is there or in none.
  cases workspace.rows[row]? <;> simp

theorem columns_replaceMatrix (entries : List (Nat × Nat × K)) :
    (workspace.replaceMatrix entries).columns = workspace.columns :=
  columns_foldl_insertCell id entries

theorem length_rows_replaceMatrix (entries : List (Nat × Nat × K)) :
    (workspace.replaceMatrix entries).rows.length = workspace.rows.length :=
  (length_rows_foldl_insertCell id entries).trans (List.length_map _)

theorem cell_dropRows (workspace : Workspace K) (positions : List Nat) (row column : Nat) :
    (workspace.dropRows positions).cell row column =
      workspace.cell (survivor positions row) column := by
  change (keepOthers workspace.rows positions)[row]?.bind _ = _
  rw [getElem?_keepOthers]
  rfl

theorem cell_dropColumns {positions : List Nat} (once : positions.Nodup) (row column : Nat) :
    (workspace.dropColumns positions).cell row column =
      workspace.cell row (survivor positions column) := by
  refine (cell_mapCells workspace
    (fun cells => cells.renumber (newPosition positions)) row column).trans ?_
  simp only [SparseRow.get?_renumber _ fun position place => newPosition_eq_some_iff once]
  rfl

theorem cell_appendRows (workspace : Workspace K) (count : Nat) :
    (workspace.appendRows count).cell = workspace.cell := by
  funext row column
  change (workspace.rows ++ List.replicate count WorkRow.new)[row]?.bind _ = _
  rw [List.getElem?_append]
  split
  · rfl
  · rename_i beyond
    rw [List.getElem?_replicate, cell, List.getElem?_eq_none (Nat.not_lt.mp beyond)]
    split <;> rfl

end Discarding

/-! ## Changes that keep the coefficients -/

theorem cell_modifyRow_of_eq {change : WorkRow K → WorkRow K}
    (kept : ∀ current, (change current).cells = current.cells) (position : Nat) :
    (workspace.modifyRow position change).cell = workspace.cell := by
  funext row column
  rw [cell_modifyRow]
  simp only [kept, cell, ite_self]

end Workspace

def Command.movesCells {K : Type} : Command K → Bool
  | setRow _ _ _ _ => true
  | setColumn _ _ _ _ => true
  | loadMatrix _ _ _ _ => true
  | deleteRows _ _ => true
  | deleteColumns _ _ => true
  | _ => false

namespace Workspace

variable {K : Type} [Scalar K] {workspace next : Workspace K}

theorem cell_run {command : Command K} {number : Option Int}
    (keeps : command.movesCells = false) (ran : command.run workspace = .ok (next, number)) :
    next.cell = workspace.cell := by
  cases Command.effect_of_run ran with
  | setRow | setColumn | loadMatrix | deleteRows | deleteColumns => cases keeps
  | setRowName | setRowBound =>
      refine cell_modifyRow_of_eq ?_ _
      exact fun _ => rfl
  | addRows => exact cell_appendRows workspace _
  | _ => rfl

end Workspace

/-! ## Rows, columns and the number of coefficients -/

namespace Workspace

variable {K : Type} {workspace : Workspace K}

theorem mem_columnCells {column row : Nat} {value : K} :
    (row, value) ∈ workspace.columnCells column ↔ workspace.cell row column = some value := by
  rw [columnCells, List.mem_filterMap, cell, Option.bind_eq_some_iff]
  constructor
  · rintro ⟨⟨current, index⟩, listed, found⟩
    obtain ⟨stored, at_column, same⟩ := Option.map_eq_some_iff.mp found
    obtain ⟨rfl, rfl⟩ := Prod.mk.inj same
    exact ⟨current, List.mem_zipIdx_iff_getElem?.mp listed, at_column⟩
  · rintro ⟨current, at_row, found⟩
    refine ⟨(current, row), List.mem_zipIdx_iff_getElem?.mpr at_row, ?_⟩
    exact Option.map_eq_some_iff.mpr ⟨value, found, rfl⟩

theorem ascending_zipIdx {A : Type} (entries : List A) :
    entries.zipIdx.Pairwise fun left right => left.2 < right.2 := by
  apply List.pairwise_map.mp
  rw [List.zipIdx_map_snd]
  exact List.pairwise_lt_range' 1

theorem ascending_columnCells (workspace : Workspace K) (column : Nat) :
    (workspace.columnCells column).Pairwise fun left right => left.1 < right.1 := by
  refine (ascending_zipIdx workspace.rows).filterMap _ ?_
  intro left right less first isFirst second isSecond
  obtain ⟨_, -, rfl⟩ := Option.map_eq_some_iff.mp isFirst
  obtain ⟨_, -, rfl⟩ := Option.map_eq_some_iff.mp isSecond
  exact less

def places (workspace : Workspace K) : List (Nat × Nat) :=
  workspace.rows.zipIdx.flatMap fun row => row.1.cells.cells.map fun cell => (row.2, cell.1)

theorem mem_places_iff {row column : Nat} :
    (row, column) ∈ workspace.places ↔ ∃ value, workspace.cell row column = some value := by
  simp only [places, List.mem_flatMap, List.mem_map, cell_eq_some_iff]
  constructor
  · rintro ⟨⟨current, index⟩, listed, cell, stored, same⟩
    obtain ⟨rfl, rfl⟩ := Prod.mk.inj same
    exact ⟨cell.2, current, List.mem_zipIdx_iff_getElem?.mp listed, stored⟩
  · rintro ⟨value, current, at_row, stored⟩
    exact ⟨(current, row), List.mem_zipIdx_iff_getElem?.mpr at_row, _, stored, rfl⟩

theorem nodup_places (workspace : Workspace K) : workspace.places.Nodup := by
  apply List.nodup_flatMap.mpr
  constructor
  · intro row _
    have columns := row.1.cells.nodup_columns.map (Prod.mk_right_injective row.2)
    rwa [List.map_map] at columns
  · refine (ascending_zipIdx workspace.rows).imp ?_
    intro left right less place inLeft inRight
    obtain ⟨_, -, rfl⟩ := List.mem_map.mp inLeft
    obtain ⟨_, -, same⟩ := List.mem_map.mp inRight
    exact Nat.ne_of_gt less (congrArg Prod.fst same)

theorem length_places (workspace : Workspace K) :
    workspace.places.length = workspace.cellCount := by
  have rows := List.zipIdx_map_fst 0 workspace.rows
  rw [places, cellCount, List.length_flatMap, List.length_flatMap]
  conv_rhs => rw [← rows, List.map_map]
  simp only [List.length_map, Function.comp_def]

end Workspace

end LinearProgramming
