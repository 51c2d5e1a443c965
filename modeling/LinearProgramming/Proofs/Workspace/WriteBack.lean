import LinearProgramming.Proofs.Problem.Arrays

/-!
# Rows and columns that are read and written back

A call that reads a row or a column of the matrix tells how many coefficients stand there, whatever
arrays it is given, and writes them into the slots from 1 on and into no others.  Handed straight
back, these arrays set the row or the column to what it was: all that the workspace loses are its
solutions.
-/

namespace LinearProgramming

namespace Workspace

open Stepwise

variable {K : Type}

/-! ## The lines of the matrix -/

structure Lists (line : Nat → Option K) (cells : List (Nat × K)) : Prop where
  mem_iff : ∀ place value, (place, value) ∈ cells ↔ line place = some value
  ascending : cells.Pairwise fun left right => left.1 < right.1

theorem Lists.lastListed_eq {line : Nat → Option K} {cells : List (Nat × K)}
    (lists : Lists line cells) : lastListed cells = line := by
  have once : (cells.map Prod.fst).Nodup := (List.pairwise_map.mpr lists.ascending).nodup
  funext place
  apply Option.ext
  intro value
  rw [lastListed_eq_some_iff once, lists.mem_iff]

variable {workspace next : Workspace K} {cells : List (Nat × K)}

theorem lists_row {row : Nat} {current : WorkRow K} (at_row : workspace.rows[row]? = some current) :
    Lists (workspace.cell row) current.cells.cells where
  mem_iff place value := by
    rw [cell, at_row, Option.bind_some, SparseRow.get?_eq_some_iff]
  ascending := current.cells.ascending

theorem lists_column (workspace : Workspace K) (column : Nat) :
    Lists (fun row => workspace.cell row column) (workspace.columnCells column) where
  mem_iff _ _ := mem_columnCells
  ascending := ascending_columnCells workspace column

/-! ## Lines that are set to what they are -/

def emptied (row : WorkRow K) : WorkRow K :=
  { row with cells := .empty }

def bare (workspace : Workspace K) : Workspace K :=
  { workspace with rows := workspace.rows.map emptied }

theorem row_eq_of_get? {first second : WorkRow K} (same : emptied first = emptied second)
    (cells : ∀ column, first.cells.get? column = second.cells.get? column) : first = second := by
  obtain ⟨name, bound, _⟩ := first
  obtain ⟨_, _, _⟩ := second
  obtain ⟨rfl, rfl, -⟩ := WorkRow.mk.inj same
  exact congrArg (WorkRow.mk name bound) (SparseRow.ext_get? cells)

/-- A workspace is its coefficients and what is left without them. -/
theorem eq_of_cell (same : next.bare = workspace.bare) (cells : next.cell = workspace.cell) :
    next = workspace := by
  have rows : next.rows = workspace.rows := by
    apply List.ext_getElem?
    intro row
    have others : next.rows[row]?.map emptied = workspace.rows[row]?.map emptied := by
      rw [← List.getElem?_map, ← List.getElem?_map]
      exact congrArg (·.rows[row]?) same
    have values := congrFun cells row
    unfold cell at values
    cases first : next.rows[row]? with
    | none =>
        rw [first, Option.map_none, eq_comm, Option.map_eq_none_iff] at others
        exact others.symm
    | some left =>
        rw [first, Option.map_some, eq_comm, Option.map_eq_some_iff] at others
        obtain ⟨right, second, same⟩ := others
        rw [first, second] at values
        rw [second]
        exact congrArg some (row_eq_of_get? same.symm (congrFun values))
  obtain ⟨_, _, _, _, _, _, _, _, _⟩ := next
  obtain ⟨_, _, _, _, _, _, _, _, _⟩ := workspace
  cases rows
  simpa [bare] using same

theorem bare_modifyRow (workspace : Workspace K) (position : Nat)
    {change : WorkRow K → WorkRow K}
    (kept : ∀ current, emptied (change current) = emptied current) :
    (workspace.modifyRow position change).bare = workspace.bare := by
  have rows : (workspace.rows.modify position change).map emptied =
      workspace.rows.map emptied := by
    apply List.ext_getElem?
    intro row
    rw [List.getElem?_map, List.getElem?_modify, List.getElem?_map, Option.map_eq_map,
      Option.map_map]
    congr 1
    funext current
    dsimp only [Function.comp_apply]
    split
    · exact kept current
    · rfl
  rw [bare, modifyRow, rows, bare]

theorem bare_foldl_insertCell (workspace : Workspace K) {A : Type} (place : A → Nat × Nat × K)
    (entries : List A) :
    (entries.foldl (fun current entry =>
      current.insertCell (place entry).1 (place entry).2.1 (place entry).2.2) workspace).bare =
        workspace.bare := by
  induction entries generalizing workspace with
  | nil => rfl
  | cons entry entries inductionHypothesis =>
      rw [List.foldl_cons, inductionHypothesis]
      exact bare_modifyRow workspace _ fun _ => rfl

variable [Scalar K]

theorem replaceRow_of_lists {row : Nat} (inside : row < workspace.rows.length)
    (lists : Lists (workspace.cell row) cells) :
    workspace.replaceRow row cells = workspace.discard := by
  have same : workspace.modifyRow row (fun current => { current with cells := .ofCells cells }) =
      workspace := by
    refine eq_of_cell (bare_modifyRow workspace row fun _ => rfl) ?_
    funext place column
    refine (cell_replaceRow inside cells place column).trans ?_
    split
    · rename_i here
      rw [lists.lastListed_eq, here]
    · rfl
  rw [replaceRow, same]

theorem replaceColumn_of_lists {column : Nat}
    (inside : ∀ cell ∈ cells, cell.1 < workspace.rows.length)
    (lists : Lists (fun row => workspace.cell row column) cells) :
    workspace.replaceColumn column cells = workspace.discard := by
  have same : cells.foldl (fun current cell => current.insertCell cell.1 column cell.2)
      (workspace.mapCells (·.erase column)) = workspace := by
    refine eq_of_cell ?_ ?_
    · refine (bare_foldl_insertCell _
        (fun cell : Nat × K => (cell.1, column, cell.2)) cells).trans ?_
      simp [bare, emptied, mapCells]
    · funext row place
      refine (cell_replaceColumn inside column row place).trans ?_
      split
      · rename_i here
        rw [lists.lastListed_eq, here]
      · rfl
  exact congrArg discard same

/-! ## Calls that hand cells back -/

omit [Scalar K] in
theorem mapM_numbered {test : Int × K → Except Misuse (Nat × K)}
    (found : ∀ cell ∈ cells, test ((cell.1 + 1 : Nat), cell.2) = .ok cell) :
    (cells.map fun cell => ((cell.1 : Int) + 1, cell.2)).mapM test = .ok cells := by
  rw [Except.mapM_eq_ok_iff, List.forall₂_map_left_iff, List.forall₂_same]
  exact found

section Entries

variable {numbers : Option (List Int)} {values : Option (List K)}
  (numbered : Slots.entries cells.length numbers = .ok (cells.map fun cell => (cell.1 : Int) + 1))
  (valued : Slots.entries cells.length values = .ok (cells.map Prod.snd))

include numbered valued

theorem setRow_of_entries {row : Nat} (inside : row < workspace.rows.length)
    (below : ∀ cell ∈ cells, cell.1 < workspace.columns.length) :
    workspace.setRow (row + 1 : Nat) cells.length numbers values =
      .ok (workspace.replaceRow row cells) := by
  rw [Slots.entries_natCast] at numbered valued
  simp only [setRow, rowPosition_succ inside, Slots.count_natCast, numbered, valued,
    Except.ok_bind, List.zip_map']
  rw [mapM_numbered fun cell member => by rw [columnPosition_succ (below cell member)]; rfl]
  rfl

theorem setColumn_of_entries {column : Nat} (inside : column < workspace.columns.length)
    (below : ∀ cell ∈ cells, cell.1 < workspace.rows.length) :
    workspace.setColumn (column + 1 : Nat) cells.length numbers values =
      .ok (workspace.replaceColumn column cells) := by
  rw [Slots.entries_natCast] at numbered valued
  simp only [setColumn, columnPosition_succ inside, Slots.count_natCast, numbered, valued,
    Except.ok_bind, List.zip_map']
  rw [mapM_numbered fun cell member => by rw [rowPosition_succ (below cell member)]; rfl]
  rfl

end Entries

/-! ## There and back -/

structure Answers (workspace : Workspace K) (query : Query K) (answer : Answer K) : Prop where
  answered : query.answer workspace = .ok answer
  looked : (Call.read query).steps.run workspace = .ok (.answer answer) workspace

structure Changes (workspace : Workspace K) (command : Command K) (next : Workspace K) :
    Prop where
  ran : command.run workspace = .ok (next, none)
  stepped : (Call.change command).steps.run workspace = .ok (.number none) next

/-- Two calls for one line of the matrix.  What the first tells is the same whichever arrays it is
given, and it writes the cells of the line from slot 1 on; with both arrays handed back, the second
leaves a workspace that has only lost its solutions. -/
structure WritesBack (workspace : Workspace K) (line : Nat → Option K) (capacity : Nat)
    (read : Option (List Int) → Option (List K) → Query K)
    (set : Int → Option (List Int) → Option (List K) → Command K) (cells : List (Nat × K)) : Prop
    extends Lists line cells where
  few : cells.length ≤ capacity
  back : ∀ numbers values, (∀ slots ∈ numbers, cells.length < slots.length) →
    (∀ slots ∈ values, cells.length < slots.length) →
    ∃ numbers' values',
      Answers workspace (read numbers values) (.cells cells.length numbers' values') ∧
        Slots.Written (cells.map fun cell => (cell.1 : Int) + 1) numbers numbers' ∧
        Slots.Written (cells.map Prod.snd) values values' ∧
        (numbers.isSome = true → values.isSome = true →
          Changes workspace (set cells.length numbers' values') workspace.discard)

section Calls

theorem answers_of_read {query : Query K} {answer : Answer K}
    (answered : query.answer workspace = .ok answer) (looked : query.read workspace = .ok answer) :
    Answers workspace query answer := by
  refine ⟨answered, ?_⟩
  rw [Call.steps, run_bind, run_inspect, looked]
  rfl

variable (wellFormed : workspace.WellFormed)

include wellFormed

theorem changes_of_run {command : Command K} (ran : command.run workspace = .ok (next, none)) :
    Changes workspace command next := by
  refine ⟨ran, ?_⟩
  rw [Call.steps, run_bind, command.run_steps wellFormed, ran]
  rfl

/-- A call that fills arrays with the cells of a line goes with one that sets the line. -/
theorem writesBack_of_calls {line : Nat → Option K} {capacity : Nat}
    {read : Option (List Int) → Option (List K) → Query K}
    {set : Int → Option (List Int) → Option (List K) → Command K} (lists : Lists line cells)
    (few : cells.length ≤ capacity)
    (told : ∀ numbers values,
      fillCells cells numbers values = .ok (writeCells cells numbers values) →
      Answers workspace (read numbers values)
        (.cells cells.length (writeCells cells numbers values).2.1
          (writeCells cells numbers values).2.2))
    (kept : ∀ numbers values,
      Slots.entries cells.length numbers = .ok (cells.map fun cell => (cell.1 : Int) + 1) →
      Slots.entries cells.length values = .ok (cells.map Prod.snd) →
      (set cells.length numbers values).run workspace = .ok (workspace.discard, none)) :
    WritesBack workspace line capacity read set cells where
  toLists := lists
  few := few
  back numbers values numbersFit valuesFit := by
    obtain ⟨numbersWritten, valuesWritten⟩ := written_writeCells numbersFit valuesFit
    refine ⟨_, _, told numbers values (fillCells_eq_ok numbersFit valuesFit), numbersWritten,
      valuesWritten, fun numbersThere valuesThere => ?_⟩
    have numbered := numbersWritten.entries_eq numbersThere
    have valued := valuesWritten.entries_eq valuesThere
    rw [List.length_map] at numbered valued
    exact changes_of_run wellFormed (kept _ _ numbered valued)

theorem writesBack_row {row : Nat} {current : WorkRow K}
    (at_row : workspace.rows[row]? = some current) :
    WritesBack workspace (workspace.cell row) workspace.columns.length
      (.rowCells (row + 1 : Nat)) (.setRow (row + 1 : Nat)) current.cells.cells := by
  obtain ⟨inside, found⟩ := List.getElem?_eq_some_iff.mp at_row
  have below := wellFormed.cells current (List.mem_of_getElem? at_row)
  refine writesBack_of_calls wellFormed (lists_row at_row) (length_cells_le below) ?_ ?_
  · intro numbers values filled
    apply answers_of_read
    · rw [Query.answer, readRow_eq at_row]
      rfl
    · rw [Query.read, rowIn, rowPosition_succ inside]
      change (entryAt workspace.rows row >>= _) = _
      rw [entryAt_of_lt inside, found, Except.ok_bind, filled]
      rfl
  · intro numbers values numbered valued
    rw [Command.run, setRow_of_entries numbered valued inside below,
      replaceRow_of_lists inside (lists_row at_row)]
    rfl

theorem writesBack_column {column : Nat} (inside : column < workspace.columns.length) :
    WritesBack workspace (fun row => workspace.cell row column) workspace.rows.length
      (.columnCells (column + 1 : Nat)) (.setColumn (column + 1 : Nat))
      (workspace.columnCells column) := by
  have below : ∀ cell ∈ workspace.columnCells column, cell.1 < workspace.rows.length :=
    fun cell member => (wellFormed.toInRange.lt_of_cell (mem_columnCells.mp member)).1
  refine writesBack_of_calls wellFormed (lists_column workspace column)
    (length_columnCells_le workspace column) ?_ ?_
  · intro numbers values filled
    apply answers_of_read
    · rw [Query.answer, readColumn_eq inside]
      rfl
    · rw [Query.read, columnPosition_succ inside]
      change (fillCells (workspace.columnCells column) numbers values >>= _) = _
      rw [filled]
      rfl
  · intro numbers values numbered valued
    rw [Command.run, setColumn_of_entries numbered valued inside below,
      replaceColumn_of_lists below (lists_column workspace column)]
    rfl

end Calls

/-- Every row and every column of a workspace is told as it stands, into the slots that are asked
for, and what is told sets it to what it is. -/
theorem Reachable.writesBack (reachable : Reachable workspace) :
    (∀ row < workspace.rows.length, ∃ cells,
        WritesBack workspace (workspace.cell row) workspace.columns.length
          (.rowCells (row + 1 : Nat)) (.setRow (row + 1 : Nat)) cells) ∧
      (∀ column < workspace.columns.length, ∃ cells,
        WritesBack workspace (fun row => workspace.cell row column) workspace.rows.length
          (.columnCells (column + 1 : Nat)) (.setColumn (column + 1 : Nat)) cells) ∧
      workspace.discard.cell = workspace.cell :=
  ⟨fun _ inside => ⟨_, writesBack_row reachable.wellFormed (List.getElem?_eq_getElem inside)⟩,
    fun _ inside => ⟨_, writesBack_column reachable.wellFormed inside⟩, rfl⟩

/-- The second of two rows goes there and back; a column is read without its row numbers. -/
theorem writesBack_pair :
    ∃ (workspace : Workspace ℚ) (inRow inColumn : List (Nat × ℚ)), Reachable workspace ∧
      workspace.rows.length = 2 ∧ workspace.columns.length = 3 ∧
      ((2, 4) ∈ inRow ∧ ∃ numbers values,
        Answers workspace (.rowCells 2 (some [7, 7, 7, 7]) (some [8, 8, 8, 8]))
            (.cells inRow.length numbers values) ∧
          Slots.Written (inRow.map fun cell => (cell.1 : Int) + 1) (some [7, 7, 7, 7]) numbers ∧
          Changes workspace (.setRow 2 inRow.length numbers values) workspace.discard) ∧
      (1, 4) ∈ inColumn ∧ ∃ numbers values,
        Answers workspace (.columnCells 3 none (some [8, 8, 8]))
            (.cells inColumn.length numbers values) ∧
          Slots.Written (inColumn.map Prod.snd) (some [8, 8, 8]) values := by
  have grown := Reachable.returned (.change (.addRows 2)) (Reachable.create (K := ℚ)) rfl
  have widened := Reachable.returned (.change (.addColumns 3)) grown rfl
  have filled := Reachable.returned
    (.change (.setRow 2 2 (some [0, 3, 1]) (some [0, 4, 3]))) widened rfl
  obtain ⟨rows, columns, -⟩ := filled.writesBack
  obtain ⟨inRow, row⟩ := rows 1 (by decide)
  obtain ⟨inColumn, column⟩ := columns 2 (by decide)
  obtain ⟨numbers, values, told, numbered, -, restored⟩ :=
    row.back (some [7, 7, 7, 7]) (some [8, 8, 8, 8])
      (fun slots given => by cases given; exact Nat.lt_succ_of_le row.few)
      (fun slots given => by cases given; exact Nat.lt_succ_of_le row.few)
  obtain ⟨missing, heights, read, -, valued, -⟩ := column.back none (some [8, 8, 8])
    (fun slots given => by cases given)
    (fun slots given => by cases given; exact Nat.lt_succ_of_le column.few)
  exact ⟨_, inRow, inColumn, filled, rfl, rfl,
    ⟨(row.mem_iff 2 4).mpr rfl, numbers, values, told, numbered, restored rfl rfl⟩,
    (column.mem_iff 1 4).mpr rfl, missing, heights, read, valued⟩

end Workspace

end LinearProgramming
