import LinearProgramming.Proofs.Workspace.Solved
import LinearProgramming.Workspace.Query

/-!
# Numbered calls in steps

What a numbered call does to a workspace, write by write.  A call halts where it is misused
and wherever it would leave an array, and keeps what it has written until then.  On a
well-formed workspace no call leaves an array, and a call that is misused has written
nothing, so every call does what its definition says.
-/

namespace LinearProgramming

inductive Halt where
  | misuse (misuse : Misuse)
  | outOfBounds (position length : Nat)
  /-- The search is not over after the number of steps that it is given. -/
  | unfinished
  deriving DecidableEq, Repr

variable {K : Type} [Scalar K]

namespace Workspace

open Stepwise

def checked {A : Type} (test : Workspace K → Except Misuse A) : Stepwise Halt (Workspace K) A :=
  inspect fun workspace => (test workspace).mapError .misuse

def inBounds (position length : Nat) : Except Halt Unit :=
  if position < length then pure () else throw (.outOfBounds position length)

def changeRow (position : Nat) (update : WorkRow K → WorkRow K) :
    Stepwise Halt (Workspace K) Unit := do
  inspect fun workspace => inBounds position workspace.rows.length
  change fun workspace => workspace.modifyRow position update

def changeColumn (position : Nat) (update : WorkColumn K → WorkColumn K) :
    Stepwise Halt (Workspace K) Unit := do
  inspect fun workspace => inBounds position workspace.columns.length
  change fun workspace => workspace.modifyColumn position update

def writeObjective (column : Int) (value : K) : Stepwise Halt (Workspace K) Unit :=
  if column = 0 then change fun workspace => { workspace with constant := value }
  else do
    let position ← checked (·.columnPosition column)
    changeColumn position fun current => { current with cost := value }

def enterCell (entry : Nat × Nat × K) : Stepwise Halt (Workspace K) Unit :=
  changeRow entry.1 fun current =>
    { current with cells := current.cells.insert entry.2.1 entry.2.2 }

def renumberRow (places : List (Option Nat)) (position : Nat) :
    Stepwise Halt (Workspace K) Unit := do
  inspect fun workspace =>
    (workspace.rows.getD position .new).cells.cells.forM fun cell => inBounds cell.1 places.length
  changeRow position (.renumber places)

def decodeDirection (direction : Int) : Except Misuse Direction :=
  match (Coded.ofCode? direction : Option Direction) with
  | none => throw (.invalidDirection direction)
  | some direction => pure direction

def decodeKind (column kind : Int) : Except Misuse (WorkColumn K → WorkColumn K) :=
  match kindChange? kind with
  | none => throw (.invalidColumnKind column kind)
  | some update => pure update

end Workspace

namespace Command

open Stepwise Workspace

@[simp]
def steps : Command K → Stepwise Halt (Workspace K) (Option Int)
  | setName name => do
      change (·.setName name)
      pure none
  | setRowName row name => do
      let position ← checked (·.rowPosition row)
      changeRow position fun current => { current with name := storedName name }
      pure none
  | setColumnName column name => do
      let position ← checked (·.columnPosition column)
      changeColumn position fun current => { current with name := storedName name }
      pure none
  | setDirection direction => do
      let direction ← checked fun _ => decodeDirection direction
      change fun workspace => { workspace with direction }
      change discard
      pure none
  | setObjective column value => do
      writeObjective column value
      change discard
      pure none
  | addRows count => do
      let size ← observe fun workspace => workspace.rows.length
      if hasRoom size count then
        change fun workspace =>
          { workspace with rows := workspace.rows ++ List.replicate count.toNat .new }
        change discard
        pure (some (size + 1))
      else pure (some 0)
  | addColumns count => do
      let size ← observe fun workspace => workspace.columns.length
      if hasRoom size count then
        change fun workspace =>
          { workspace with columns := workspace.columns ++ List.replicate count.toNat .new }
        change discard
        pure (some (size + 1))
      else pure (some 0)
  | setRowBound row type least greatest => do
      let position ← checked (·.rowPosition row)
      let kind ← checked fun _ => boundKind type
      changeRow position fun current =>
        { current with bound := .ofKind kind least greatest }
      change discard
      pure none
  | setColumnBound column type least greatest => do
      let position ← checked (·.columnPosition column)
      let kind ← checked fun _ => boundKind type
      changeColumn position fun current =>
        { current with bound := .ofKind kind least greatest }
      change discard
      pure none
  | setColumnKind column kind => do
      let position ← checked (·.columnPosition column)
      let update ← checked fun _ => decodeKind column kind
      changeColumn position update
      change discard
      pure none
  | setRow row length columns values => do
      let position ← checked (·.rowPosition row)
      let count ← checked fun _ => Slots.count length
      let columns ← checked fun _ => Slots.read count columns
      let values ← checked fun _ => Slots.read count values
      let cells ← checked fun workspace => (List.zip columns values).mapM fun (column, value) => do
        pure (← workspace.columnPosition column, value)
      changeRow position fun current => { current with cells := .empty }
      (cells.map fun cell => (position, cell)).forM enterCell
      change discard
      pure none
  | setColumn column length rows values => do
      let position ← checked (·.columnPosition column)
      let count ← checked fun _ => Slots.count length
      let rows ← checked fun _ => Slots.read count rows
      let values ← checked fun _ => Slots.read count values
      let cells ← checked fun workspace => (List.zip rows values).mapM fun (row, value) => do
        pure (← workspace.rowPosition row, value)
      change fun workspace =>
        { workspace with
          rows := workspace.rows.map fun row => { row with cells := row.cells.erase position } }
      (cells.map fun cell => (cell.1, position, cell.2)).forM enterCell
      change discard
      pure none
  | loadMatrix length rows columns values => do
      let count ← checked fun _ => Slots.count length
      let rows ← checked fun _ => Slots.read count rows
      let columns ← checked fun _ => Slots.read count columns
      let values ← checked fun _ => Slots.read count values
      let entries ← checked fun workspace =>
        (List.zip rows (List.zip columns values)).mapM fun (row, column, value) => do
          pure (← workspace.rowPosition row, ← workspace.columnPosition column, value)
      change fun workspace =>
        { workspace with rows := workspace.rows.map fun row => { row with cells := .empty } }
      entries.forM enterCell
      change discard
      pure none
  | deleteRows length rows => do
      let count ← checked fun _ => Slots.count length
      let rows ← checked fun _ => Slots.read count rows
      let positions ← checked fun workspace => rows.mapM workspace.rowPosition
      let doomed ← checked fun _ => distinct positions
      change fun workspace => { workspace with rows := retainFrom 0 doomed workspace.rows }
      change discard
      pure none
  | deleteColumns length columns => do
      let count ← checked fun _ => Slots.count length
      let columns ← checked fun _ => Slots.read count columns
      let positions ← checked fun workspace => columns.mapM workspace.columnPosition
      let doomed ← checked fun _ => distinct positions
      let places ← observe fun workspace => placesFrom 0 0 doomed workspace.columns.length
      change fun workspace => { workspace with columns := retainPlaced places workspace.columns }
      let rows ← observe fun workspace => workspace.rows.length
      (List.range rows).forM (renumberRow places)
      change discard
      pure none

end Command

namespace Workspace

open Stepwise

variable {workspace : Workspace K}

section Writes

omit [Scalar K]

theorem run_checked_bind {A B : Type} {test : Workspace K → Except Misuse A}
    {next : A → Stepwise Halt (Workspace K) B} {rest : A → Except Misuse (Workspace K × B)}
    (ends : ∀ value, test workspace = .ok value →
      (next value).run workspace = whole workspace ((rest value).mapError .misuse)) :
    (checked test >>= next).run workspace =
      whole workspace ((test workspace >>= rest).mapError .misuse) := by
  rw [Except.mapError_bind]
  apply run_inspect_bind
  exact fun value found => ends value (Except.mapError_eq_ok_iff.mp found)

theorem inBounds_of_lt {position length : Nat} (inside : position < length) :
    inBounds position length = .ok () :=
  if_pos inside

theorem forM_inBounds {cells : List (Nat × K)} {length : Nat}
    (inside : ∀ cell ∈ cells, cell.1 < length) :
    (cells.forM fun cell => inBounds cell.1 length) = .ok () := by
  induction cells with
  | nil => rfl
  | cons cell cells inductionHypothesis =>
      obtain ⟨first, rest⟩ := List.forall_mem_cons.mp inside
      change (inBounds cell.1 length >>= fun _ => _) = _
      rw [inBounds_of_lt first]
      exact inductionHypothesis rest

theorem run_changeRow {position : Nat} (inside : position < workspace.rows.length)
    (update : WorkRow K → WorkRow K) :
    (changeRow position update).run workspace =
      .ok () (workspace.modifyRow position update) := by
  rw [changeRow, run_bind, run_inspect, inBounds_of_lt inside]
  rfl

theorem run_changeColumn {position : Nat} (inside : position < workspace.columns.length)
    (update : WorkColumn K → WorkColumn K) :
    (changeColumn position update).run workspace =
      .ok () (workspace.modifyColumn position update) := by
  rw [changeColumn, run_bind, run_inspect, inBounds_of_lt inside]
  rfl

theorem run_enterCells {entries : List (Nat × Nat × K)}
    (inside : ∀ entry ∈ entries, entry.1 < workspace.rows.length) :
    (entries.forM enterCell).run workspace =
      .ok () (entries.foldl (fun current entry =>
        current.insertCell entry.1 entry.2.1 entry.2.2) workspace) := by
  refine run_forM (fun current => current.rows.length = workspace.rows.length) _ ?_ ?_ rfl
  · intro entry member current same
    exact run_changeRow (same ▸ inside entry member) _
  · intro entry member current same
    simpa [insertCell, modifyRow] using same

theorem modifyRow_modifyRow (workspace : Workspace K) (position : Nat)
    (first second : WorkRow K → WorkRow K) :
    (workspace.modifyRow position first).modifyRow position second =
      workspace.modifyRow position fun row => second (first row) := by
  simp [modifyRow, List.modify_modify_eq, Function.comp_def]

theorem foldl_insertCell_row (workspace : Workspace K) (position : Nat)
    (start : WorkRow K → WorkRow K) (cells : List (Nat × K)) :
    cells.foldl (fun current cell => current.insertCell position cell.1 cell.2)
        (workspace.modifyRow position start) =
      workspace.modifyRow position fun row =>
        { start row with
          cells := cells.foldl (fun row cell => row.insert cell.1 cell.2) (start row).cells } := by
  induction cells generalizing start with
  | nil => rfl
  | cons cell cells inductionHypothesis =>
      rw [List.foldl_cons, insertCell, modifyRow_modifyRow, inductionHypothesis]
      rfl

/-- The rows that are renumbered one after the other are the renumbered rows. -/
theorem foldl_modify_range {A : Type} (entries : List A) (update : A → A) :
    (List.range entries.length).foldl (fun entries position => entries.modify position update)
      entries = entries.map update := by
  -- After `count` rows the first `count` of them are renumbered and the others are not.
  have upTo (count : Nat) (position : Nat) :
      ((List.range count).foldl (fun entries position => entries.modify position update)
        entries)[position]? =
        (entries[position]?).map fun entry => if position < count then update entry else entry := by
    induction count with
    | zero => simp
    | succ count inductionHypothesis =>
        rw [List.range_succ, List.foldl_append, List.foldl_cons, List.foldl_nil,
          List.getElem?_modify, inductionHypothesis]
        cases entries[position]? with
        | none => rfl
        | some entry =>
            simp only [Option.map_some, Option.map_eq_map]
            grind
  apply List.ext_getElem?
  intro position
  rw [upTo, List.getElem?_map]
  by_cases inside : position < entries.length
  · simp [inside]
  · simp [List.getElem?_eq_none (Nat.le_of_not_lt inside)]

theorem foldl_modifyRow (workspace : Workspace K) (update : WorkRow K → WorkRow K)
    (positions : List Nat) :
    positions.foldl (fun current position => current.modifyRow position update) workspace =
      { workspace with
        rows := positions.foldl (fun rows position => rows.modify position update)
          workspace.rows } := by
  induction positions generalizing workspace with
  | nil => rfl
  | cons position positions inductionHypothesis =>
      rw [List.foldl_cons, inductionHypothesis]
      rfl

section Places

variable {places : List (Option Nat)}
  (below : ∀ row ∈ workspace.rows, row.cells.Below places.length)

include below

theorem run_renumberRow {position : Nat} (inside : position < workspace.rows.length) :
    (renumberRow places position).run workspace =
      .ok () (workspace.modifyRow position (.renumber places)) := by
  have row : workspace.rows.getD position .new ∈ workspace.rows := by
    rw [List.getD_eq_getElem?_getD, List.getElem?_eq_getElem inside]
    exact List.getElem_mem inside
  rw [renumberRow, run_bind, run_inspect, forM_inBounds (below _ row)]
  exact run_changeRow inside _

theorem run_renumberRows
    (back : ∀ column place : Nat, places[column]? = some (some place) → place ≤ column) :
    ((List.range workspace.rows.length).forM (renumberRow places)).run workspace =
      .ok () { workspace with rows := workspace.rows.map (.renumber places) } := by
  rw [run_forM
    (fun current => current.rows.length = workspace.rows.length ∧
      ∀ row ∈ current.rows, row.cells.Below places.length)
    (fun current position => current.modifyRow position (.renumber places)) ?_ ?_
    ⟨rfl, below⟩]
  · rw [foldl_modifyRow, foldl_modify_range]
  · rintro position member current ⟨same, fits⟩
    exact run_renumberRow fits (same ▸ List.mem_range.mp member)
  · rintro position member current ⟨same, fits⟩
    -- New places are no greater than the old ones, so rows that are done still fit the table.
    refine ⟨by simpa [modifyRow] using same, ?_⟩
    intro row inside
    rcases mem_modify inside with old | ⟨old, before, rfl⟩
    · exact fits row old
    · apply SparseRow.renumber_below
      intro cell stored column found
      rw [List.getD_eq_getElem?_getD, Option.getD_eq_iff] at found
      have placed := back cell.1 column (by simpa using found)
      exact Nat.lt_of_le_of_lt placed (fits old before cell stored)

end Places

end Writes

theorem setDirection_eq (workspace : Workspace K) (direction : Int) :
    workspace.setDirection direction =
      decodeDirection direction >>= fun direction =>
        pure ({ workspace with direction } : Workspace K).discard := by
  rw [setDirection, decodeDirection]
  cases (Coded.ofCode? direction : Option Direction) <;> rfl

theorem setColumnKind_eq (workspace : Workspace K) (column kind : Int) :
    workspace.setColumnKind column kind =
      workspace.columnPosition column >>= fun position =>
        decodeKind column kind >>= fun update =>
          pure (workspace.modifyColumn position update).discard := by
  rw [setColumnKind]
  congr
  funext position
  rw [decodeKind]
  cases (kindChange? kind : Option (WorkColumn K → WorkColumn K)) <;> rfl

end Workspace

namespace Command

open Stepwise Workspace

variable {workspace : Workspace K}

def RunsWhole (workspace : Workspace K) (command : Command K) : Prop :=
  command.steps.run workspace = whole workspace ((command.run workspace).mapError .misuse)

section Whole

variable {row column length count direction type kind : Int} {name : Option String}
  {value least greatest : K} {rows columns : Option (List Int)} {values : Option (List K)}

theorem runsWhole_setRowName : RunsWhole workspace (.setRowName row name) := by
  rw [RunsWhole, steps, run, Workspace.setRowName, bind_assoc]
  apply run_checked_bind
  intro position found
  rw [run_bind_of_ok (run_changeRow (lt_of_rowPosition found) _)]
  rfl

theorem runsWhole_setColumnName : RunsWhole workspace (.setColumnName column name) := by
  rw [RunsWhole, steps, run, Workspace.setColumnName, bind_assoc]
  apply run_checked_bind
  intro position found
  rw [run_bind_of_ok (run_changeColumn (lt_of_columnPosition found) _)]
  rfl

theorem runsWhole_setDirection : RunsWhole workspace (.setDirection direction) := by
  rw [RunsWhole, steps, run, setDirection_eq, bind_assoc]
  apply run_checked_bind
  intro direction _
  rfl

theorem runsWhole_setObjective : RunsWhole workspace (.setObjective column value) := by
  rw [RunsWhole, steps, run, Workspace.setObjective, writeObjective]
  by_cases constant : column = 0
  · rw [if_pos constant, if_pos constant]
    rfl
  · rw [if_neg constant, if_neg constant, bind_assoc, bind_assoc]
    apply run_checked_bind
    intro position found
    rw [run_bind_of_ok (run_changeColumn (lt_of_columnPosition found) _)]
    rfl

theorem runsWhole_addRows : RunsWhole workspace (.addRows count) := by
  rw [RunsWhole, steps, run, run_observe_bind, Workspace.addRows]
  by_cases room : hasRoom workspace.rows.length count
  · rw [if_pos room, if_pos room]
    rfl
  · rw [if_neg room, if_neg room]
    rfl

theorem runsWhole_addColumns : RunsWhole workspace (.addColumns count) := by
  rw [RunsWhole, steps, run, run_observe_bind, Workspace.addColumns]
  by_cases room : hasRoom workspace.columns.length count
  · rw [if_pos room, if_pos room]
    rfl
  · rw [if_neg room, if_neg room]
    rfl

theorem runsWhole_setRowBound : RunsWhole workspace (.setRowBound row type least greatest) := by
  simp only [RunsWhole, steps, run, Workspace.setRowBound, bind_assoc]
  apply run_checked_bind
  intro position found
  apply run_checked_bind
  intro kind _
  rw [run_bind_of_ok (run_changeRow (lt_of_rowPosition found) _)]
  rfl

theorem runsWhole_setColumnBound :
    RunsWhole workspace (.setColumnBound column type least greatest) := by
  simp only [RunsWhole, steps, run, Workspace.setColumnBound, bind_assoc]
  apply run_checked_bind
  intro position found
  apply run_checked_bind
  intro kind _
  rw [run_bind_of_ok (run_changeColumn (lt_of_columnPosition found) _)]
  rfl

theorem runsWhole_setColumnKind : RunsWhole workspace (.setColumnKind column kind) := by
  simp only [RunsWhole, steps, run, setColumnKind_eq, bind_assoc]
  apply run_checked_bind
  intro position found
  apply run_checked_bind
  intro update _
  rw [run_bind_of_ok (run_changeColumn (lt_of_columnPosition found) _)]
  rfl

theorem runsWhole_setRow : RunsWhole workspace (.setRow row length columns values) := by
  simp only [RunsWhole, steps, run, Workspace.setRow, bind_assoc]
  apply run_checked_bind
  intro position found
  apply run_checked_bind
  intro count _
  apply run_checked_bind
  intro columns _
  apply run_checked_bind
  intro values _
  apply run_checked_bind
  intro cells _
  have inside := lt_of_rowPosition found
  rw [run_bind_of_ok (run_changeRow inside _), run_bind_of_ok (run_enterCells _),
    List.foldl_map, foldl_insertCell_row]
  · rfl
  · intro entry member
    obtain ⟨cell, -, rfl⟩ := List.mem_map.mp member
    simpa [modifyRow] using inside

theorem runsWhole_setColumn : RunsWhole workspace (.setColumn column length rows values) := by
  simp only [RunsWhole, steps, run, Workspace.setColumn, bind_assoc]
  apply run_checked_bind
  intro position _
  apply run_checked_bind
  intro count _
  apply run_checked_bind
  intro rows _
  apply run_checked_bind
  intro values _
  apply run_checked_bind
  intro cells looked
  rw [run_change_bind, run_bind_of_ok (run_enterCells _), List.foldl_map]
  · rfl
  · intro entry member
    obtain ⟨cell, inside, rfl⟩ := List.mem_map.mp member
    simpa using forall_lt_of_rowPositions looked cell inside

theorem runsWhole_loadMatrix : RunsWhole workspace (.loadMatrix length rows columns values) := by
  simp only [RunsWhole, steps, run, Workspace.loadMatrix, bind_assoc]
  apply run_checked_bind
  intro count _
  apply run_checked_bind
  intro rows _
  apply run_checked_bind
  intro columns _
  apply run_checked_bind
  intro values _
  apply run_checked_bind
  intro entries looked
  rw [run_change_bind, run_bind_of_ok (run_enterCells _)]
  · rfl
  · intro entry member
    simpa using (forall_lt_of_positions looked entry member).1

theorem runsWhole_deleteRows : RunsWhole workspace (.deleteRows length rows) := by
  simp only [RunsWhole, steps, run, Workspace.deleteRows, bind_assoc]
  apply run_checked_bind
  intro count _
  apply run_checked_bind
  intro rows _
  apply run_checked_bind
  intro positions _
  apply run_checked_bind
  intro positions _
  rfl

theorem runsWhole_deleteColumns (wellFormed : workspace.WellFormed) :
    RunsWhole workspace (.deleteColumns length columns) := by
  simp only [RunsWhole, steps, run, Workspace.deleteColumns, bind_assoc]
  apply run_checked_bind
  intro count _
  apply run_checked_bind
  intro columns _
  apply run_checked_bind
  intro positions _
  apply run_checked_bind
  intro positions _
  rw [run_observe_bind, run_change_bind, run_observe_bind,
    run_bind_of_ok (run_renumberRows _ _)]
  · rfl
  · rw [length_placesFrom]
    exact wellFormed.cells
  · intro column place found
    simpa using le_of_placesFrom found

end Whole

/-- On a well-formed workspace a numbered change does what its definition says, and a call
that is misused leaves the workspace as it was. -/
theorem run_steps (wellFormed : workspace.WellFormed) (command : Command K) :
    command.steps.run workspace = whole workspace ((command.run workspace).mapError .misuse) := by
  cases command with
  | setName => rfl
  | setRowName => exact runsWhole_setRowName
  | setColumnName => exact runsWhole_setColumnName
  | setDirection => exact runsWhole_setDirection
  | setObjective => exact runsWhole_setObjective
  | addRows => exact runsWhole_addRows
  | addColumns => exact runsWhole_addColumns
  | setRowBound => exact runsWhole_setRowBound
  | setColumnBound => exact runsWhole_setColumnBound
  | setColumnKind => exact runsWhole_setColumnKind
  | setRow => exact runsWhole_setRow
  | setColumn => exact runsWhole_setColumn
  | loadMatrix => exact runsWhole_loadMatrix
  | deleteRows => exact runsWhole_deleteRows
  | deleteColumns => exact runsWhole_deleteColumns wellFormed

end Command

end LinearProgramming
