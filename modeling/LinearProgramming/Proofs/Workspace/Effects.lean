import LinearProgramming.Proofs.Stepwise
import LinearProgramming.Proofs.Workspace.Walk

/-!
# What numbered changes do

A numbered change checks all of its numbers and then makes one change of the workspace.  Its effect
is that change, with what the checks have found: the positions that are meant, and that the other
entries lie inside.  What every numbered change keeps is shown by the cases of its effect.
-/

namespace LinearProgramming

namespace Workspace

variable {K : Type} {workspace : Workspace K}

/-! ## Numbers of rows and columns -/

theorem rowPosition_eq_ok_iff {row : Int} {position : Nat} :
    workspace.rowPosition row = .ok position ↔
      (1 ≤ row ∧ row ≤ workspace.rows.length) ∧ (row - 1).toNat = position := by
  rw [rowPosition]
  split
  case isTrue inside => simp [inside, pure, Except.pure]
  case isFalse outside => simp [outside, throw, throwThe, MonadExceptOf.throw]

theorem columnPosition_eq_ok_iff {column : Int} {position : Nat} :
    workspace.columnPosition column = .ok position ↔
      (1 ≤ column ∧ column ≤ workspace.columns.length) ∧ (column - 1).toNat = position := by
  rw [columnPosition]
  split
  case isTrue inside => simp [inside, pure, Except.pure]
  case isFalse outside => simp [outside, throw, throwThe, MonadExceptOf.throw]

theorem lt_of_rowPosition {row : Int} {position : Nat}
    (found : workspace.rowPosition row = .ok position) : position < workspace.rows.length := by
  have := rowPosition_eq_ok_iff.mp found
  omega

theorem lt_of_columnPosition {column : Int} {position : Nat}
    (found : workspace.columnPosition column = .ok position) :
    position < workspace.columns.length := by
  have := columnPosition_eq_ok_iff.mp found
  omega

/-- Cells whose rows have been looked up stand in rows that there are. -/
theorem forall_lt_of_rowPositions {pairs : List (Int × K)} {cells : List (Nat × K)}
    (read : pairs.mapM (fun (row, value) => do pure (← workspace.rowPosition row, value)) =
      .ok cells) : ∀ cell ∈ cells, cell.1 < workspace.rows.length := by
  intro cell member
  obtain ⟨item, looked⟩ := Except.exists_of_mem_mapM read member
  obtain ⟨row, inside, ⟨⟩⟩ := Except.bind_eq_ok_iff.mp looked
  exact lt_of_rowPosition inside

theorem forall_lt_of_columnPositions {pairs : List (Int × K)} {cells : List (Nat × K)}
    (read : pairs.mapM (fun (column, value) => do pure (← workspace.columnPosition column, value)) =
      .ok cells) : ∀ cell ∈ cells, cell.1 < workspace.columns.length := by
  intro cell member
  obtain ⟨item, looked⟩ := Except.exists_of_mem_mapM read member
  obtain ⟨column, inside, ⟨⟩⟩ := Except.bind_eq_ok_iff.mp looked
  exact lt_of_columnPosition inside

theorem forall_lt_of_positions {triplets : List (Int × Int × K)} {entries : List (Nat × Nat × K)}
    (read : triplets.mapM (fun (row, column, value) => do
      pure (← workspace.rowPosition row, ← workspace.columnPosition column, value)) =
        .ok entries) :
    ∀ entry ∈ entries,
      entry.1 < workspace.rows.length ∧ entry.2.1 < workspace.columns.length := by
  intro entry member
  obtain ⟨item, looked⟩ := Except.exists_of_mem_mapM read member
  obtain ⟨row, rowInside, looked⟩ := Except.bind_eq_ok_iff.mp looked
  obtain ⟨column, columnInside, ⟨⟩⟩ := Except.bind_eq_ok_iff.mp looked
  exact ⟨lt_of_rowPosition rowInside, lt_of_columnPosition columnInside⟩

end Workspace

/-! ## Effects -/

namespace Command

open Workspace

variable {K : Type} [Scalar K] {workspace next : Workspace K}

/-- The workspace that a numbered change leads to, when its numbers are in order.  A call to add
more rows or columns than there is room for changes nothing. -/
inductive Effect (workspace : Workspace K) : Command K → Workspace K → Prop
  | setName {name} : Effect workspace (.setName name) (workspace.setName name)
  | setRowName {row name position} (found : workspace.rowPosition row = .ok position) :
      Effect workspace (.setRowName row name)
        (workspace.modifyRow position fun current => { current with name := storedName name })
  | setColumnName {column name position}
      (found : workspace.columnPosition column = .ok position) :
      Effect workspace (.setColumnName column name)
        (workspace.modifyColumn position fun current => { current with name := storedName name })
  | setDirection {number direction} (known : Coded.ofCode? number = some direction) :
      Effect workspace (.setDirection number) ({ workspace with direction } : Workspace K).discard
  | setConstant {value} :
      Effect workspace (.setObjective 0 value)
        ({ workspace with constant := value } : Workspace K).discard
  | setCost {column value position} (found : workspace.columnPosition column = .ok position) :
      Effect workspace (.setObjective column value)
        (workspace.modifyColumn position fun current => { current with cost := value }).discard
  | addRows {count} (room : hasRoom workspace.rows.length count = true) :
      Effect workspace (.addRows count) (workspace.appendRows count.toNat)
  | addNoRows {count} (full : hasRoom workspace.rows.length count = false) :
      Effect workspace (.addRows count) workspace
  | addColumns {count} (room : hasRoom workspace.columns.length count = true) :
      Effect workspace (.addColumns count) (workspace.appendColumns count.toNat)
  | addNoColumns {count} (full : hasRoom workspace.columns.length count = false) :
      Effect workspace (.addColumns count) workspace
  | setRowBound {row type least greatest position kind}
      (found : workspace.rowPosition row = .ok position) (known : boundKind type = .ok kind) :
      Effect workspace (.setRowBound row type least greatest)
        (workspace.modifyRow position fun current =>
          { current with bound := .ofKind kind least greatest }).discard
  | setColumnBound {column type least greatest position kind}
      (found : workspace.columnPosition column = .ok position)
      (known : boundKind type = .ok kind) :
      Effect workspace (.setColumnBound column type least greatest)
        (workspace.modifyColumn position fun current =>
          { current with bound := .ofKind kind least greatest }).discard
  | setColumnKind {column kind position change}
      (found : workspace.columnPosition column = .ok position)
      (known : kindChange? kind = some change) :
      Effect workspace (.setColumnKind column kind)
        (workspace.modifyColumn position change).discard
  | setRow {row length columns values position cells}
      (found : workspace.rowPosition row = .ok position)
      (inside : ∀ cell ∈ cells, cell.1 < workspace.columns.length) :
      Effect workspace (.setRow row length columns values) (workspace.replaceRow position cells)
  | setColumn {column length rows values position cells}
      (found : workspace.columnPosition column = .ok position)
      (inside : ∀ cell ∈ cells, cell.1 < workspace.rows.length) :
      Effect workspace (.setColumn column length rows values)
        (workspace.replaceColumn position cells)
  | loadMatrix {length rows columns values entries}
      (inside : ∀ entry ∈ entries,
        entry.1 < workspace.rows.length ∧ entry.2.1 < workspace.columns.length) :
      Effect workspace (.loadMatrix length rows columns values) (workspace.replaceMatrix entries)
  | deleteRows {length rows doomed} (inside : ∀ row ∈ doomed, row < workspace.rows.length)
      (ascending : doomed.Pairwise (· < ·)) :
      Effect workspace (.deleteRows length rows) (workspace.removeRows doomed)
  | deleteColumns {length columns doomed}
      (inside : ∀ column ∈ doomed, column < workspace.columns.length)
      (ascending : doomed.Pairwise (· < ·)) :
      Effect workspace (.deleteColumns length columns) (workspace.removeColumns doomed)

section Calls

variable {row column length : Int} {name : Option String} {rows columns : Option (List Int)}
  {values : Option (List K)} {least greatest : K}

theorem effect_of_setRowName (set : workspace.setRowName row name = .ok next) :
    (setRowName row name).Effect workspace next := by
  obtain ⟨position, found, ⟨⟩⟩ := Except.bind_eq_ok_iff.mp set
  exact .setRowName found

theorem effect_of_setColumnName (set : workspace.setColumnName column name = .ok next) :
    (setColumnName column name).Effect workspace next := by
  obtain ⟨position, found, ⟨⟩⟩ := Except.bind_eq_ok_iff.mp set
  exact .setColumnName found

theorem effect_of_setDirection {direction : Int}
    (set : workspace.setDirection direction = .ok next) :
    (setDirection direction).Effect workspace next := by
  rw [Workspace.setDirection] at set
  split at set
  · cases set
  · rename_i known
    cases set
    exact .setDirection known

theorem effect_of_setObjective {value : K} (set : workspace.setObjective column value = .ok next) :
    (setObjective column value).Effect workspace next := by
  rw [Workspace.setObjective] at set
  split at set
  case isTrue zero =>
    subst zero
    cases set
    exact .setConstant
  case isFalse =>
    obtain ⟨position, found, ⟨⟩⟩ := Except.bind_eq_ok_iff.mp set
    exact .setCost found

theorem effect_addRows (workspace : Workspace K) (count : Int) :
    (addRows count).Effect workspace (workspace.addRows count).1 := by
  rw [Workspace.addRows]
  split
  case isTrue room => exact .addRows room
  case isFalse full => exact .addNoRows (Bool.eq_false_iff.mpr full)

theorem effect_addColumns (workspace : Workspace K) (count : Int) :
    (addColumns count).Effect workspace (workspace.addColumns count).1 := by
  rw [Workspace.addColumns]
  split
  case isTrue room => exact .addColumns room
  case isFalse full => exact .addNoColumns (Bool.eq_false_iff.mpr full)

theorem effect_of_setRowBound {type : Int}
    (set : workspace.setRowBound row type least greatest = .ok next) :
    (setRowBound row type least greatest).Effect workspace next := by
  simp only [Workspace.setRowBound, Except.bind_eq_ok_iff] at set
  obtain ⟨position, found, kind, known, ⟨⟩⟩ := set
  exact .setRowBound found known

theorem effect_of_setColumnBound {type : Int}
    (set : workspace.setColumnBound column type least greatest = .ok next) :
    (setColumnBound column type least greatest).Effect workspace next := by
  simp only [Workspace.setColumnBound, Except.bind_eq_ok_iff] at set
  obtain ⟨position, found, kind, known, ⟨⟩⟩ := set
  exact .setColumnBound found known

theorem effect_of_setColumnKind {kind : Int}
    (set : workspace.setColumnKind column kind = .ok next) :
    (setColumnKind column kind).Effect workspace next := by
  obtain ⟨position, found, set⟩ := Except.bind_eq_ok_iff.mp set
  split at set
  · cases set
  · rename_i known
    cases set
    exact .setColumnKind found known

theorem effect_of_setRow (set : workspace.setRow row length columns values = .ok next) :
    (setRow row length columns values).Effect workspace next := by
  simp only [Workspace.setRow, Except.bind_eq_ok_iff] at set
  obtain ⟨position, found, _, -, _, -, _, -, cells, read, ⟨⟩⟩ := set
  exact .setRow found (forall_lt_of_columnPositions read)

theorem effect_of_setColumn (set : workspace.setColumn column length rows values = .ok next) :
    (setColumn column length rows values).Effect workspace next := by
  simp only [Workspace.setColumn, Except.bind_eq_ok_iff] at set
  obtain ⟨position, found, _, -, _, -, _, -, cells, read, ⟨⟩⟩ := set
  exact .setColumn found (forall_lt_of_rowPositions read)

theorem effect_of_loadMatrix
    (set : workspace.loadMatrix length rows columns values = .ok next) :
    (loadMatrix length rows columns values).Effect workspace next := by
  simp only [Workspace.loadMatrix, Except.bind_eq_ok_iff] at set
  obtain ⟨_, -, _, -, _, -, _, -, entries, read, ⟨⟩⟩ := set
  exact .loadMatrix (forall_lt_of_positions read)

theorem effect_of_deleteRows (deleted : workspace.deleteRows length rows = .ok next) :
    (deleteRows length rows).Effect workspace next := by
  simp only [Workspace.deleteRows, Except.bind_eq_ok_iff] at deleted
  obtain ⟨_, -, _, -, positions, read, _, once, ⟨⟩⟩ := deleted
  obtain ⟨single, rfl⟩ := distinct_eq_ok_iff.mp once
  refine .deleteRows (fun row member => ?_) (ascending_inOrder single)
  obtain ⟨item, inside⟩ :=
    Except.exists_of_mem_mapM read ((inOrder_perm positions).mem_iff.mp member)
  exact lt_of_rowPosition inside

theorem effect_of_deleteColumns (deleted : workspace.deleteColumns length columns = .ok next) :
    (deleteColumns length columns).Effect workspace next := by
  simp only [Workspace.deleteColumns, Except.bind_eq_ok_iff] at deleted
  obtain ⟨_, -, _, -, positions, read, _, once, ⟨⟩⟩ := deleted
  obtain ⟨single, rfl⟩ := distinct_eq_ok_iff.mp once
  refine .deleteColumns (fun column member => ?_) (ascending_inOrder single)
  obtain ⟨item, inside⟩ :=
    Except.exists_of_mem_mapM read ((inOrder_perm positions).mem_iff.mp member)
  exact lt_of_columnPosition inside

end Calls

/-- A numbered change that is made has its effect. -/
theorem effect_of_run {command : Command K} {number : Option Int}
    (ran : command.run workspace = .ok (next, number)) : command.Effect workspace next := by
  cases command
  case setName =>
    cases ran
    exact .setName
  case addRows =>
    cases ran
    exact effect_addRows _ _
  case addColumns =>
    cases ran
    exact effect_addColumns _ _
  -- All others hand on what their checks find.
  all_goals obtain ⟨_, made, ⟨⟩⟩ := Except.bind_eq_ok_iff.mp ran
  case setRowName => exact effect_of_setRowName made
  case setColumnName => exact effect_of_setColumnName made
  case setDirection => exact effect_of_setDirection made
  case setObjective => exact effect_of_setObjective made
  case setRowBound => exact effect_of_setRowBound made
  case setColumnBound => exact effect_of_setColumnBound made
  case setColumnKind => exact effect_of_setColumnKind made
  case setRow => exact effect_of_setRow made
  case setColumn => exact effect_of_setColumn made
  case loadMatrix => exact effect_of_loadMatrix made
  case deleteRows => exact effect_of_deleteRows made
  case deleteColumns => exact effect_of_deleteColumns made

end Command

end LinearProgramming
