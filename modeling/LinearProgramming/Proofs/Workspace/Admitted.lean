import Mathlib.Data.List.Nodup
import LinearProgramming.Proofs.Workspace.WellFormed

/-!
# Numbered changes that go through

A numbered change is misused only if one of its numbers names no row or no column, an array is
missing, a code stands for nothing, or a deletion lists a number twice.  Without these it goes
through.
-/

namespace LinearProgramming

namespace Except

theorem mapM_eq_map {E A B : Type} {test : A → Except E B} {items : List A} (value : A → B)
    (found : ∀ item ∈ items, test item = .ok (value item)) :
    items.mapM test = .ok (items.map value) := by
  induction items with
  | nil => rfl
  | cons item items inductionHypothesis =>
      obtain ⟨first, rest⟩ := List.forall_mem_cons.mp found
      rw [List.mapM_cons, first, inductionHypothesis rest]
      rfl

end Except

namespace Slots

theorem count_natCast (length : Nat) : count length = .ok length := by
  simp [count, pure, Except.pure]

theorem read_ofEntries {A : Type} (unused : A) (entries : List A) (length : Nat) :
    read length (some (ofEntries unused entries)) = .ok (entries.take length) := by
  rw [read]
  split
  case isTrue none => simp [none, pure, Except.pure]
  case isFalse => rfl

end Slots

namespace Workspace

variable {K : Type}

/-! ## Positions -/

def HasRow (workspace : Workspace K) (row : Int) : Prop :=
  1 ≤ row ∧ row ≤ workspace.rows.length

def HasColumn (workspace : Workspace K) (column : Int) : Prop :=
  1 ≤ column ∧ column ≤ workspace.columns.length

/-- The position, counted from zero, under which a number counted from one is stored. -/
def position (number : Int) : Nat := (number - 1).toNat

variable {workspace : Workspace K} {row column : Int}

theorem HasRow.rowPosition (inside : workspace.HasRow row) :
    workspace.rowPosition row = .ok (position row) :=
  rowPosition_eq_ok_iff.mpr ⟨inside, rfl⟩

theorem HasColumn.columnPosition (inside : workspace.HasColumn column) :
    workspace.columnPosition column = .ok (position column) :=
  columnPosition_eq_ok_iff.mpr ⟨inside, rfl⟩

theorem boundKind_code (kind : BoundKind) : boundKind (Coded.code kind) = .ok kind := by
  cases kind <;> rfl

theorem nodup_positions {numbers : List Int} (positive : ∀ number ∈ numbers, 1 ≤ number)
    (once : numbers.Nodup) : (numbers.map position).Nodup := by
  apply once.map_on
  intro left leftMember right rightMember same
  have leftPositive := positive left leftMember
  have rightPositive := positive right rightMember
  rw [position, position] at same
  omega

/-! ## Changes -/

theorem HasRow.setRowName (inside : workspace.HasRow row) (name : Option String) :
    ∃ next, workspace.setRowName row name = .ok next :=
  ⟨_, by rw [Workspace.setRowName, inside.rowPosition]; rfl⟩

theorem HasColumn.setColumnName (inside : workspace.HasColumn column) (name : Option String) :
    ∃ next, workspace.setColumnName column name = .ok next :=
  ⟨_, by rw [Workspace.setColumnName, inside.columnPosition]; rfl⟩

section Data

variable [Scalar K]

theorem exists_setDirection (workspace : Workspace K) (direction : Direction) :
    ∃ next, workspace.setDirection (Coded.code direction) = .ok next := by
  cases direction <;> exact ⟨_, rfl⟩

theorem exists_setConstant (workspace : Workspace K) (value : K) :
    ∃ next, workspace.setObjective 0 value = .ok next :=
  ⟨_, if_pos rfl⟩

theorem HasColumn.setObjective (inside : workspace.HasColumn column) (value : K) :
    ∃ next, workspace.setObjective column value = .ok next := by
  have positive : column ≠ 0 := by
    have := inside.1
    omega
  exact ⟨_, by rw [Workspace.setObjective, if_neg positive, inside.columnPosition]; rfl⟩

theorem HasRow.setRowBound (inside : workspace.HasRow row) (kind : BoundKind)
    (least greatest : K) :
    ∃ next, workspace.setRowBound row (Coded.code kind) least greatest = .ok next :=
  ⟨_, by rw [Workspace.setRowBound, inside.rowPosition, boundKind_code]; rfl⟩

theorem HasColumn.setColumnBound (inside : workspace.HasColumn column) (kind : BoundKind)
    (least greatest : K) :
    ∃ next, workspace.setColumnBound column (Coded.code kind) least greatest = .ok next :=
  ⟨_, by rw [Workspace.setColumnBound, inside.columnPosition, boundKind_code]; rfl⟩

theorem HasColumn.setColumnKind (inside : workspace.HasColumn column) (kind : VariableKind) :
    ∃ next, workspace.setColumnKind column (Coded.code kind) = .ok next := by
  cases kind <;> exact ⟨_, by rw [Workspace.setColumnKind, inside.columnPosition]; rfl⟩

theorem HasRow.setRow_eq (inside : workspace.HasRow row) (length : Nat) {columns : List Int}
    (found : ∀ column ∈ columns, workspace.HasColumn column) (values : List K) :
    workspace.setRow row length (some (Slots.ofEntries 0 columns))
        (some (Slots.ofEntries 0 values)) =
      .ok (workspace.replaceRow (position row) (((columns.take length).zip
        (values.take length)).map fun cell => (position cell.1, cell.2))) := by
  simp only [Workspace.setRow, inside.rowPosition, Slots.count_natCast, Slots.read_ofEntries,
    Except.ok_bind]
  rw [Except.mapM_eq_map fun cell => (position cell.1, cell.2)]
  · rfl
  · rintro ⟨column, value⟩ member
    have listed := List.mem_of_mem_take (List.of_mem_zip member).1
    rw [(found column listed).columnPosition]
    rfl

theorem HasColumn.setColumn_eq (inside : workspace.HasColumn column) (length : Nat)
    {rows : List Int} (found : ∀ row ∈ rows, workspace.HasRow row) (values : List K) :
    workspace.setColumn column length (some (Slots.ofEntries 0 rows))
        (some (Slots.ofEntries 0 values)) =
      .ok (workspace.replaceColumn (position column) (((rows.take length).zip
        (values.take length)).map fun cell => (position cell.1, cell.2))) := by
  simp only [Workspace.setColumn, inside.columnPosition, Slots.count_natCast,
    Slots.read_ofEntries, Except.ok_bind]
  rw [Except.mapM_eq_map fun cell => (position cell.1, cell.2)]
  · rfl
  · rintro ⟨row, value⟩ member
    have listed := List.mem_of_mem_take (List.of_mem_zip member).1
    rw [(found row listed).rowPosition]
    rfl

theorem loadMatrix_eq (length : Nat) {rows columns : List Int}
    (rowsFound : ∀ row ∈ rows, workspace.HasRow row)
    (columnsFound : ∀ column ∈ columns, workspace.HasColumn column) (values : List K) :
    workspace.loadMatrix length (some (Slots.ofEntries 0 rows))
        (some (Slots.ofEntries 0 columns)) (some (Slots.ofEntries 0 values)) =
      .ok (workspace.replaceMatrix (((rows.take length).zip ((columns.take length).zip
        (values.take length))).map fun entry =>
          (position entry.1, position entry.2.1, entry.2.2))) := by
  simp only [Workspace.loadMatrix, Slots.count_natCast, Slots.read_ofEntries, Except.ok_bind]
  rw [Except.mapM_eq_map fun entry => (position entry.1, position entry.2.1, entry.2.2)]
  · rfl
  · rintro ⟨row, column, value⟩ member
    obtain ⟨rowListed, rest⟩ := List.of_mem_zip member
    have columnListed := (List.of_mem_zip rest).1
    simp only [(rowsFound row (List.mem_of_mem_take rowListed)).rowPosition,
      (columnsFound column (List.mem_of_mem_take columnListed)).columnPosition]
    rfl

theorem deleteRows_eq {rows : List Int} (found : ∀ row ∈ rows, workspace.HasRow row)
    (once : rows.Nodup) :
    workspace.deleteRows rows.length (some (Slots.ofEntries 0 rows)) =
      .ok (workspace.dropRows (rows.map position)) := by
  have single := nodup_positions (fun row listed => (found row listed).1) once
  have doomed := distinct_eq_ok_iff.mpr ⟨single, rfl⟩
  simp only [Workspace.deleteRows, Slots.count_natCast, Slots.read_ofEntries, List.take_length,
    Except.ok_bind, Except.mapM_eq_map position fun row listed => (found row listed).rowPosition,
    doomed, removeRows_eq (ascending_inOrder single), dropRows_perm (inOrder_perm _)]
  rfl

theorem deleteColumns_eq (inRange : workspace.InRange) {columns : List Int}
    (found : ∀ column ∈ columns, workspace.HasColumn column) (once : columns.Nodup) :
    workspace.deleteColumns columns.length (some (Slots.ofEntries 0 columns)) =
      .ok (workspace.dropColumns (columns.map position)) := by
  have single := nodup_positions (fun column listed => (found column listed).1) once
  have doomed := distinct_eq_ok_iff.mpr ⟨single, rfl⟩
  simp only [Workspace.deleteColumns, Slots.count_natCast, Slots.read_ofEntries,
    List.take_length, Except.ok_bind,
    Except.mapM_eq_map position fun column listed => (found column listed).columnPosition,
    doomed, removeColumns_eq (ascending_inOrder single) inRange.cells,
    dropColumns_perm (inOrder_perm _)]
  rfl

end Data

end Workspace

end LinearProgramming
