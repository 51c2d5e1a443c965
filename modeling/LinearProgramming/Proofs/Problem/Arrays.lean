import LinearProgramming.Proofs.Problem.Chart

/-!
# Entries that go through arrays

A problem hands lists to numbered calls in arrays whose entries start at slot 1, and reads what such
calls write in the same way.  What arrives is what was sent, whatever the length; the other slots
matter to no call and are left alone by all.
-/

namespace LinearProgramming

namespace Slots

variable {A : Type}

def entries (length : Int) (slots : Option (List A)) : Except Misuse (List A) := do
  read (← count length) slots

/-- Arrays that are the same in the slots from 1 to a length.  A missing array has no slot. -/
def Agree (length : Int) (left right : Option (List A)) : Prop :=
  ∀ slot : Nat, 1 ≤ slot → slot ≤ length → left.map (·[slot]?) = right.map (·[slot]?)

/-- What a call makes of an array that it writes entries into: these stand from slot 1 on, and
the other slots hold what they held before.  A missing array stays missing. -/
inductive Written (written : List A) : Option (List A) → Option (List A) → Prop
  | missing : Written written none none
  | array {before after : List A} (inside : entries written.length (some after) = .ok written)
      (outside : ∀ slot, slot = 0 ∨ written.length < slot → after[slot]? = before[slot]?) :
      Written written (some before) (some after)

/-- What a call reports into arrays of more slots than a capacity, if both are there, and into
one or none of them else: so many pairs, and the pairs themselves. -/
def Reports {K : Type} (call : Option (List Int) → Option (List K) →
      Except Misuse (Int × Option (List Int) × Option (List K)))
    (capacity : Nat) (pairs : List (Nat × K)) : Prop :=
  ∀ numbers values, (∀ slots ∈ numbers, capacity < slots.length) →
    (∀ slots ∈ values, capacity < slots.length) →
    ∃ numbers' values', call numbers values = .ok (pairs.length, numbers', values') ∧
      Written (pairs.map fun pair => (pair.1 : Int)) numbers numbers' ∧
      Written (pairs.map Prod.snd) values values'

theorem entries_natCast (length : Nat) (slots : Option (List A)) :
    entries length slots = read length slots := by
  rw [entries, count_natCast, Except.ok_bind]

theorem entries_ofEntries (unused : A) {all : List A} (few : all.length < Word.values31) :
    entries (narrow all.length) (some (ofEntries unused all)) = .ok all := by
  rw [narrow_of_lt few, entries_natCast, read_ofEntries, List.take_length]

/-- A call reads the slots from 1 to its length and no others. -/
theorem read_congr {length : Int} {left right : Option (List A)} (agree : Agree length left right)
    {size : Nat} (counted : count length = .ok size) : read size left = read size right := by
  rw [count] at counted
  split at counted
  · cases counted
  · cases counted
    unfold read
    split
    · rfl
    · rename_i nonnegative nonzero
      -- Slot 1 tells a missing array from one that is there.
      have first := agree 1 (Nat.le_refl 1) (by omega)
      cases left with
      | none => cases right <;> first | rfl | cases first
      | some left =>
          cases right with
          | none => cases first
          | some right =>
              apply congrArg Except.ok
              apply List.ext_getElem?
              intro position
              simp only [List.getElem?_take, List.getElem?_drop]
              split
              · exact Option.some.inj (agree (1 + position) (by omega) (by omega))
              · rfl

theorem written_write {all slots : List A} (fits : all.length < slots.length) :
    Written all (some slots) (some (write all slots)) := by
  refine .array ?_ fun slot outside => ?_
  · rw [entries_natCast, read]
    split
    · rename_i empty
      rw [List.eq_nil_of_length_eq_zero empty]
      rfl
    · exact congrArg Except.ok (drop_take_write all slots fits)
  · cases slots with
    | nil => exact absurd fits (Nat.not_lt_zero _)
    | cons unused slots =>
        cases slot with
        | zero => rfl
        | succ slot =>
            have beyond : all.length ≤ slot := by omega
            simp only [write, List.take_succ_cons, List.take_zero, List.drop_succ_cons,
              List.cons_append, List.nil_append, List.getElem?_cons_succ,
              List.getElem?_append_right beyond, List.getElem?_drop,
              Nat.add_sub_cancel' beyond]

theorem Written.entries_eq {all : List A} {before after : Option (List A)}
    (written : Written all before after) (there : before.isSome = true) :
    entries all.length after = .ok all := by
  cases written with
  | missing => cases there
  | array inside outside => exact inside

theorem written_map_write {all : List A} {slots : Option (List A)}
    (fits : ∀ array ∈ slots, all.length < array.length) :
    Written all slots (slots.map (write all)) := by
  cases slots with
  | none => exact .missing
  | some array => exact written_write (fits array rfl)

end Slots

/-! ## Calls that read arrays -/

section Inert

variable {K : Type} [Scalar K]

inductive Command.SameEntries : Command K → Command K → Prop
  | setRow (row : Int) {length : Int} {columns columns' : Option (List Int)}
      {values values' : Option (List K)} (numbered : Slots.Agree length columns columns')
      (valued : Slots.Agree length values values') :
      SameEntries (.setRow row length columns values) (.setRow row length columns' values')
  | setColumn (column : Int) {length : Int} {rows rows' : Option (List Int)}
      {values values' : Option (List K)} (numbered : Slots.Agree length rows rows')
      (valued : Slots.Agree length values values') :
      SameEntries (.setColumn column length rows values) (.setColumn column length rows' values')
  | loadMatrix {length : Int} {rows rows' columns columns' : Option (List Int)}
      {values values' : Option (List K)} (numbered : Slots.Agree length rows rows')
      (placed : Slots.Agree length columns columns') (valued : Slots.Agree length values values') :
      SameEntries (.loadMatrix length rows columns values)
        (.loadMatrix length rows' columns' values')
  | deleteRows {length : Int} {rows rows' : Option (List Int)}
      (numbered : Slots.Agree length rows rows') :
      SameEntries (.deleteRows length rows) (.deleteRows length rows')
  | deleteColumns {length : Int} {columns columns' : Option (List Int)}
      (numbered : Slots.Agree length columns columns') :
      SameEntries (.deleteColumns length columns) (.deleteColumns length columns')

namespace Except

theorem bind_congr {E A B : Type} {result : Except E A} {left right : A → Except E B}
    (same : ∀ value, result = .ok value → left value = right value) :
    (result >>= left) = result >>= right := by
  cases result with
  | error => rfl
  | ok value => exact same value rfl

end Except

namespace Command.SameEntries

variable {left right : Command K}

omit [Scalar K] in
theorem callName_eq (same : SameEntries left right) : left.callName = right.callName := by
  cases same <;> rfl

/-- A call does the same, or is misused in the same way, if its entries are the same. -/
theorem run_eq (same : SameEntries left right) (workspace : Workspace K) :
    left.run workspace = right.run workspace := by
  cases same with
  | setRow row numbered valued =>
      apply congrArg (· >>= fun next => pure (next, none))
      refine Except.bind_congr fun position _ => Except.bind_congr fun size counted => ?_
      rw [Slots.read_congr numbered counted, Slots.read_congr valued counted]
  | setColumn column numbered valued =>
      apply congrArg (· >>= fun next => pure (next, none))
      refine Except.bind_congr fun position _ => Except.bind_congr fun size counted => ?_
      rw [Slots.read_congr numbered counted, Slots.read_congr valued counted]
  | loadMatrix numbered placed valued =>
      apply congrArg (· >>= fun next => pure (next, none))
      refine Except.bind_congr fun size counted => ?_
      rw [Slots.read_congr numbered counted, Slots.read_congr placed counted,
        Slots.read_congr valued counted]
  | deleteRows numbered =>
      apply congrArg (· >>= fun next => pure (next, none))
      refine Except.bind_congr fun size counted => ?_
      rw [Slots.read_congr numbered counted]
  | deleteColumns numbered =>
      apply congrArg (· >>= fun next => pure (next, none))
      refine Except.bind_congr fun size counted => ?_
      rw [Slots.read_congr numbered counted]

end Command.SameEntries

end Inert

/-! ## Lists that are handed over -/

section Handing

variable {K : Type} [Scalar K]

namespace Slots

theorem entries_indices {indices : List Nat} (few : indices.length < Word.values31)
    (small : ∀ index ∈ indices, index < Word.values31) :
    entries (narrow indices.length) (some (ofEntries 0 (indices.map narrow))) =
      .ok (indices.map fun index : Nat => (index : Int)) := by
  have same : indices.map narrow = indices.map fun index : Nat => (index : Int) :=
    List.map_congr_left fun index member => narrow_of_lt (small index member)
  rw [narrow_of_lt few, entries_natCast, read_ofEntries, same]
  exact congrArg Except.ok (List.take_of_length_le (Nat.le_of_eq (List.length_map _)))

end Slots

structure Fitting (indices : List Nat) (length : Nat) : Prop where
  same : indices.length = length
  few : length < Word.values31
  small : ∀ index ∈ indices, index < Word.values31

open Problem in
/-- What calls learn of the lists that are handed to them: they read what the caller listed, and
of lists that differ in length they learn nothing. -/
structure HandsOver (K : Type) [Scalar K] : Prop where
  pairs : ∀ (indices : List Nat) (values : List K), Fitting indices values.length →
    ∃ length numbers slots,
      (∀ {A : Type} (call : Int → Option (List Int) → Option (List K) → A),
        withPairs indices values call = .ok (call length numbers slots)) ∧
      Slots.entries length numbers = .ok (indices.map fun index : Nat => (index : Int)) ∧
      Slots.entries length slots = .ok values
  triplets : ∀ (rows columns : List Nat) (values : List K), Fitting rows values.length →
    Fitting columns values.length →
    ∃ length numbers numbers' slots,
      (∀ {A : Type} (call : Int → Option (List Int) → Option (List Int) → Option (List K) → A),
        withTriplets rows columns values call = .ok (call length numbers numbers' slots)) ∧
      Slots.entries length numbers = .ok (rows.map fun row : Nat => (row : Int)) ∧
      Slots.entries length numbers' = .ok (columns.map fun column : Nat => (column : Int)) ∧
      Slots.entries length slots = .ok values
  indices : ∀ indices : List Nat, Fitting indices indices.length →
    ∃ length numbers,
      (∀ {A : Type} (call : Int → Option (List Int) → A),
        withIndices indices call = call length numbers) ∧
      Slots.entries length numbers = .ok (indices.map fun index : Nat => (index : Int))
  refusesPairs : ∀ (indices : List Nat) (values : List K), indices.length ≠ values.length →
    ∀ {A : Type} (call : Int → Option (List Int) → Option (List K) → A),
      withPairs indices values call =
        .error (.mismatchedLength indices.length values.length)
  refusesTriplets : ∀ (rows columns : List Nat) (values : List K),
    rows.length ≠ values.length ∨ columns.length ≠ values.length → ∃ listed,
      listed ≠ values.length ∧
      ∀ {A : Type} (call : Int → Option (List Int) → Option (List Int) → Option (List K) → A),
        withTriplets rows columns values call = .error (.mismatchedLength listed values.length)

theorem handsOver (K : Type) [Scalar K] : HandsOver K where
  pairs indices values fits := by
    refine ⟨_, _, _, fun call => ?_,
      Slots.entries_indices (fits.same.trans_lt fits.few) fits.small,
      fits.same ▸ Slots.entries_ofEntries 0 fits.few⟩
    rw [Problem.withPairs, ensureSameLength, if_pos fits.same]
    rfl
  triplets rows columns values rowsFit columnsFit := by
    refine ⟨_, _, _, _, fun call => ?_,
      rowsFit.same ▸ Slots.entries_indices (rowsFit.same.trans_lt rowsFit.few) rowsFit.small,
      columnsFit.same ▸
        Slots.entries_indices (columnsFit.same.trans_lt columnsFit.few) columnsFit.small,
      Slots.entries_ofEntries 0 rowsFit.few⟩
    rw [Problem.withTriplets, ensureSameLength, if_pos rowsFit.same, ensureSameLength,
      if_pos columnsFit.same]
    rfl
  indices indices fits :=
    ⟨_, _, fun call => rfl, Slots.entries_indices fits.few fits.small⟩
  refusesPairs indices values differ A call := by
    rw [Problem.withPairs, ensureSameLength, if_neg differ]
    rfl
  refusesTriplets rows columns values differ := by
    by_cases same : rows.length = values.length
    · have columnsDiffer : columns.length ≠ values.length :=
        differ.resolve_left fun rowsDiffer => rowsDiffer same
      refine ⟨columns.length, columnsDiffer, fun call => ?_⟩
      rw [Problem.withTriplets, ensureSameLength, if_pos same, ensureSameLength,
        if_neg columnsDiffer]
      rfl
    · refine ⟨rows.length, same, fun call => ?_⟩
      rw [Problem.withTriplets, ensureSameLength, if_neg same]
      rfl

end Handing

/-! ## Entries that are read back -/

section Reading

variable {K : Type} {problem : Problem K}

theorem Workspace.written_writeCells {cells : List (Nat × K)} {numbers : Option (List Int)}
    {values : Option (List K)} (numbersFit : ∀ slots ∈ numbers, cells.length < slots.length)
    (valuesFit : ∀ slots ∈ values, cells.length < slots.length) :
    Slots.Written (cells.map fun cell => (cell.1 : Int) + 1) numbers
        (writeCells cells numbers values).2.1 ∧
      Slots.Written (cells.map Prod.snd) values (writeCells cells numbers values).2.2 := by
  refine ⟨Slots.written_map_write fun slots member => ?_,
    Slots.written_map_write fun slots member => ?_⟩
  · rw [List.length_map]
    exact numbersFit slots member
  · rw [List.length_map]
    exact valuesFit slots member

theorem Workspace.reports_writeCells (cells : List (Nat × K)) {capacity : Nat}
    (few : cells.length ≤ capacity) :
    Slots.Reports (fun numbers values => .ok (writeCells cells numbers values)) capacity
      (cells.map fun cell => (cell.1 + 1, cell.2)) := by
  intro numbers values numbersFit valuesFit
  have numbered : (cells.map fun cell => (cell.1 + 1, cell.2)).map
        (fun pair : Nat × K => (pair.1 : Int)) =
      cells.map fun cell => (cell.1 : Int) + 1 := by
    rw [List.map_map]
    exact List.map_congr_left fun cell _ => Nat.cast_succ cell.1
  have valued : (cells.map fun cell => (cell.1 + 1, cell.2)).map Prod.snd =
      cells.map Prod.snd := by
    rw [List.map_map]
    rfl
  rw [numbered, valued, List.length_map]
  exact ⟨_, _, rfl, written_writeCells
    (fun slots member => few.trans_lt (numbersFit slots member))
    (fun slots member => few.trans_lt (valuesFit slots member))⟩

variable [Scalar K]

structure Problem.ReadsBack (problem : Problem K) : Prop where
  rows : ∀ row, 1 ≤ row → row ≤ problem.rowCount → ∃ pairs,
    problem.rowCoefficients row = .ok pairs ∧
      Slots.Reports (problem.workspace.readRow row) problem.columnCount pairs
  columns : ∀ column, 1 ≤ column → column ≤ problem.columnCount → ∃ pairs,
    problem.columnCoefficients column = .ok pairs ∧
      Slots.Reports (problem.workspace.readColumn column) problem.rowCount pairs

theorem Problem.readsBack (wellFormed : problem.workspace.WellFormed) : problem.ReadsBack where
  rows row first last := by
    obtain ⟨row, rfl⟩ := Nat.exists_eq_add_of_le' first
    rw [rowCount_eq wellFormed.rowLimit] at last
    have at_row := List.getElem?_eq_getElem last
    have few := Workspace.length_cells_le (wellFormed.cells _ (List.getElem_mem last))
    refine ⟨_, rowCoefficients_eq wellFormed at_row, ?_⟩
    rw [funext₂ (Workspace.readRow_eq at_row), columnCount_eq wellFormed.columnLimit]
    exact Workspace.reports_writeCells _ few
  columns column first last := by
    obtain ⟨column, rfl⟩ := Nat.exists_eq_add_of_le' first
    rw [columnCount_eq wellFormed.columnLimit] at last
    refine ⟨_, columnCoefficients_eq wellFormed last, ?_⟩
    rw [funext₂ (Workspace.readColumn_eq last), rowCount_eq wellFormed.rowLimit]
    exact Workspace.reports_writeCells _ (Workspace.length_columnCells_le _ _)

namespace History

variable {events : List (Event K)}

/-- What a problem and the calls of its workspace hand each other arrives, and nothing else. -/
theorem passes_entries (history : History events problem) :
    HandsOver K ∧
      (∀ left right : Command K, left.SameEntries right → left.callName = right.callName ∧
        ∀ workspace : Workspace K, left.run workspace = right.run workspace) ∧
      problem.ReadsBack :=
  ⟨handsOver K, fun _ _ same => ⟨same.callName_eq, same.run_eq⟩,
    Problem.readsBack history.wellFormed⟩

/-- A row that is set out of order, and arrays that differ before and behind its two entries. -/
theorem passes_entries_pair :
    ∃ (events : List (Event ℚ)) (problem : Problem ℚ),
      (History events problem ∧ events.map (·.request) =
        [.edit (.setRowCoefficients 1 [3, 1] [5, 6]), .edit (.addColumns 3),
          .edit (.addRows 2)]) ∧
      HandsOver ℚ ∧ Fitting [3, 1] ([5, 6] : List ℚ).length ∧
      (Command.setRow 1 2 (some [-7, 3, 1, 99]) (some [8, 5, 6])).run problem.workspace =
        (Command.setRow 1 2 (some [0, 3, 1]) (some [0, 5, 6, 4])).run problem.workspace ∧
      problem.ReadsBack ∧ problem.rowCoefficients 1 = .ok [(1, 6), (3, 5)] := by
  have rows := History.returned (.edit (.addRows 2)) (History.create (K := ℚ)) rfl
  have columns := History.returned (.edit (.addColumns 3)) rows rfl
  have inRow := History.returned (.edit (.setRowCoefficients 1 [3, 1] [5, 6])) columns (by rfl)
  obtain ⟨handsOver, inert, readsBack⟩ := passes_entries inRow
  have numbered : Slots.Agree 2 (some [-7, 3, 1, 99]) (some [0, 3, 1]) := by
    intro slot first last
    obtain rfl | rfl : slot = 1 ∨ slot = 2 := by omega
    · rfl
    · rfl
  have valued : Slots.Agree 2 (some [(8 : ℚ), 5, 6]) (some [0, 5, 6, 4]) := by
    intro slot first last
    obtain rfl | rfl : slot = 1 ∨ slot = 2 := by omega
    · rfl
    · rfl
  exact ⟨_, _, ⟨inRow, rfl⟩, handsOver, ⟨rfl, by decide, by decide⟩,
    (inert _ _ (.setRow 1 numbered valued)).2 _, readsBack, rfl⟩

end History

end Reading

end LinearProgramming
