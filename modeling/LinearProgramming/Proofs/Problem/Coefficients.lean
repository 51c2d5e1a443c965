import LinearProgramming.Proofs.Problem.Checks
import LinearProgramming.Proofs.Workspace.Cells

/-!
# Coefficients of a problem

A change of coefficients is checked, freed of repeated places, written into arrays of 32-bit
numbers and counted from zero at last.  What comes out at a row and a column of the problem is
the last value that the caller has listed there; what is deleted moves the others up.
-/

namespace LinearProgramming

structure Listed (numbers : List Nat) (count : Nat) : Prop where
  once : numbers.Nodup
  inside : ∀ number ∈ numbers, 1 ≤ number ∧ number ≤ count

namespace Listed

variable {numbers : List Nat} {count : Nat}

theorem length_le (listed : Listed numbers count) : numbers.length ≤ count := by
  have within : numbers ⊆ List.range' 1 count := by
    intro number member
    have := listed.inside number member
    exact List.mem_range'_1.mpr (by omega)
  simpa using listed.once.length_le_of_subset within

theorem positive (listed : Listed numbers count) : ∀ number ∈ numbers, 1 ≤ number :=
  fun number member => (listed.inside number member).1

theorem nodup_pred (listed : Listed numbers count) : (numbers.map (· - 1)).Nodup := by
  apply listed.once.map_on
  intro left leftMember right rightMember same
  have leftPositive := listed.positive left leftMember
  have rightPositive := listed.positive right rightMember
  omega

theorem lt_pred (listed : Listed numbers count) :
    ∀ position ∈ numbers.map (· - 1), position < count := by
  refine List.forall_mem_map.mpr fun number member => ?_
  have := listed.inside number member
  omega

end Listed

/-! ## Values that are counted from zero -/

section Shift

variable {K : Type}

theorem lastListed_zero {pairs : List (Nat × K)} (positive : ∀ pair ∈ pairs, 1 ≤ pair.1) :
    lastListed pairs 0 = none := by
  apply lastListed_eq_none_iff.mpr
  intro member
  obtain ⟨pair, listed, zero⟩ := List.mem_map.mp member
  have := positive pair listed
  omega

theorem lastListed_pred {pairs : List (Nat × K)} (positive : ∀ pair ∈ pairs, 1 ≤ pair.1)
    (number : Nat) :
    lastListed (pairs.map fun pair => (pair.1 - 1, pair.2)) number =
      lastListed pairs (number + 1) := by
  apply lastListed_map (· - 1) (number + 1)
  intro pair listed same
  have := positive pair listed
  omega

namespace SparseMatrix

theorem lastListed_pred {entries : List (Nat × Nat × K)}
    (positive : ∀ entry ∈ entries, 1 ≤ entry.1 ∧ 1 ≤ entry.2.1) (row column : Nat) :
    lastListed ((entries.map fun entry => (entry.1 - 1, entry.2.1 - 1, entry.2.2)).map atCell)
        (row, column) =
      lastListed (entries.map atCell) (row + 1, column + 1) := by
  have apart : ∀ entry ∈ entries.map atCell,
      (entry.1.1 - 1, entry.1.2 - 1) = (row, column) → entry.1 = (row + 1, column + 1) := by
    refine List.forall_mem_map.mpr fun entry member same => ?_
    obtain ⟨rowPositive, columnPositive⟩ := positive entry member
    obtain ⟨sameRow, sameColumn⟩ := Prod.mk.inj same
    simp only [atCell] at sameRow sameColumn ⊢
    exact Prod.ext (by omega) (by omega)
  have moved := lastListed_map (fun cell : Nat × Nat => (cell.1 - 1, cell.2 - 1))
    (row + 1, column + 1) apart
  rw [List.map_map] at moved ⊢
  exact moved

theorem lastListed_of_outside {entries : List (Nat × Nat × K)} {row column : Nat}
    (outside : ∀ entry ∈ entries, (entry.1, entry.2.1) ≠ (row, column)) :
    lastListed (entries.map atCell) (row, column) = none := by
  apply lastListed_eq_none_iff.mpr
  intro member
  obtain ⟨_, listed, same⟩ := List.mem_map.mp member
  obtain ⟨entry, stays, rfl⟩ := List.mem_map.mp listed
  exact outside entry stays same

end SparseMatrix

end Shift

namespace Slots

theorem bmod_of_nonneg {number size : Nat} (positive : 0 < size)
    (nonneg : 0 ≤ Int.bmod number size) : Int.bmod number size = (number % size : Nat) := by
  have small := Nat.mod_lt number positive
  rw [Int.bmod_def] at nonneg ⊢
  split
  · rfl
  · rename_i large
    rw [if_neg large] at nonneg
    omega

theorem narrow_of_nonneg {number : Nat} (nonneg : 0 ≤ narrow number) :
    narrow number = (number % Word.values32 : Nat) :=
  bmod_of_nonneg (Nat.succ_pos _) nonneg

end Slots

/-! ## Numbered calls with arrays -/

namespace Workspace

theorem hasRow_natCast {K : Type} {workspace : Workspace K} {row : Nat} :
    workspace.HasRow row ↔ 1 ≤ row ∧ row ≤ workspace.rows.length := by
  rw [HasRow]
  omega

theorem hasColumn_natCast {K : Type} {workspace : Workspace K} {column : Nat} :
    workspace.HasColumn column ↔ 1 ≤ column ∧ column ≤ workspace.columns.length := by
  rw [HasColumn]
  omega

theorem position_succ (number : Nat) : position (number + 1 : Nat) = number := by
  rw [position]
  omega

theorem rowPosition_succ {K : Type} {workspace : Workspace K} {row : Nat}
    (inside : row < workspace.rows.length) : workspace.rowPosition (row + 1 : Nat) = .ok row := by
  have found : workspace.HasRow (row + 1 : Nat) := hasRow_natCast.mpr (by omega)
  rw [found.rowPosition, position_succ]

theorem columnPosition_succ {K : Type} {workspace : Workspace K} {column : Nat}
    (inside : column < workspace.columns.length) :
    workspace.columnPosition (column + 1 : Nat) = .ok column := by
  have found : workspace.HasColumn (column + 1 : Nat) := hasColumn_natCast.mpr (by omega)
  rw [found.columnPosition, position_succ]

theorem rowAt_eq {K : Type} {workspace : Workspace K} {row : Nat} {current : WorkRow K}
    (at_row : workspace.rows[row]? = some current) :
    workspace.rowAt (row + 1 : Nat) = .ok current := by
  rw [rowAt, rowPosition_succ (List.getElem?_eq_some_iff.mp at_row).1, Except.ok_bind,
    List.getD_eq_getElem?_getD, at_row]
  rfl

theorem columnAt_eq {K : Type} [Scalar K] {workspace : Workspace K} {column : Nat}
    {current : WorkColumn K} (at_column : workspace.columns[column]? = some current) :
    workspace.columnAt (column + 1 : Nat) = .ok current := by
  rw [columnAt, columnPosition_succ (List.getElem?_eq_some_iff.mp at_column).1, Except.ok_bind,
    List.getD_eq_getElem?_getD, at_column]
  rfl

theorem position_narrow {number : Nat} (small : number < Word.values31) :
    position (Slots.narrow number) = number - 1 := by
  rw [Slots.narrow_of_lt small, position]
  omega

end Workspace

namespace Listed

variable {numbers : List Nat} {count : Nat}

theorem small (listed : Listed numbers count) (limit : count ≤ maxDimension) :
    ∀ number ∈ numbers, number < Word.values31 :=
  fun number member =>
    lt_values31_of_le (Nat.le_trans (listed.inside number member).2 limit)

theorem few (listed : Listed numbers count) (limit : count ≤ maxDimension) :
    numbers.length < Word.values31 :=
  lt_values31_of_le (Nat.le_trans listed.length_le limit)

theorem nodup_narrow (listed : Listed numbers count) (limit : count ≤ maxDimension) :
    (numbers.map Slots.narrow).Nodup := by
  apply listed.once.map_on
  intro left leftMember right rightMember same
  rw [Slots.narrow_of_lt (listed.small limit left leftMember),
    Slots.narrow_of_lt (listed.small limit right rightMember)] at same
  exact Int.ofNat.inj same

theorem map_position (listed : Listed numbers count) (limit : count ≤ maxDimension) :
    (numbers.map Slots.narrow).map Workspace.position = numbers.map (· - 1) := by
  rw [List.map_map]
  apply List.map_congr_left
  intro number member
  rw [Function.comp_apply, Workspace.position_narrow (listed.small limit number member)]

end Listed

namespace Workspace

variable {K : Type} {workspace : Workspace K}

theorem zip_positions {pairs : List (Nat × K)} (small : ∀ pair ∈ pairs, pair.1 < Word.values31)
    (count : Nat) :
    ((((pairs.map Prod.fst).map Slots.narrow).take count).zip
        ((pairs.map Prod.snd).take count)).map (fun cell => (position cell.1, cell.2)) =
      (pairs.take count).map fun pair => (pair.1 - 1, pair.2) := by
  rw [List.map_map, Function.comp_def, ← List.map_take, ← List.map_take, List.zip_map',
    List.map_map]
  apply List.map_congr_left
  intro pair member
  have listed := List.mem_of_mem_take member
  simp only [Function.comp_apply, position_narrow (small pair listed)]

theorem zip_cells {entries : List (Nat × Nat × K)}
    (rowSmall : ∀ entry ∈ entries, entry.1 < Word.values31)
    (columnSmall : ∀ entry ∈ entries, entry.2.1 < Word.values31) (count : Nat) :
    ((((entries.map (·.1)).map Slots.narrow).take count).zip
        ((((entries.map (·.2.1)).map Slots.narrow).take count).zip
          ((entries.map (·.2.2)).take count))).map
        (fun entry => (position entry.1, position entry.2.1, entry.2.2)) =
      (entries.take count).map fun entry => (entry.1 - 1, entry.2.1 - 1, entry.2.2) := by
  rw [List.map_map, List.map_map, Function.comp_def, Function.comp_def, ← List.map_take,
    ← List.map_take, ← List.map_take, List.zip_map', List.zip_map', List.map_map]
  apply List.map_congr_left
  intro entry member
  have listed := List.mem_of_mem_take member
  simp only [Function.comp_apply, position_narrow (rowSmall entry listed),
    position_narrow (columnSmall entry listed)]

variable [Scalar K]

theorem WellFormed.setRow_narrow (wellFormed : workspace.WellFormed) {row : Nat}
    (inside : workspace.HasRow row) {pairs : List (Nat × K)}
    (found : ∀ pair ∈ pairs, workspace.HasColumn pair.1) (few : pairs.length < Word.values31) :
    workspace.setRow (Slots.narrow row) (Slots.narrow pairs.length)
        (some (Slots.ofEntries 0 ((pairs.map Prod.fst).map Slots.narrow)))
        (some (Slots.ofEntries 0 (pairs.map Prod.snd))) =
      .ok (workspace.replaceRow (row - 1) (pairs.map fun pair => (pair.1 - 1, pair.2))) := by
  have rowSmall := inside.lt wellFormed.rowLimit
  have columnSmall : ∀ pair ∈ pairs, pair.1 < Word.values31 :=
    fun pair member => (found pair member).lt wellFormed.columnLimit
  have numbers : ∀ column ∈ (pairs.map Prod.fst).map Slots.narrow,
      workspace.HasColumn column := by
    refine List.forall_mem_map.mpr (List.forall_mem_map.mpr fun pair member => ?_)
    rw [Slots.narrow_of_lt (columnSmall pair member)]
    exact found pair member
  rw [Slots.narrow_of_lt few, ← position_narrow rowSmall, Slots.narrow_of_lt rowSmall,
    inside.setRow_eq _ numbers, zip_positions columnSmall, List.take_length]

theorem WellFormed.setColumn_narrow (wellFormed : workspace.WellFormed) {column : Nat}
    (inside : workspace.HasColumn column) {pairs : List (Nat × K)}
    (found : ∀ pair ∈ pairs, workspace.HasRow pair.1) (few : pairs.length < Word.values31) :
    workspace.setColumn (Slots.narrow column) (Slots.narrow pairs.length)
        (some (Slots.ofEntries 0 ((pairs.map Prod.fst).map Slots.narrow)))
        (some (Slots.ofEntries 0 (pairs.map Prod.snd))) =
      .ok (workspace.replaceColumn (column - 1) (pairs.map fun pair => (pair.1 - 1, pair.2))) := by
  have columnSmall := inside.lt wellFormed.columnLimit
  have rowSmall : ∀ pair ∈ pairs, pair.1 < Word.values31 :=
    fun pair member => (found pair member).lt wellFormed.rowLimit
  have numbers : ∀ row ∈ (pairs.map Prod.fst).map Slots.narrow, workspace.HasRow row := by
    refine List.forall_mem_map.mpr (List.forall_mem_map.mpr fun pair member => ?_)
    rw [Slots.narrow_of_lt (rowSmall pair member)]
    exact found pair member
  rw [Slots.narrow_of_lt few, ← position_narrow columnSmall, Slots.narrow_of_lt columnSmall,
    inside.setColumn_eq _ numbers, zip_positions rowSmall, List.take_length]

/-- The number of entries is counted in 32 bits, and a negative one is misused. -/
theorem WellFormed.loadMatrix_narrow (wellFormed : workspace.WellFormed)
    {entries : List (Nat × Nat × K)} (rowFound : ∀ entry ∈ entries, workspace.HasRow entry.1)
    (columnFound : ∀ entry ∈ entries, workspace.HasColumn entry.2.1) :
    workspace.loadMatrix (Slots.narrow entries.length)
        (some (Slots.ofEntries 0 ((entries.map (·.1)).map Slots.narrow)))
        (some (Slots.ofEntries 0 ((entries.map (·.2.1)).map Slots.narrow)))
        (some (Slots.ofEntries 0 (entries.map (·.2.2)))) =
      if Slots.narrow entries.length < 0 then
        .error (.invalidCount (Slots.narrow entries.length))
      else
        .ok (workspace.replaceMatrix ((entries.take (entries.length % Word.values32)).map
          fun entry => (entry.1 - 1, entry.2.1 - 1, entry.2.2))) := by
  have rowSmall : ∀ entry ∈ entries, entry.1 < Word.values31 :=
    fun entry member => (rowFound entry member).lt wellFormed.rowLimit
  have columnSmall : ∀ entry ∈ entries, entry.2.1 < Word.values31 :=
    fun entry member => (columnFound entry member).lt wellFormed.columnLimit
  have rows : ∀ row ∈ (entries.map (·.1)).map Slots.narrow, workspace.HasRow row := by
    refine List.forall_mem_map.mpr (List.forall_mem_map.mpr fun entry member => ?_)
    rw [Slots.narrow_of_lt (rowSmall entry member)]
    exact rowFound entry member
  have columns : ∀ column ∈ (entries.map (·.2.1)).map Slots.narrow,
      workspace.HasColumn column := by
    refine List.forall_mem_map.mpr (List.forall_mem_map.mpr fun entry member => ?_)
    rw [Slots.narrow_of_lt (columnSmall entry member)]
    exact columnFound entry member
  split
  case isTrue negative =>
    rw [Workspace.loadMatrix, Slots.count, if_pos negative]
    rfl
  case isFalse counted =>
    rw [Slots.narrow_of_nonneg (Int.not_lt.mp counted), loadMatrix_eq _ rows columns,
      zip_cells rowSmall columnSmall]

theorem WellFormed.withIndices_deleteRows (wellFormed : workspace.WellFormed) {rows : List Nat}
    (listed : Listed rows workspace.rows.length) :
    Problem.withIndices rows workspace.deleteRows =
      .ok (workspace.dropRows (rows.map (· - 1))) := by
  have found : ∀ row ∈ rows.map Slots.narrow, workspace.HasRow row := by
    refine List.forall_mem_map.mpr fun row member => ?_
    rw [Slots.narrow_of_lt (listed.small wellFormed.rowLimit row member)]
    exact hasRow_natCast.mpr (listed.inside row member)
  have deleted := deleteRows_eq found (listed.nodup_narrow wellFormed.rowLimit)
  rw [List.length_map, listed.map_position wellFormed.rowLimit] at deleted
  rw [Problem.withIndices, Slots.narrow_of_lt (listed.few wellFormed.rowLimit), deleted]

theorem WellFormed.withIndices_deleteColumns (wellFormed : workspace.WellFormed)
    {columns : List Nat} (listed : Listed columns workspace.columns.length) :
    Problem.withIndices columns workspace.deleteColumns =
      .ok (workspace.dropColumns (columns.map (· - 1))) := by
  have found : ∀ column ∈ columns.map Slots.narrow, workspace.HasColumn column := by
    refine List.forall_mem_map.mpr fun column member => ?_
    rw [Slots.narrow_of_lt (listed.small wellFormed.columnLimit column member)]
    exact hasColumn_natCast.mpr (listed.inside column member)
  have deleted := deleteColumns_eq wellFormed.toInRange found
    (listed.nodup_narrow wellFormed.columnLimit)
  rw [List.length_map, listed.map_position wellFormed.columnLimit] at deleted
  rw [Problem.withIndices, Slots.narrow_of_lt (listed.few wellFormed.columnLimit), deleted]

end Workspace

/-! ## Changes of a problem -/

namespace Problem

variable {K : Type} {problem next : Problem K}

/-- The coefficient that is stored at a row and a column, which are counted from one. -/
def cell (problem : Problem K) : Nat → Nat → Option K
  | row + 1, column + 1 => problem.workspace.cell row column
  | _, _ => none

@[simp]
theorem cell_zero_left (problem : Problem K) (column : Nat) : problem.cell 0 column = none := rfl

@[simp]
theorem cell_zero_right (problem : Problem K) (row : Nat) : problem.cell row 0 = none := by
  cases row <;> rfl

theorem checkRow_eq_ok_iff {row : Nat} :
    problem.checkRow row = .ok () ↔ 1 ≤ row ∧ row ≤ problem.rowCount := by
  rw [checkRow]
  split
  case isTrue inside => simp [inside, pure, Except.pure]
  case isFalse outside => simp [outside, throw, throwThe, MonadExceptOf.throw]

theorem checkColumn_eq_ok_iff {column : Nat} :
    problem.checkColumn column = .ok () ↔ 1 ≤ column ∧ column ≤ problem.columnCount := by
  rw [checkColumn]
  split
  case isTrue inside => simp [inside, pure, Except.pure]
  case isFalse outside => simp [outside, throw, throwThe, MonadExceptOf.throw]

theorem checkRow_succ (wellFormed : problem.workspace.WellFormed) {row : Nat}
    (inside : row < problem.workspace.rows.length) : problem.checkRow (row + 1) = .ok () :=
  checkRow_eq_ok_iff.mpr (by rw [rowCount_eq wellFormed.rowLimit]; omega)

theorem checkColumn_succ (wellFormed : problem.workspace.WellFormed) {column : Nat}
    (inside : column < problem.workspace.columns.length) :
    problem.checkColumn (column + 1) = .ok () :=
  checkColumn_eq_ok_iff.mpr (by rw [columnCount_eq wellFormed.columnLimit]; omega)

theorem narrow_row (wellFormed : problem.workspace.WellFormed) {row : Nat}
    (inside : row < problem.workspace.rows.length) :
    Slots.narrow (row + 1) = (row + 1 : Nat) :=
  Slots.narrow_of_lt (lt_values31_of_le (Nat.le_trans inside wellFormed.rowLimit))

theorem narrow_column (wellFormed : problem.workspace.WellFormed) {column : Nat}
    (inside : column < problem.workspace.columns.length) :
    Slots.narrow (column + 1) = (column + 1 : Nat) :=
  Slots.narrow_of_lt (lt_values31_of_le (Nat.le_trans inside wellFormed.columnLimit))

theorem forM_checkRow_iff {rows : List Nat} :
    rows.forM problem.checkRow = .ok () ↔ ∀ row ∈ rows, 1 ≤ row ∧ row ≤ problem.rowCount := by
  simp only [Except.forM_eq_ok_iff, checkRow_eq_ok_iff]

theorem forM_checkColumn_iff {columns : List Nat} :
    columns.forM problem.checkColumn = .ok () ↔
      ∀ column ∈ columns, 1 ≤ column ∧ column ≤ problem.columnCount := by
  simp only [Except.forM_eq_ok_iff, checkColumn_eq_ok_iff]

theorem change_eq_ok_iff {result : Except Misuse (Workspace K)} :
    problem.change result = .ok next ↔
      ∃ workspace, result = .ok workspace ∧
        ({ problem with workspace } : Problem K).forget = next := by
  cases result with
  | error misuse => simp [change, call, Failure.lift, Except.mapError]
  | ok workspace => simp [change, call, Failure.lift, Except.mapError, pure, Except.pure]

theorem ensureSameLength_eq_ok_iff {indices values : Nat} :
    (ensureSameLength indices values : Except (Error K) Unit) = .ok () ↔ indices = values := by
  rw [ensureSameLength]
  split
  case isTrue same => exact iff_of_true rfl same
  case isFalse differ => exact iff_of_false (by rintro ⟨⟩) differ

theorem listed_lastValues {indices : List Nat} {count : Nat}
    (inside : ∀ index ∈ indices, 1 ≤ index ∧ index ≤ count) (values : List K) :
    Listed ((lastValues (List.zip indices values)).map Prod.fst) count where
  once := nodup_lastValues _
  inside _ member := inside _ (mem_of_mem_lastValues_zip member)

theorem positive_zip {indices : List Nat} {count : Nat}
    (inside : ∀ index ∈ indices, 1 ≤ index ∧ index ≤ count) (values : List K) :
    ∀ pair ∈ List.zip indices values, 1 ≤ pair.1 :=
  fun _ member => (inside _ (List.of_mem_zip member).1).1

theorem positive_lastValues {indices : List Nat} {count : Nat}
    (inside : ∀ index ∈ indices, 1 ≤ index ∧ index ≤ count) (values : List K) :
    ∀ pair ∈ lastValues (List.zip indices values), 1 ≤ pair.1 :=
  fun _ member => positive_zip inside values _ (mem_lastValues member)

def Admits (problem : Problem K) (matrix : SparseMatrix K) : Prop :=
  ∀ entry ∈ matrix.toList, (1 ≤ entry.1 ∧ entry.1 ≤ problem.rowCount) ∧
    1 ≤ entry.2.1 ∧ entry.2.1 ≤ problem.columnCount

variable [Scalar K]

theorem setRowCoefficients_of_inside (wellFormed : problem.workspace.WellFormed) {row : Nat}
    {columns : List Nat} {values : List K} (same : columns.length = values.length)
    (rowInside : 1 ≤ row ∧ row ≤ problem.rowCount)
    (inside : ∀ column ∈ columns, 1 ≤ column ∧ column ≤ problem.columnCount) :
    problem.setRowCoefficients row columns values =
      .ok ({ problem with
        workspace := problem.workspace.replaceRow (row - 1)
          ((lastValues (List.zip columns values)).map fun pair => (pair.1 - 1, pair.2)) } :
            Problem K).forget := by
  rw [setRowCoefficients, Except.mapError_eq_ok_iff.mpr (ensureSameLength_eq_ok_iff.mpr same),
    Except.ok_bind, checkRow_eq_ok_iff.mpr rowInside, Except.ok_bind,
    forM_checkColumn_iff.mpr inside, Except.ok_bind]
  rw [rowCount_eq wellFormed.rowLimit] at rowInside
  rw [columnCount_eq wellFormed.columnLimit] at inside
  have few := (listed_lastValues inside values).few wellFormed.columnLimit
  rw [List.length_map] at few
  have found : ∀ pair ∈ lastValues (List.zip columns values),
      problem.workspace.HasColumn pair.1 := fun pair member =>
    Workspace.hasColumn_natCast.mpr
      (inside pair.1 (mem_of_mem_lastValues_zip (List.mem_map_of_mem member)))
  refine (withPairs_unzip_bind _ _ _).trans ?_
  rw [wellFormed.setRow_narrow (Workspace.hasRow_natCast.mpr rowInside) found few]
  rfl

theorem setRowCoefficients_eq (wellFormed : problem.workspace.WellFormed) {row : Nat}
    {columns : List Nat} {values : List K}
    (set : problem.setRowCoefficients row columns values = .ok next) :
    (1 ≤ row ∧ row ≤ problem.workspace.rows.length) ∧
      (∀ column ∈ columns, 1 ≤ column ∧ column ≤ problem.workspace.columns.length) ∧
        next = ({ problem with
          workspace := problem.workspace.replaceRow (row - 1)
            ((lastValues (List.zip columns values)).map fun pair => (pair.1 - 1, pair.2)) } :
              Problem K).forget := by
  obtain ⟨_, sameChecked, checked⟩ := Except.bind_eq_ok_iff.mp set
  obtain ⟨_, rowChecked, checked⟩ := Except.bind_eq_ok_iff.mp checked
  obtain ⟨_, columnsChecked, -⟩ := Except.bind_eq_ok_iff.mp checked
  have same := ensureSameLength_eq_ok_iff.mp (Except.mapError_eq_ok_iff.mp sameChecked)
  have rowInside := checkRow_eq_ok_iff.mp rowChecked
  have inside := forM_checkColumn_iff.mp columnsChecked
  rw [setRowCoefficients_of_inside wellFormed same rowInside inside] at set
  cases set
  rw [rowCount_eq wellFormed.rowLimit] at rowInside
  rw [columnCount_eq wellFormed.columnLimit] at inside
  exact ⟨rowInside, inside, rfl⟩

theorem setColumnCoefficients_eq (wellFormed : problem.workspace.WellFormed) {column : Nat}
    {rows : List Nat} {values : List K}
    (set : problem.setColumnCoefficients column rows values = .ok next) :
    (1 ≤ column ∧ column ≤ problem.workspace.columns.length) ∧
      (∀ row ∈ rows, 1 ≤ row ∧ row ≤ problem.workspace.rows.length) ∧
        next = ({ problem with
          workspace := problem.workspace.replaceColumn (column - 1)
            ((lastValues (List.zip rows values)).map fun pair => (pair.1 - 1, pair.2)) } :
              Problem K).forget := by
  obtain ⟨_, -, set⟩ := Except.bind_eq_ok_iff.mp set
  obtain ⟨_, columnChecked, set⟩ := Except.bind_eq_ok_iff.mp set
  obtain ⟨_, rowsChecked, set⟩ := Except.bind_eq_ok_iff.mp set
  have found := hasColumn_of_checkColumn wellFormed.columnLimit columnChecked
  have rowsFound := forall_hasRow wellFormed.rowLimit rowsChecked
  have inside : ∀ row ∈ rows, 1 ≤ row ∧ row ≤ problem.workspace.rows.length :=
    fun row member => Workspace.hasRow_natCast.mp (rowsFound row member)
  have few := (listed_lastValues inside values).few wellFormed.rowLimit
  rw [List.length_map] at few
  refine ⟨Workspace.hasColumn_natCast.mp found, inside, ?_⟩
  have called := (withPairs_unzip_bind _ _ _).symm.trans set
  rw [wellFormed.setColumn_narrow found ?_ few] at called
  · obtain ⟨_, ⟨⟩, rfl⟩ := change_eq_ok_iff.mp called
    rfl
  · intro pair member
    exact rowsFound pair.1 (mem_of_mem_lastValues_zip (List.mem_map_of_mem member))

/-- The row holds the last value of each column that is listed, and nothing else. -/
theorem cell_setRowCoefficients (wellFormed : problem.workspace.WellFormed) {row : Nat}
    {columns : List Nat} {values : List K}
    (set : problem.setRowCoefficients row columns values = .ok next) (i j : Nat) :
    next.cell i j =
      if i = row then lastListed (List.zip columns values) j else problem.cell i j := by
  obtain ⟨⟨first, last⟩, inside, rfl⟩ := setRowCoefficients_eq wellFormed set
  cases i with
  | zero => rw [if_neg (by omega), cell_zero_left, cell_zero_left]
  | succ i =>
      cases j with
      | zero =>
          rw [cell_zero_right, cell_zero_right, lastListed_zero (positive_zip inside values),
            ite_self]
      | succ j =>
          refine (Workspace.cell_replaceRow (by omega) _ i j).trans ?_
          rw [lastListed_pred (positive_lastValues inside values), lastListed_lastValues]
          congr 1
          rw [eq_iff_iff]
          omega

theorem cell_setColumnCoefficients (wellFormed : problem.workspace.WellFormed) {column : Nat}
    {rows : List Nat} {values : List K}
    (set : problem.setColumnCoefficients column rows values = .ok next) (i j : Nat) :
    next.cell i j =
      if j = column then lastListed (List.zip rows values) i else problem.cell i j := by
  obtain ⟨⟨first, last⟩, inside, rfl⟩ := setColumnCoefficients_eq wellFormed set
  cases j with
  | zero => rw [if_neg (by omega), cell_zero_right, cell_zero_right]
  | succ j =>
      cases i with
      | zero =>
          rw [cell_zero_left, cell_zero_left, lastListed_zero (positive_zip inside values),
            ite_self]
      | succ i =>
          refine (Workspace.cell_replaceColumn ?_ _ i j).trans ?_
          · refine List.forall_mem_map.mpr fun pair member => ?_
            have := inside pair.1 (mem_of_mem_lastValues_zip (List.mem_map_of_mem member))
            have := positive_lastValues inside values pair member
            omega
          · rw [lastListed_pred (positive_lastValues inside values), lastListed_lastValues]
            congr 1
            rw [eq_iff_iff]
            omega

omit [Scalar K] in
theorem forM_checkCell_iff {matrix : SparseMatrix K} :
    (matrix.toList.forM fun (row, column, _) => do
      problem.checkRow row
      problem.checkColumn column) = .ok () ↔ problem.Admits matrix := by
  rw [Except.forM_eq_ok_iff]
  refine forall₂_congr fun entry _ => ?_
  rw [← checkRow_eq_ok_iff, ← checkColumn_eq_ok_iff, Except.bind_eq_ok_iff]
  exact ⟨fun ⟨_, row, column⟩ => ⟨row, column⟩, fun checked => ⟨(), checked⟩⟩

theorem admits_of_loadMatrix {matrix : SparseMatrix K}
    (set : problem.loadMatrix matrix = .ok next) : problem.Admits matrix := by
  obtain ⟨_, checked, -⟩ := Except.bind_eq_ok_iff.mp set
  exact forM_checkCell_iff.mp checked

/-- A matrix that is admitted goes to the numbered call with every cell listed once.  The number
of its cells arrives in 32 bits, and a negative one is misused. -/
theorem loadMatrix_of_admits (wellFormed : problem.workspace.WellFormed)
    {matrix : SparseMatrix K} (admits : problem.Admits matrix) :
    problem.loadMatrix matrix =
      if Slots.narrow matrix.resolved.toList.length < 0 then
        .error (.misuse (.invalidCount (Slots.narrow matrix.resolved.toList.length)))
      else
        .ok ({ problem with
          workspace := problem.workspace.replaceMatrix ((matrix.resolved.toList.take
            (matrix.resolved.toList.length % Word.values32)).map
              fun entry => (entry.1 - 1, entry.2.1 - 1, entry.2.2)) } : Problem K).forget := by
  have found : ∀ entry ∈ matrix.resolved.toList,
      problem.workspace.HasRow entry.1 ∧ problem.workspace.HasColumn entry.2.1 := by
    intro entry member
    have inside := admits entry ((resolved_sublist matrix).subset member)
    rw [rowCount_eq wellFormed.rowLimit, columnCount_eq wellFormed.columnLimit] at inside
    exact ⟨Workspace.hasRow_natCast.mpr inside.1, Workspace.hasColumn_natCast.mpr inside.2⟩
  have called := wellFormed.loadMatrix_narrow (fun entry member => (found entry member).1)
    (fun entry member => (found entry member).2)
  rw [loadMatrix, forM_checkCell_iff.mpr admits, Except.ok_bind]
  rw [SparseMatrix.resolved, toList_ofList] at called ⊢
  refine (withTriplets_ofList_bind _ _ _).trans ?_
  rw [called]
  split <;> rfl

/-- The matrix holds the cells that arrive, and nothing else. -/
theorem cell_loadMatrix (wellFormed : problem.workspace.WellFormed) {matrix : SparseMatrix K}
    (set : problem.loadMatrix matrix = .ok next) (i j : Nat) :
    next.cell i j = lastListed ((matrix.resolved.toList.take
      (matrix.resolved.toList.length % Word.values32)).map SparseMatrix.atCell) (i, j) := by
  have inside := admits_of_loadMatrix set
  have within : ∀ entry ∈ matrix.resolved.toList.take
      (matrix.resolved.toList.length % Word.values32), entry ∈ matrix.toList :=
    fun _ member => (resolved_sublist matrix).subset (List.mem_of_mem_take member)
  rw [loadMatrix_of_admits wellFormed inside] at set
  rw [Admits, rowCount_eq wellFormed.rowLimit, columnCount_eq wellFormed.columnLimit] at inside
  split at set
  · cases set
  cases set
  cases i with
  | zero =>
      rw [cell_zero_left, SparseMatrix.lastListed_of_outside]
      intro entry member same
      have := inside entry (within entry member)
      have := congrArg Prod.fst same
      omega
  | succ i =>
      cases j with
      | zero =>
          rw [cell_zero_right, SparseMatrix.lastListed_of_outside]
          intro entry member same
          have := inside entry (within entry member)
          have := congrArg Prod.snd same
          omega
      | succ j =>
          refine (Workspace.cell_replaceMatrix ?_ i j).trans ?_
          · refine List.forall_mem_map.mpr fun entry member => ?_
            have := inside entry (within entry member)
            omega
          · apply SparseMatrix.lastListed_pred
            intro entry member
            have := inside entry (within entry member)
            omega

/-! ## Deletions -/

/-- What a deletion makes of a problem, given how the workspace loses what is at some positions:
with nothing to delete it does nothing at all. -/
def without (problem : Problem K) (remove : Workspace K → List Nat → Workspace K)
    (numbers : List Nat) : Problem K :=
  if numbers.isEmpty then problem
  else ({ problem with
    workspace := remove problem.workspace (numbers.map (· - 1)) } : Problem K).forget

theorem deleteRows_of_listed (wellFormed : problem.workspace.WellFormed) {rows : List Nat}
    (listed : Listed rows problem.rowCount) :
    problem.deleteRows rows = .ok (problem.without Workspace.dropRows rows) := by
  have inside := forM_checkRow_iff.mpr listed.inside
  have once : (checkDistinct [] rows : Except (Failure K) Unit) = .ok () :=
    checkDistinct_eq_ok_iff.mpr ⟨listed.once, fun _ _ => List.not_mem_nil⟩
  rw [rowCount_eq wellFormed.rowLimit] at listed
  rw [deleteRows, inside, Except.ok_bind, once, Except.ok_bind, without,
    wellFormed.withIndices_deleteRows listed]
  split <;> rfl

theorem deleteColumns_of_listed (wellFormed : problem.workspace.WellFormed) {columns : List Nat}
    (listed : Listed columns problem.columnCount) :
    problem.deleteColumns columns = .ok (problem.without Workspace.dropColumns columns) := by
  have inside := forM_checkColumn_iff.mpr listed.inside
  have once : (checkDistinct [] columns : Except (Failure K) Unit) = .ok () :=
    checkDistinct_eq_ok_iff.mpr ⟨listed.once, fun _ _ => List.not_mem_nil⟩
  rw [columnCount_eq wellFormed.columnLimit] at listed
  rw [deleteColumns, inside, Except.ok_bind, once, Except.ok_bind, without,
    wellFormed.withIndices_deleteColumns listed]
  split <;> rfl

theorem listed_of_deleteRows {rows : List Nat} (deleted : problem.deleteRows rows = .ok next) :
    Listed rows problem.rowCount := by
  obtain ⟨_, inside, deleted⟩ := Except.bind_eq_ok_iff.mp deleted
  obtain ⟨_, once, -⟩ := Except.bind_eq_ok_iff.mp deleted
  exact ⟨(checkDistinct_eq_ok_iff.mp once).1, forM_checkRow_iff.mp inside⟩

theorem listed_of_deleteColumns {columns : List Nat}
    (deleted : problem.deleteColumns columns = .ok next) :
    Listed columns problem.columnCount := by
  obtain ⟨_, inside, deleted⟩ := Except.bind_eq_ok_iff.mp deleted
  obtain ⟨_, once, -⟩ := Except.bind_eq_ok_iff.mp deleted
  exact ⟨(checkDistinct_eq_ok_iff.mp once).1, forM_checkColumn_iff.mp inside⟩

/-- Every row that is left has the coefficients of the row that it was. -/
theorem cell_withoutRows (problem : Problem K) {rows : List Nat}
    (positive : ∀ row ∈ rows, 1 ≤ row) (i j : Nat) :
    (problem.without Workspace.dropRows rows).cell i j = problem.cell (survivor rows i) j := by
  cases rows with
  | nil => rw [survivor_nil]; rfl
  | cons first rest =>
      cases i with
      | zero => rw [survivor_zero positive, cell_zero_left, cell_zero_left]
      | succ i =>
          cases j with
          | zero => rw [cell_zero_right, cell_zero_right]
          | succ j =>
              rw [survivor_succ positive]
              exact Workspace.cell_dropRows problem.workspace _ i j

theorem cell_withoutColumns (problem : Problem K) {columns : List Nat} {count : Nat}
    (listed : Listed columns count) (i j : Nat) :
    (problem.without Workspace.dropColumns columns).cell i j =
      problem.cell i (survivor columns j) := by
  cases columns with
  | nil => rw [survivor_nil]; rfl
  | cons first rest =>
      cases j with
      | zero => rw [survivor_zero listed.positive, cell_zero_right, cell_zero_right]
      | succ j =>
          cases i with
          | zero => rw [cell_zero_left, cell_zero_left]
          | succ i =>
              rw [survivor_succ listed.positive]
              exact Workspace.cell_dropColumns listed.nodup_pred i j

end Problem

end LinearProgramming
