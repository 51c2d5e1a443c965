import LinearProgramming.Proofs.Problem.Coefficients
import LinearProgramming.Proofs.Problem.History

/-!
# Deletions

A deletion takes out what is listed and renumbers the rest in order: names, bounds, kinds, costs
and coefficients all move as the numbers do, by the same function of the list.  The order of the
list does not matter, and two deletions after one another are one deletion of all that they take
out.
-/

namespace LinearProgramming

variable {K : Type} [Scalar K]

namespace Listed

variable {numbers later : List Nat} {count : Nat}

theorem perm (listed : Listed numbers count) {others : List Nat} (same : others.Perm numbers) :
    Listed others count where
  once := same.nodup_iff.mpr listed.once
  inside number member := listed.inside number (same.mem_iff.mp member)

theorem mono {more : Nat} (listed : Listed numbers count) (le : count ≤ more) :
    Listed numbers more where
  once := listed.once
  inside number member :=
    have := listed.inside number member
    ⟨this.1, Nat.le_trans this.2 le⟩

theorem survivor_le (listed : Listed numbers count) {number : Nat}
    (small : number + numbers.length ≤ count) : survivor numbers number ≤ count := by
  have inside : ∀ old ∈ numbers, old < count + 1 :=
    fun old member => Nat.lt_succ_of_le (listed.inside old member).2
  exact Nat.le_of_lt_succ (survivor_lt listed.once inside (by omega))

theorem union (listed : Listed numbers count)
    (laterListed : Listed later (count - numbers.length)) :
    Listed (numbers ++ later.map (survivor numbers)) count where
  once := by
    refine List.nodup_append'.mpr
      ⟨listed.once, laterListed.once.map (survivor_injective numbers), ?_⟩
    intro number member moved
    obtain ⟨place, -, rfl⟩ := List.mem_map.mp moved
    exact survivor_not_mem numbers place member
  inside number member := by
    rcases List.mem_append.mp member with first | moved
    · exact listed.inside number first
    · obtain ⟨place, second, rfl⟩ := List.mem_map.mp moved
      have within := laterListed.inside place second
      have fits := listed.length_le
      exact ⟨Nat.le_trans within.1 (le_survivor numbers place), listed.survivor_le (by omega)⟩

end Listed

/-! ## Deletions in a workspace -/

omit [Scalar K] in
theorem SparseRow.renumber_renumber {first later all : List Nat} (firstOnce : first.Nodup)
    (laterOnce : later.Nodup) (allOnce : all.Nodup) (combines : Combines first later all)
    (row : SparseRow K) :
    (row.renumber (Workspace.newPosition first)).renumber (Workspace.newPosition later) =
      row.renumber (Workspace.newPosition all) := by
  apply SparseRow.ext_get?
  intro column
  rw [get?_renumber _ fun _ _ => Workspace.newPosition_eq_some_iff laterOnce,
    get?_renumber _ fun _ _ => Workspace.newPosition_eq_some_iff firstOnce,
    get?_renumber _ fun _ _ => Workspace.newPosition_eq_some_iff allOnce,
    combines.survivor_survivor]

namespace Workspace

/-- To take out what is at some positions: their order does not matter, and doing it twice is doing
it once. -/
structure Renumbers (remove : Workspace K → List Nat → Workspace K) : Prop where
  wellFormed : ∀ (workspace : Workspace K) (positions : List Nat), workspace.InRange →
    (remove workspace positions).WellFormed
  perm : ∀ (workspace : Workspace K) (first others : List Nat), first.Perm others →
    remove workspace first = remove workspace others
  combine : ∀ (workspace : Workspace K) (first later all : List Nat), first.Nodup →
    later.Nodup → all.Nodup → Combines first later all →
      remove (remove workspace first) later = remove workspace all

theorem renumbers_dropRows : Renumbers (dropRows (K := K)) where
  wellFormed _ positions inRange := inRange.dropRows positions
  perm workspace _ _ same := dropRows_perm same workspace
  combine workspace first later all _ _ _ combines := by
    simp only [dropRows, discard, keepOthers_keepOthers combines]

theorem renumbers_dropColumns : Renumbers (dropColumns (K := K)) where
  wellFormed _ positions inRange := inRange.dropColumns positions
  perm workspace _ _ same := dropColumns_perm same workspace
  combine workspace first later all firstOnce laterOnce allOnce combines := by
    simp only [dropColumns, discard, keepOthers_keepOthers combines, List.map_map,
      Function.comp_def, SparseRow.renumber_renumber firstOnce laterOnce allOnce combines]

end Workspace

/-! ## Deletions in a problem -/

namespace Problem

variable {remove : Workspace K → List Nat → Workspace K} {problem : Problem K}
  {first later all others : List Nat} {count laterCount : Nat}

omit [Scalar K] in
theorem without_of_ne_nil (problem : Problem K) (remove : Workspace K → List Nat → Workspace K)
    {numbers : List Nat} (some : numbers ≠ []) :
    problem.without remove numbers = ({ problem with
      workspace := remove problem.workspace (numbers.map (· - 1)) } : Problem K).forget := by
  rw [without, if_neg (by simpa using some)]

omit [Scalar K] in
theorem without_wellFormed (renumbers : Workspace.Renumbers remove)
    (wellFormed : problem.workspace.WellFormed) (numbers : List Nat) :
    (problem.without remove numbers).workspace.WellFormed := by
  rw [without]
  split
  · exact wellFormed
  · exact renumbers.wellFormed _ _ wellFormed.toInRange

omit [Scalar K] in
theorem without_congr (renumbers : Workspace.Renumbers remove) (listed : Listed first count)
    (otherListed : Listed others count) (same : ∀ number, number ∈ first ↔ number ∈ others) :
    problem.without remove first = problem.without remove others := by
  have reordered := (List.perm_ext_iff_of_nodup listed.once otherListed.once).mpr same
  rw [without, without, reordered.isEmpty_eq,
    renumbers.perm problem.workspace _ _ (reordered.map _)]

omit [Scalar K] in
/-- Two deletions after one another are one deletion of all that they take out. -/
theorem without_without (renumbers : Workspace.Renumbers remove) (listed : Listed first count)
    (laterListed : Listed later laterCount) (fewer : laterCount ≤ count)
    (allListed : Listed all count) (combines : Combines first later all) :
    (problem.without remove first).without remove later = problem.without remove all := by
  -- An empty list leaves the problem as it is, solve records included.
  cases first with
  | nil =>
      change problem.without remove later = _
      apply without_congr renumbers (laterListed.mono fewer) allListed
      simp [combines _]
  | cons number numbers =>
      cases later with
      | nil =>
          change problem.without remove (number :: numbers) = _
          apply without_congr renumbers listed allListed
          simp [combines _]
      | cons place places =>
          have some : all ≠ [] :=
            List.ne_nil_of_mem ((combines number).mpr (.inl List.mem_cons_self))
          rw [without_of_ne_nil _ _ some, without_of_ne_nil _ _ (List.cons_ne_nil place places),
            without_of_ne_nil _ _ (List.cons_ne_nil number numbers),
            ← renumbers.combine problem.workspace _ _ _ listed.nodup_pred laterListed.nodup_pred
              allListed.nodup_pred (combines.pred listed.positive laterListed.positive
                allListed.positive)]
          rfl

end Problem

/-! ## What a deletion leaves -/

structure SameRow (problem next : Problem K) (old new : Nat) : Prop where
  name : next.rowName new = problem.rowName old
  bounds : next.rowBounds new = problem.rowBounds old

structure SameColumn (problem next : Problem K) (old new : Nat) : Prop where
  name : next.columnName new = problem.columnName old
  bounds : next.columnBounds new = problem.columnBounds old
  kind : next.columnKind new = problem.columnKind old
  cost : next.objectiveCoefficient new = problem.objectiveCoefficient old

structure ColumnsDeleted (columns : List Nat) (problem next : Problem K) : Prop where
  columnCount : next.columnCount + columns.length = problem.columnCount
  rowCount : next.rowCount = problem.rowCount
  column : ∀ column, 1 ≤ column → column ≤ next.columnCount →
    SameColumn problem next (survivor columns column) column
  row : ∀ row, 1 ≤ row → row ≤ next.rowCount → SameRow problem next row row
  cell : ∀ row column, next.cell row column = problem.cell row (survivor columns column)
  name : next.name = problem.name
  direction : next.direction = problem.direction
  constant : next.objectiveConstant = problem.objectiveConstant

structure RowsDeleted (rows : List Nat) (problem next : Problem K) : Prop where
  rowCount : next.rowCount + rows.length = problem.rowCount
  columnCount : next.columnCount = problem.columnCount
  row : ∀ row, 1 ≤ row → row ≤ next.rowCount →
    SameRow problem next (survivor rows row) row
  column : ∀ column, 1 ≤ column → column ≤ next.columnCount →
    SameColumn problem next column column
  cell : ∀ row column, next.cell row column = problem.cell (survivor rows row) column
  name : next.name = problem.name
  direction : next.direction = problem.direction
  constant : next.objectiveConstant = problem.objectiveConstant

section Leaving

variable {problem next : Problem K}

omit [Scalar K] in
/-- A read of a row that is there looks at that row. -/
theorem read_row (wellFormed : problem.workspace.WellFormed) {row : Nat} {current : WorkRow K}
    (at_row : problem.workspace.rows[row]? = some current) {A : Type}
    (answer : WorkRow K → Except (Failure K) A) :
    (problem.checkRow (row + 1) >>= fun _ =>
      Failure.lift (problem.workspace.rowAt (Slots.narrow (row + 1))) >>= answer) =
        answer current := by
  have inside := (List.getElem?_eq_some_iff.mp at_row).1
  rw [Problem.checkRow_succ wellFormed inside, Except.ok_bind,
    Problem.narrow_row wellFormed inside, Workspace.rowAt_eq at_row]
  rfl

theorem read_column (wellFormed : problem.workspace.WellFormed) {column : Nat}
    {current : WorkColumn K} (at_column : problem.workspace.columns[column]? = some current)
    {A : Type} (answer : WorkColumn K → Except (Failure K) A) :
    (problem.checkColumn (column + 1) >>= fun _ =>
      Failure.lift (problem.workspace.columnAt (Slots.narrow (column + 1))) >>= answer) =
        answer current := by
  have inside := (List.getElem?_eq_some_iff.mp at_column).1
  rw [Problem.checkColumn_succ wellFormed inside, Except.ok_bind,
    Problem.narrow_column wellFormed inside, Workspace.columnAt_eq at_column]
  rfl

theorem objectiveCoefficient_eq (wellFormed : problem.workspace.WellFormed) {column : Nat}
    {current : WorkColumn K} (at_column : problem.workspace.columns[column]? = some current) :
    problem.objectiveCoefficient (column + 1) = .ok current.cost := by
  have inside := (List.getElem?_eq_some_iff.mp at_column).1
  have positive : ((column + 1 : Nat) : Int) ≠ 0 := by omega
  rw [Problem.objectiveCoefficient, Problem.checkColumn_succ wellFormed inside, Except.ok_bind,
    Problem.narrow_column wellFormed inside, Workspace.objectiveAt, if_neg positive,
    Workspace.columnAt_eq at_column]
  rfl

theorem rowBounds_eq (wellFormed : problem.workspace.WellFormed) {row : Nat} {current : WorkRow K}
    (at_row : problem.workspace.rows[row]? = some current) :
    problem.rowBounds (row + 1) = .ok (Interval.ofBound current.bound) :=
  (read_row wellFormed at_row fun found => Problem.interval found.bound).trans
    (Problem.interval_eq current.bound)

theorem columnBounds_eq (wellFormed : problem.workspace.WellFormed) {column : Nat}
    {current : WorkColumn K} (at_column : problem.workspace.columns[column]? = some current) :
    problem.columnBounds (column + 1) = .ok (Interval.ofBound current.bound) :=
  (read_column wellFormed at_column fun found => Problem.interval found.bound).trans
    (Problem.interval_eq current.bound)

theorem columnKind_eq (wellFormed : problem.workspace.WellFormed) {column : Nat}
    {current : WorkColumn K} (at_column : problem.workspace.columns[column]? = some current) :
    problem.columnKind (column + 1) = .ok current.kind :=
  (read_column wellFormed at_column fun found =>
    Failure.decode (Workspace.kindNumber found)).trans (Problem.decode_kindNumber current)

theorem sameRow_of_at (wellFormed : problem.workspace.WellFormed)
    (nextFormed : next.workspace.WellFormed) {old new : Nat} {current after : WorkRow K}
    (at_old : problem.workspace.rows[old]? = some current)
    (at_new : next.workspace.rows[new]? = some after) (name : after.name = current.name)
    (bound : after.bound = current.bound) : SameRow problem next (old + 1) (new + 1) where
  name := by
    have before := read_row wellFormed at_old fun row => pure row.name
    have now := read_row nextFormed at_new fun row => pure row.name
    rw [name] at now
    exact now.trans before.symm
  bounds := by rw [rowBounds_eq nextFormed at_new, rowBounds_eq wellFormed at_old, bound]

theorem sameColumn_of_at (wellFormed : problem.workspace.WellFormed)
    (nextFormed : next.workspace.WellFormed) {old new : Nat} {current : WorkColumn K}
    (at_old : problem.workspace.columns[old]? = some current)
    (at_new : next.workspace.columns[new]? = some current) :
    SameColumn problem next (old + 1) (new + 1) where
  name := (read_column nextFormed at_new fun column => pure column.name).trans
    (read_column wellFormed at_old fun column => pure column.name).symm
  bounds := (columnBounds_eq nextFormed at_new).trans (columnBounds_eq wellFormed at_old).symm
  kind := (columnKind_eq nextFormed at_new).trans (columnKind_eq wellFormed at_old).symm
  cost := (objectiveCoefficient_eq nextFormed at_new).trans
    (objectiveCoefficient_eq wellFormed at_old).symm

end Leaving

namespace Problem

variable {problem : Problem K}

/-! ### Columns -/

theorem columns_without_columns (problem : Problem K) (columns : List Nat) (place : Nat) :
    (problem.without Workspace.dropColumns columns).workspace.columns[place]? =
      problem.workspace.columns[survivor (columns.map (· - 1)) place]? := by
  cases columns with
  | nil => rw [List.map_nil, survivor_nil]; rfl
  | cons column columns => exact Workspace.getElem?_keepOthers problem.workspace.columns _ place

theorem length_columns_without_columns {columns : List Nat}
    (listed : Listed columns problem.workspace.columns.length) :
    (problem.without Workspace.dropColumns columns).workspace.columns.length + columns.length =
      problem.workspace.columns.length := by
  cases columns with
  | nil => rfl
  | cons column columns =>
      have counted := Workspace.length_keepOthers_add listed.nodup_pred listed.lt_pred
      rwa [List.length_map] at counted

theorem length_rows_without_columns (problem : Problem K) (columns : List Nat) :
    (problem.without Workspace.dropColumns columns).workspace.rows.length =
      problem.workspace.rows.length := by
  cases columns with
  | nil => rfl
  | cons column columns => exact List.length_map _

theorem exists_row_without_columns {row : Nat} {current : WorkRow K}
    (at_row : problem.workspace.rows[row]? = some current) (columns : List Nat) :
    ∃ after, (problem.without Workspace.dropColumns columns).workspace.rows[row]? = some after ∧
      after.name = current.name ∧ after.bound = current.bound := by
  cases columns with
  | nil => exact ⟨current, at_row, rfl, rfl⟩
  | cons column columns =>
      refine ⟨_, (List.getElem?_map).trans (congrArg (Option.map _) at_row), rfl, rfl⟩

theorem columnsDeleted_without (wellFormed : problem.workspace.WellFormed) {columns : List Nat}
    (listed : Listed columns problem.columnCount) :
    ColumnsDeleted columns problem (problem.without Workspace.dropColumns columns) := by
  have nextFormed := without_wellFormed Workspace.renumbers_dropColumns wellFormed columns
  have stored := columnCount_eq wellFormed.columnLimit ▸ listed
  have left := length_columns_without_columns stored
  constructor
  case columnCount =>
    rwa [columnCount_eq nextFormed.columnLimit, columnCount_eq wellFormed.columnLimit]
  case rowCount =>
    rw [rowCount_eq nextFormed.rowLimit, rowCount_eq wellFormed.rowLimit,
      length_rows_without_columns]
  case column =>
    intro column first last
    rw [columnCount_eq nextFormed.columnLimit] at last
    obtain ⟨column, rfl⟩ := Nat.exists_eq_add_of_le' first
    have at_new := List.getElem?_eq_getElem last
    rw [survivor_succ listed.positive]
    exact sameColumn_of_at wellFormed nextFormed
      ((columns_without_columns problem columns column).symm.trans at_new) at_new
  case row =>
    intro row first last
    rw [rowCount_eq nextFormed.rowLimit, length_rows_without_columns] at last
    obtain ⟨row, rfl⟩ := Nat.exists_eq_add_of_le' first
    have at_old := List.getElem?_eq_getElem last
    obtain ⟨after, at_new, name, bound⟩ := exists_row_without_columns at_old columns
    exact sameRow_of_at wellFormed nextFormed at_old at_new name bound
  case cell => exact cell_withoutColumns problem listed
  all_goals cases columns <;> rfl

/-! ### Rows -/

theorem rows_without_rows (problem : Problem K) (rows : List Nat) (place : Nat) :
    (problem.without Workspace.dropRows rows).workspace.rows[place]? =
      problem.workspace.rows[survivor (rows.map (· - 1)) place]? := by
  cases rows with
  | nil => rw [List.map_nil, survivor_nil]; rfl
  | cons row rows => exact Workspace.getElem?_keepOthers problem.workspace.rows _ place

theorem length_rows_without_rows {rows : List Nat}
    (listed : Listed rows problem.workspace.rows.length) :
    (problem.without Workspace.dropRows rows).workspace.rows.length + rows.length =
      problem.workspace.rows.length := by
  cases rows with
  | nil => rfl
  | cons row rows =>
      have counted := Workspace.length_keepOthers_add listed.nodup_pred listed.lt_pred
      rwa [List.length_map] at counted

theorem columns_without_rows (problem : Problem K) (rows : List Nat) :
    (problem.without Workspace.dropRows rows).workspace.columns = problem.workspace.columns := by
  cases rows <;> rfl

theorem rowsDeleted_without (wellFormed : problem.workspace.WellFormed) {rows : List Nat}
    (listed : Listed rows problem.rowCount) :
    RowsDeleted rows problem (problem.without Workspace.dropRows rows) := by
  have nextFormed := without_wellFormed Workspace.renumbers_dropRows wellFormed rows
  have stored := rowCount_eq wellFormed.rowLimit ▸ listed
  have left := length_rows_without_rows stored
  constructor
  case rowCount => rwa [rowCount_eq nextFormed.rowLimit, rowCount_eq wellFormed.rowLimit]
  case columnCount =>
    rw [columnCount_eq nextFormed.columnLimit, columnCount_eq wellFormed.columnLimit,
      columns_without_rows]
  case row =>
    intro row first last
    rw [rowCount_eq nextFormed.rowLimit] at last
    obtain ⟨row, rfl⟩ := Nat.exists_eq_add_of_le' first
    have at_new := List.getElem?_eq_getElem last
    rw [survivor_succ listed.positive]
    exact sameRow_of_at wellFormed nextFormed
      ((rows_without_rows problem rows row).symm.trans at_new) at_new rfl rfl
  case column =>
    intro column first last
    rw [columnCount_eq nextFormed.columnLimit] at last
    obtain ⟨column, rfl⟩ := Nat.exists_eq_add_of_le' first
    have at_new := List.getElem?_eq_getElem last
    refine sameColumn_of_at wellFormed nextFormed ?_ at_new
    rw [← columns_without_rows problem rows]
    exact at_new
  case cell => exact cell_withoutRows problem listed.positive
  all_goals cases rows <;> rfl

/-! ### Lists in another order, and lists in two parts -/

/-- How deletions by lists of numbers behave, given how many numbers there are and what is left of
a problem: a list without repetitions goes through in every order with one result, and so does one
in two parts, of which the second is numbered after the first is gone. -/
def DeletesBy (delete : Problem K → List Nat → Except (Failure K) (Problem K))
    (count : Problem K → Nat) (Left : List Nat → Problem K → Problem K → Prop)
    (problem : Problem K) : Prop :=
  ∀ first, Listed first (count problem) → ∃ next,
    Left first problem next ∧ (∀ order, order.Perm first → delete problem order = .ok next) ∧
      ∀ second, Listed second (count next) → ∃ final,
        delete next second = .ok final ∧ Left second next final ∧
          ∀ all, all.Perm (first ++ second.map (survivor first)) → delete problem all = .ok final

omit [Scalar K] in
theorem deletesBy_of_renumbers {delete : Problem K → List Nat → Except (Failure K) (Problem K)}
    {count : Problem K → Nat} {Left : List Nat → Problem K → Problem K → Prop}
    {remove : Workspace K → List Nat → Workspace K} (renumbers : Workspace.Renumbers remove)
    (made : ∀ (problem : Problem K) (numbers : List Nat), problem.workspace.WellFormed →
      Listed numbers (count problem) →
        delete problem numbers = .ok (problem.without remove numbers))
    (leaves : ∀ (problem : Problem K) (numbers : List Nat), problem.workspace.WellFormed →
      Listed numbers (count problem) → Left numbers problem (problem.without remove numbers))
    (counted : ∀ (problem : Problem K) (numbers : List Nat), problem.workspace.WellFormed →
      Listed numbers (count problem) →
        count (problem.without remove numbers) + numbers.length = count problem)
    (wellFormed : problem.workspace.WellFormed) :
    DeletesBy delete count Left problem := by
  intro first listed
  have nextFormed := without_wellFormed renumbers wellFormed first
  refine ⟨problem.without remove first, leaves problem first wellFormed listed, ?_, ?_⟩
  · intro order same
    have reordered := listed.perm same
    rw [made problem order wellFormed reordered,
      without_congr renumbers reordered listed fun _ => same.mem_iff]
  · intro second secondListed
    refine ⟨_, made _ second nextFormed secondListed, leaves _ second nextFormed secondListed, ?_⟩
    intro all same
    have total := counted problem first wellFormed listed
    have rest : Listed second (count problem - first.length) :=
      secondListed.mono (by omega)
    have allListed := (listed.union rest).perm same
    have combines : Combines first second all := by
      intro number
      rw [same.mem_iff, List.mem_append, List.mem_map]
    rw [made problem all wellFormed allListed,
      without_without renumbers listed secondListed (by omega) allListed combines]

end Problem

namespace History

open Problem

variable {events : List (Event K)} {problem : Problem K}

/-- After every history, deletions of columns and of rows renumber what is left consistently. -/
theorem deletes_consistently (history : History events problem) :
    DeletesBy deleteColumns columnCount ColumnsDeleted problem ∧
      DeletesBy deleteRows rowCount RowsDeleted problem := by
  have wellFormed := history.wellFormed
  constructor
  · exact deletesBy_of_renumbers Workspace.renumbers_dropColumns
      (fun _ _ formed listed => deleteColumns_of_listed formed listed)
      (fun _ _ formed listed => columnsDeleted_without formed listed)
      (fun _ _ formed listed => (columnsDeleted_without formed listed).columnCount) wellFormed
  · exact deletesBy_of_renumbers Workspace.renumbers_dropRows
      (fun _ _ formed listed => deleteRows_of_listed formed listed)
      (fun _ _ formed listed => rowsDeleted_without formed listed)
      (fun _ _ formed listed => (rowsDeleted_without formed listed).rowCount) wellFormed

/-- A row over four columns, of which the last and the first are deleted, and then the one that
was the third. -/
theorem deletes_consistently_four :
    ∃ (problem next final : Problem ℚ), (∃ events, History events problem) ∧
      problem.cell 1 2 = some 6 ∧
      problem.deleteColumns [4, 1] = .ok next ∧ next.deleteColumns [2] = .ok final ∧
      problem.deleteColumns [3, 4, 1] = .ok final ∧ final.columnCount = 1 ∧
      final.cell 1 1 = some 6 := by
  have rows := History.returned (.edit (.addRows 1)) (History.create (K := ℚ)) rfl
  have columns := History.returned (.edit (.addColumns 4)) rows rfl
  have history :=
    History.returned (.edit (.setRowCoefficients 1 [1, 2, 4] [5, 6, 7])) columns (by rfl)
  have listed : Listed [1, 4] 4 := ⟨by decide, by decide⟩
  obtain ⟨next, deleted, orders, later⟩ := history.deletes_consistently.1 [1, 4] listed
  have two : next.columnCount + 2 = 4 := deleted.columnCount
  have laterListed : Listed [2] next.columnCount :=
    ⟨by decide, List.forall_mem_singleton.mpr (by omega)⟩
  obtain ⟨final, gone, deletedLater, parts⟩ := later [2] laterListed
  have one : final.columnCount + 1 = next.columnCount := deletedLater.columnCount
  have third : survivor [1, 4] 2 = 3 := survivor_eq_iff.mpr ⟨by decide, by decide⟩
  have second : survivor [1, 4] 1 = 2 := survivor_eq_iff.mpr ⟨by decide, by decide⟩
  have same : survivor [2] 1 = 1 := survivor_eq_iff.mpr ⟨by decide, by decide⟩
  refine ⟨_, next, final, ⟨_, history⟩, by rfl, orders _ (by decide), gone, parts _ ?_, by omega,
    ?_⟩
  · rw [List.map_singleton, third]
    decide
  · rw [deletedLater.cell, same, deleted.cell, second]
    rfl

end History

end LinearProgramming
