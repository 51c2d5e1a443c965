import LinearProgramming.Proofs.Problem.Distinct

/-!
# The matrix of a problem as a finite map

A chart has a value, or none, at each row and column.  Each operation that is done redraws it by a
rule of its own, which knows nothing of how coefficients are stored, of repeated entries or of
arrays and their sizes.  The one operation that can do something else is a load of more cells than
32 bits count: the chart then starts anew from what is stored.  After every history the problem
stores and shows what its chart says: by rows and by columns in ascending order, and in number.
-/

namespace LinearProgramming

variable {K : Type} [Scalar K]

/-- The values at the rows and columns of a matrix, which are counted from one. -/
abbrev Chart (K : Type) : Type := Nat → Nat → Option K

omit [Scalar K] in
/-- What a change makes of a chart: coefficients that are set replace a row, a column or the whole
by the last values that are listed, and what is left after a deletion moves up. -/
noncomputable def Edit.redraw (chart : Chart K) : Edit K → Chart K
  | setRowCoefficients row columns values => fun i j =>
      if i = row then lastListed (List.zip columns values) j else chart i j
  | setColumnCoefficients column rows values => fun i j =>
      if j = column then lastListed (List.zip rows values) i else chart i j
  | loadMatrix matrix => fun i j => lastListed (matrix.toList.map SparseMatrix.atCell) (i, j)
  | deleteRows rows => fun i j => chart (survivor rows i) j
  | deleteColumns columns => fun i j => chart i (survivor columns j)
  | _ => chart

noncomputable def Request.redraw (chart : Chart K) : Request K → Chart K
  | edit update => update.redraw chart
  | _ => chart

omit [Scalar K] in
/-- A load lists no more cells than 32 bits can count. -/
def Edit.Countable : Edit K → Prop
  | loadMatrix matrix => matrix.cells.card < Word.values32
  | _ => True

def Request.Countable : Request K → Prop
  | edit update => update.Countable
  | _ => True

/-- The chart at the end of a sequence of operations: it is empty at first, an operation that
returns redraws it, and one that stops does not. -/
inductive Charted : List (Event K) → Problem K → Chart K → Prop
  | create : Charted [] .empty fun _ _ => none
  | copy {events problem chart} : Charted events problem chart → Charted [] problem.copy chart
  | returned {events problem next chart} (request : Request K) {value} :
      Charted events problem chart → request.Countable →
      (request.steps .plain).run problem = .ok value next →
      Charted (⟨request, .ok value⟩ :: events) next (request.redraw chart)
  -- No rule says what becomes of the chart here, so it starts anew from what is stored.
  | restarted {events problem next chart} (request : Request K) {value} :
      Charted events problem chart → ¬request.Countable →
      (request.steps .plain).run problem = .ok value next →
      Charted (⟨request, .ok value⟩ :: events) next next.cell
  | stopped {events problem next chart} (request : Request K) {stop} :
      Charted events problem chart → (request.steps .plain).run problem = .error stop next →
      stop ≠ .halt .unfinished → Charted (⟨request, .error stop⟩ :: events) next chart

section Following

variable {events : List (Event K)} {problem next : Problem K} {chart : Chart K}

theorem Charted.history (charted : Charted events problem chart) : History events problem := by
  induction charted with
  | create => exact .create
  | copy _ inductionHypothesis => exact .copy inductionHypothesis
  | returned request _ _ ends inductionHypothesis =>
      exact .returned request inductionHypothesis ends
  | restarted request _ _ ends inductionHypothesis =>
      exact .returned request inductionHypothesis ends
  | stopped request _ ends ended inductionHypothesis =>
      exact .stopped request inductionHypothesis ends ended

theorem History.exists_charted (history : History events problem) :
    ∃ chart, Charted events problem chart := by
  induction history with
  | create => exact ⟨_, .create⟩
  | copy _ inductionHypothesis =>
      obtain ⟨chart, charted⟩ := inductionHypothesis
      exact ⟨chart, charted.copy⟩
  | returned request _ ends inductionHypothesis =>
      obtain ⟨chart, charted⟩ := inductionHypothesis
      by_cases countable : request.Countable
      · exact ⟨_, charted.returned request countable ends⟩
      · exact ⟨_, charted.restarted request countable ends⟩
  | stopped request _ ends ended inductionHypothesis =>
      obtain ⟨chart, charted⟩ := inductionHypothesis
      exact ⟨chart, charted.stopped request ends ended⟩

/-! ## Each operation redraws what is stored -/

namespace Problem

omit [Scalar K] in
theorem cell_congr (same : next.workspace.cell = problem.workspace.cell) :
    next.cell = problem.cell := by
  funext row column
  cases row with
  | zero => rfl
  | succ row =>
      cases column with
      | zero => rfl
      | succ column => exact congrFun (congrFun same row) column

omit [Scalar K] in
theorem cell_of_sameData (same : problem.workspace.SameData next.workspace) :
    next.cell = problem.cell :=
  cell_congr (Workspace.cell_congr (congrArg (List.map (·.cells)) same.rows))

end Problem

namespace Edit

open Problem

def movesCells : Edit K → Bool
  | setRowCoefficients _ _ _ => true
  | setColumnCoefficients _ _ _ => true
  | loadMatrix _ => true
  | deleteRows _ => true
  | deleteColumns _ => true
  | _ => false

theorem movesCells_of_plan {cast : Cast K} {edit : Edit K} {command : Command K}
    (planned : edit.plan cast problem = .ok (some command)) :
    command.movesCells = edit.movesCells := by
  cases plans_of_plan planned <;> rfl

theorem cell_of_not_movesCells {edit : Edit K} {index : Option Nat}
    (keeps : edit.movesCells = false) (ran : edit.run problem = .ok (next, index)) :
    next.cell = problem.cell := by
  rcases plan_of_run ran with ⟨-, rfl⟩ | ⟨command, workspace, number, planned, called, rfl⟩
  · rfl
  · have kept := Workspace.cell_run ((movesCells_of_plan planned).trans keeps) called
    apply Problem.cell_congr
    split <;> exact kept

/-- A change that is made redraws the coefficients as it says. -/
theorem cell_run (wellFormed : problem.workspace.WellFormed) {edit : Edit K}
    {index : Option Nat} (countable : edit.Countable)
    (ran : edit.run problem = .ok (next, index)) : next.cell = edit.redraw problem.cell := by
  cases edit with
  | setRowCoefficients row columns values =>
      obtain ⟨_, set, ⟨⟩⟩ := Except.bind_eq_ok_iff.mp ran
      funext i j
      exact cell_setRowCoefficients wellFormed set i j
  | setColumnCoefficients column rows values =>
      obtain ⟨_, set, ⟨⟩⟩ := Except.bind_eq_ok_iff.mp ran
      funext i j
      exact cell_setColumnCoefficients wellFormed set i j
  | loadMatrix matrix =>
      obtain ⟨_, set, ⟨⟩⟩ := Except.bind_eq_ok_iff.mp ran
      funext i j
      exact cell_loadMatrix_of_lt wellFormed set countable i j
  | deleteRows rows =>
      obtain ⟨_, deleted, ⟨⟩⟩ := Except.bind_eq_ok_iff.mp ran
      have listed := listed_of_deleteRows deleted
      obtain rfl := Except.ok.inj ((deleteRows_of_listed wellFormed listed).symm.trans deleted)
      funext i j
      exact cell_withoutRows problem listed.positive i j
  | deleteColumns columns =>
      obtain ⟨_, deleted, ⟨⟩⟩ := Except.bind_eq_ok_iff.mp ran
      have listed := listed_of_deleteColumns deleted
      obtain rfl := Except.ok.inj
        ((deleteColumns_of_listed wellFormed listed).symm.trans deleted)
      funext i j
      exact cell_withoutColumns problem listed i j
  | _ => exact cell_of_not_movesCells rfl ran

end Edit

namespace Request

open Problem

theorem cell_of_returned (wellFormed : problem.workspace.WellFormed) {request : Request K}
    {value : Return K} (countable : request.Countable)
    (ends : (request.steps .plain).run problem = .ok value next) :
    next.cell = request.redraw problem.cell := by
  have responds := respond_of_returned wellFormed ends
  cases request with
  | edit update =>
      rcases respond_edit responds with ⟨index, -, ran⟩ | ⟨⟨failure, failed⟩, -⟩
      · exact update.cell_run wellFormed countable ran
      · cases failed
  | inquire inquiry =>
      rw [respond] at responds
      cases answered : inquiry.answer problem with
      | error failure =>
          rw [answered] at responds
          cases responds
      | ok reply =>
          rw [answered] at responds
          cases responds
          rfl
  | solve steps timing config =>
      cases checked : config.validate with
      | error invalid => cases (respond_invalid checked responds).2
      | ok valid =>
          obtain ⟨answer, concluded, -⟩ :=
            respond_solve_concluded wellFormed checked responds
          exact cell_of_sameData concluded.data

theorem cell_of_stopped (wellFormed : problem.workspace.WellFormed) {request : Request K}
    {stop : Stop K} (ends : (request.steps .plain).run problem = .error stop next)
    (ended : stop ≠ .halt .unfinished) : next.cell = problem.cell := by
  cases request with
  | edit update => rw [eq_of_stopped wellFormed rfl ends]
  | inquire inquiry => rw [eq_of_stopped wellFormed rfl ends]
  | solve steps timing config =>
      obtain ⟨failure, responds, -⟩ := respond_of_stopped wellFormed ends ended
      cases checked : config.validate with
      | error invalid => rw [(respond_invalid checked responds).1]
      | ok valid =>
          obtain ⟨answer, concluded, -⟩ :=
            respond_solve_concluded wellFormed checked responds
          exact cell_of_sameData concluded.data

end Request

/-- A problem stores at every row and column what its chart says. -/
theorem Charted.cell_eq (charted : Charted events problem chart) : problem.cell = chart := by
  induction charted with
  | create =>
      funext row column
      cases row <;> cases column <;> rfl
  | copy charted inductionHypothesis =>
      exact (Problem.cell_of_sameData (Workspace.copy_sameData _)).trans inductionHypothesis
  | returned request charted countable ends inductionHypothesis =>
      rw [request.cell_of_returned charted.history.wellFormed countable ends, inductionHypothesis]
  | restarted => rfl
  | stopped request charted ends ended inductionHypothesis =>
      rw [request.cell_of_stopped charted.history.wellFormed ends ended, inductionHypothesis]

end Following

/-! ## What a problem shows of its coefficients -/

section Showing

variable {problem : Problem K}

/-- The coefficients that a problem shows are those of a chart: row by row and column by column in
ascending order, and in number. -/
structure Problem.Shows (problem : Problem K) (chart : Chart K) : Prop where
  inside : ∀ row column value, chart row column = some value →
    (1 ≤ row ∧ row ≤ problem.rowCount) ∧ 1 ≤ column ∧ column ≤ problem.columnCount
  rows : ∀ row, 1 ≤ row → row ≤ problem.rowCount → ∃ pairs,
    problem.rowCoefficients row = .ok pairs ∧
      (pairs.Pairwise fun left right => left.1 < right.1) ∧
        ∀ column value, (column, value) ∈ pairs ↔ chart row column = some value
  columns : ∀ column, 1 ≤ column → column ≤ problem.columnCount → ∃ pairs,
    problem.columnCoefficients column = .ok pairs ∧
      (pairs.Pairwise fun left right => left.1 < right.1) ∧
        ∀ row value, (row, value) ∈ pairs ↔ chart row column = some value
  counted : ∃ cells : Finset (Nat × Nat),
    (∀ row column, (row, column) ∈ cells ↔ ∃ value, chart row column = some value) ∧
      (cells.card < Word.values31 → problem.nonzeroCount = cells.card)

theorem drop_take_write {A : Type} (entries slots : List A)
    (fits : entries.length < slots.length) :
    ((Slots.write entries slots).drop 1).take entries.length = entries := by
  cases slots with
  | nil => exact absurd fits (Nat.not_lt_zero _)
  | cons unused slots => simp [Slots.write]

omit [Scalar K] in
theorem Workspace.readRow_eq {workspace : Workspace K} {row : Nat} {current : WorkRow K}
    (at_row : workspace.rows[row]? = some current) (numbers : Option (List Int))
    (values : Option (List K)) :
    workspace.readRow (row + 1 : Nat) numbers values =
      .ok (writeCells current.cells.cells numbers values) := by
  rw [readRow, rowAt_eq at_row]
  rfl

omit [Scalar K] in
theorem Workspace.readColumn_eq {workspace : Workspace K} {column : Nat}
    (inside : column < workspace.columns.length) (numbers : Option (List Int))
    (values : Option (List K)) :
    workspace.readColumn (column + 1 : Nat) numbers values =
      .ok (writeCells (workspace.columnCells column) numbers values) := by
  rw [readColumn, columnPosition_succ inside]
  rfl

namespace Problem

omit [Scalar K] in
theorem writtenPairs_writeCells {cells : List (Nat × K)} {capacity : Nat} {numbers : List Int}
    {values : List K} (few : cells.length ≤ capacity)
    (numbersFit : numbers.length = capacity + 1) (valuesFit : values.length = capacity + 1)
    (small : ∀ cell ∈ cells, cell.1 < maxDimension) :
    writtenPairs capacity (Workspace.writeCells cells (some numbers) (some values)) =
      cells.map fun cell => (cell.1 + 1, cell.2) := by
  have size : (max 0 (min (cells.length : Int) capacity)).toNat = cells.length := by omega
  have writtenNumbers := drop_take_write (cells.map fun cell => (cell.1 : Int) + 1) numbers
    (by rw [List.length_map]; omega)
  have writtenValues := drop_take_write (cells.map Prod.snd) values
    (by rw [List.length_map]; omega)
  rw [List.length_map] at writtenNumbers writtenValues
  simp only [writtenPairs, Workspace.writeCells, size, Option.map_some, Option.getD_some,
    writtenNumbers, writtenValues, List.map_map, List.zip_map']
  apply List.map_congr_left
  intro cell member
  have fits : cell.1 + 1 < Word.values64 := lt_values64_of_le (small cell member)
  have widened := Slots.widen_of_lt fits
  rw [Nat.cast_succ] at widened
  rw [Function.comp_apply, widened]

theorem rowCoefficients_eq (wellFormed : problem.workspace.WellFormed) {row : Nat}
    {current : WorkRow K} (at_row : problem.workspace.rows[row]? = some current) :
    problem.rowCoefficients (row + 1) =
      .ok (current.cells.cells.map fun cell => (cell.1 + 1, cell.2)) := by
  have inside := (List.getElem?_eq_some_iff.mp at_row).1
  have below := wellFormed.cells current (List.mem_of_getElem? at_row)
  have pairs := writtenPairs_writeCells (Workspace.length_cells_le below)
    (length_filled _ 0) (length_filled _ 0)
    fun cell member => Nat.lt_of_lt_of_le (below cell member) wellFormed.columnLimit
  simp only [rowCoefficients, checkRow_succ wellFormed inside, Except.ok_bind,
    narrow_row wellFormed inside, Workspace.readRow_eq at_row,
    columnCount_eq wellFormed.columnLimit]
  exact congrArg Except.ok pairs

theorem columnCoefficients_eq (wellFormed : problem.workspace.WellFormed) {column : Nat}
    (inside : column < problem.workspace.columns.length) :
    problem.columnCoefficients (column + 1) =
      .ok ((problem.workspace.columnCells column).map fun cell => (cell.1 + 1, cell.2)) := by
  have pairs := writtenPairs_writeCells
    (Workspace.length_columnCells_le problem.workspace column)
    (length_filled _ 0) (length_filled _ 0) fun cell member =>
      Nat.lt_of_lt_of_le (wellFormed.lt_of_cell (Workspace.mem_columnCells.mp member)).1
        wellFormed.rowLimit
  simp only [columnCoefficients, checkColumn_succ wellFormed inside, Except.ok_bind,
    narrow_column wellFormed inside, Workspace.readColumn_eq inside,
    rowCount_eq wellFormed.rowLimit]
  exact congrArg Except.ok pairs

section Pairs

variable {A : Type} {cells : List (Nat × A)}

theorem ascending_map_succ (ascending : cells.Pairwise fun left right => left.1 < right.1) :
    (cells.map fun cell => (cell.1 + 1, cell.2)).Pairwise
      fun left right => left.1 < right.1 :=
  List.pairwise_map.mpr (ascending.imp Nat.succ_lt_succ)

theorem succ_mem_map_succ_iff {number : Nat} {value : A} :
    (number + 1, value) ∈ (cells.map fun cell => (cell.1 + 1, cell.2)) ↔
      (number, value) ∈ cells := by
  simp

theorem zero_not_mem_map_succ {value : A} :
    (0, value) ∉ cells.map fun cell => (cell.1 + 1, cell.2) := by
  simp

end Pairs

/-- A problem shows the coefficients that it stores. -/
theorem shows_cell (wellFormed : problem.workspace.WellFormed) : problem.Shows problem.cell where
  inside row column value stored := by
    rw [rowCount_eq wellFormed.rowLimit, columnCount_eq wellFormed.columnLimit]
    cases row with
    | zero => cases stored
    | succ row =>
        cases column with
        | zero => cases stored
        | succ column =>
            have := wellFormed.lt_of_cell stored
            omega
  rows row first last := by
    rw [rowCount_eq wellFormed.rowLimit] at last
    obtain ⟨row, rfl⟩ := Nat.exists_eq_add_of_le' first
    obtain ⟨current, at_row⟩ : ∃ current, problem.workspace.rows[row]? = some current :=
      ⟨_, List.getElem?_eq_getElem last⟩
    refine ⟨_, rowCoefficients_eq wellFormed at_row,
      ascending_map_succ current.cells.ascending, ?_⟩
    intro column value
    cases column with
    | zero => simp only [zero_not_mem_map_succ, cell_zero_right, reduceCtorEq]
    | succ column =>
        rw [succ_mem_map_succ_iff, cell, Workspace.cell, at_row, Option.bind_some,
          SparseRow.get?_eq_some_iff]
  columns column first last := by
    rw [columnCount_eq wellFormed.columnLimit] at last
    obtain ⟨column, rfl⟩ := Nat.exists_eq_add_of_le' first
    refine ⟨_, columnCoefficients_eq wellFormed last,
      ascending_map_succ (problem.workspace.ascending_columnCells column), ?_⟩
    intro row value
    cases row with
    | zero => simp only [zero_not_mem_map_succ, cell_zero_left, reduceCtorEq]
    | succ row => rw [succ_mem_map_succ_iff, cell, Workspace.mem_columnCells]
  counted := by
    refine ⟨problem.stored, fun row column => mem_stored, fun few => ?_⟩
    rw [card_stored] at few ⊢
    rw [nonzeroCount, Workspace.coefficientCount, Slots.narrow_of_lt few,
      Slots.widen_of_lt (Nat.lt_trans few (by decide))]

end Problem

end Showing

/-! ## Histories -/

namespace History

variable {events : List (Event K)} {problem : Problem K}

/-- Every history has a chart, and at its end the problem stores and shows what the chart says.  A
load that the chart does not follow stores no wrong value, but not all that the matrix lists. -/
theorem shows_chart (history : History events problem) :
    (∃ chart, Charted events problem chart) ∧
    (∀ chart, Charted events problem chart → problem.cell = chart ∧ problem.Shows chart) ∧
    ∀ matrix next, problem.loadMatrix matrix = .ok next →
      (∀ row column value, next.cell row column = some value →
        lastListed (matrix.toList.map SparseMatrix.atCell) (row, column) = some value) ∧
      next.stored.card = matrix.cells.card % Word.values32 ∧
      (next.cell = (Edit.loadMatrix matrix).redraw problem.cell ↔
        (Edit.loadMatrix matrix).Countable) := by
  have wellFormed := history.wellFormed
  refine ⟨history.exists_charted, fun chart charted => ?_, fun matrix next set => ⟨?_, ?_, ?_⟩⟩
  · have stored := charted.cell_eq
    exact ⟨stored, stored ▸ Problem.shows_cell wellFormed⟩
  · exact fun row column value => Problem.lastListed_of_loadMatrix wellFormed set
  · exact Problem.card_stored_of_loadMatrix wellFormed set
  · rw [Edit.Countable, ← Problem.cell_loadMatrix_iff wellFormed set]
    simp only [funext_iff, Edit.redraw]

/-- A row that lists a column twice and leaves a zero there, a column that lists a row twice and
takes out what the row has, and a column that is deleted. -/
theorem shows_chart_mixed :
    ∃ (events : List (Event ℚ)) (problem : Problem ℚ) (chart : Chart ℚ),
      (History events problem ∧ events.map (·.request) =
        [.edit (.deleteColumns [2]), .edit (.setColumnCoefficients 1 [2, 2] [8, 9]),
          .edit (.setRowCoefficients 1 [3, 1, 3] [5, 6, 0]), .edit (.addColumns 3),
          .edit (.addRows 2)]) ∧
      Charted events problem chart ∧ problem.Shows chart ∧
      chart 1 2 = some 0 ∧ chart 2 1 = some 9 ∧ chart 1 1 = none ∧ problem.nonzeroCount = 2 := by
  have rows := History.returned (.edit (.addRows 2)) (History.create (K := ℚ)) rfl
  have columns := History.returned (.edit (.addColumns 3)) rows rfl
  have inRow :=
    History.returned (.edit (.setRowCoefficients 1 [3, 1, 3] [5, 6, 0])) columns (by rfl)
  have inColumn := History.returned (.edit (.setColumnCoefficients 1 [2, 2] [8, 9])) inRow (by rfl)
  have deleted := History.returned (.edit (.deleteColumns [2])) inColumn (by rfl)
  obtain ⟨⟨chart, charted⟩, followed, -⟩ := shows_chart deleted
  obtain ⟨stored, shown⟩ := followed chart charted
  refine ⟨_, _, chart, ⟨deleted, rfl⟩, charted, shown, ?_⟩
  rw [← stored]
  exact ⟨rfl, rfl, rfl, by decide +kernel⟩

/-- With 1048576 rows and 4096 columns, a matrix of ones in all their cells is loaded, and none of
them is stored. -/
theorem chart_lost :
    ∃ (events : List (Event ℚ)) (problem next : Problem ℚ),
      (History events problem ∧ events.map (·.request) =
        [.edit (.addColumns 4096), .edit (.addRows 1048576)]) ∧
      History (⟨.edit (.loadMatrix (.ones 1048576 4096)), .ok (.index none)⟩ :: events) next ∧
      (Edit.loadMatrix (.ones 1048576 4096)).redraw problem.cell 1 1 = some 1 ∧
      next.stored = ∅ ∧ next.cell 1 1 = none := by
  have rowsFit : 1 ≤ 1048576 ∧ 1048576 ≤ maxDimension := by decide
  have columnsFit : 1 ≤ 4096 ∧ 4096 ≤ maxDimension := by decide
  obtain ⟨events, history, requests⟩ := Problem.exists_history_spacious rowsFit columnsFit
  have admits : (Problem.spacious 1048576 4096).Admits (.ones 1048576 4096) :=
    SparseMatrix.admits_ones (Problem.rowCount_spacious rowsFit).ge
      (Problem.columnCount_spacious columnsFit).ge
  have cells : (SparseMatrix.ones 1048576 4096).cells.card = 4294967296 :=
    SparseMatrix.card_cells_ones 1048576 4096
  obtain ⟨next, set⟩ := Problem.exists_loadMatrix history.wellFormed admits
    (by rw [cells]; decide)
  have loads : (Edit.loadMatrix (.ones 1048576 4096)).run (.spacious 1048576 4096) =
      .ok (next, none) := by
    rw [Edit.run, set]
    rfl
  have nothing : next.stored = ∅ := by
    rw [← Finset.card_eq_zero, Problem.card_stored_of_loadMatrix history.wellFormed set, cells]
    decide
  refine ⟨events, _, next, ⟨history, requests⟩, history.edited loads,
    SparseMatrix.lastListed_ones (by decide) (by decide), nothing, ?_⟩
  rw [Option.eq_none_iff_forall_not_mem]
  intro value stored
  have member := Problem.mem_stored.mpr ⟨value, stored⟩
  rw [nothing] at member
  exact Finset.notMem_empty _ member

end History

end LinearProgramming
