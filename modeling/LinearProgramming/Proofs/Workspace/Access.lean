import LinearProgramming.Proofs.Workspace.Steps

/-!
# Numbered reads

What a numbered call reads, array by array.  On a well-formed workspace the rows, the columns
and the stored values that a call asks for are all there, so every call with numbers in range
answers.
-/

namespace LinearProgramming

variable {K : Type} [Scalar K]

namespace Workspace

section Reads

omit [Scalar K]

def entryAt {A : Type} (entries : List A) (position : Nat) : Except Halt A :=
  match entries[position]? with
  | none => throw (.outOfBounds position entries.length)
  | some entry => pure entry

def rowIn (workspace : Workspace K) (row : Int) : Except Halt (WorkRow K) := do
  entryAt workspace.rows (← (workspace.rowPosition row).mapError .misuse)

def columnIn (workspace : Workspace K) (column : Int) : Except Halt (WorkColumn K) := do
  entryAt workspace.columns (← (workspace.columnPosition column).mapError .misuse)

def rowEntry (workspace : Workspace K) (values : List K) (row : Int) : Except Halt K := do
  entryAt values (← (workspace.rowPosition row).mapError .misuse)

def columnEntry (workspace : Workspace K) (values : List K) (column : Int) : Except Halt K := do
  entryAt values (← (workspace.columnPosition column).mapError .misuse)

/-- Writes cells into the arrays that are there, from slot 1 on. -/
def fillCells (cells : List (Nat × K)) (numbers : Option (List Int)) (values : Option (List K)) :
    Except Halt (Int × Option (List Int) × Option (List K)) := do
  numbers.forM fun slots => inBounds cells.length slots.length
  values.forM fun slots => inBounds cells.length slots.length
  pure (writeCells cells numbers values)

end Reads

end Workspace

namespace Query

def read (workspace : Workspace K) : Query K → Except Halt (Answer K)
  | problemName => pure (.name workspace.name)
  | rowName row => return .name (← workspace.rowIn row).name
  | columnName column => return .name (← workspace.columnIn column).name
  | direction => pure (.number (Coded.code workspace.direction))
  | objective column => do
      if column = 0 then pure (.scalar workspace.constant)
      else return .scalar (← workspace.columnIn column).cost
  | rowCount => pure (.number workspace.rowCount)
  | columnCount => pure (.number workspace.columnCount)
  | integerCount => pure (.number workspace.integerCount)
  | coefficientCount => pure (.number workspace.coefficientCount)
  | rowType row => return .number (Coded.code (← workspace.rowIn row).bound.kind)
  | rowLower row => return .scalar (← workspace.rowIn row).bound.lowerSide
  | rowUpper row => return .scalar (← workspace.rowIn row).bound.upperSide
  | columnType column => return .number (Coded.code (← workspace.columnIn column).bound.kind)
  | columnLower column => return .scalar (← workspace.columnIn column).bound.lowerSide
  | columnUpper column => return .scalar (← workspace.columnIn column).bound.upperSide
  | columnKind column => return .number (Workspace.kindNumber (← workspace.columnIn column))
  | rowCells row numbers values => do
      let (count, numbers, values) ←
        Workspace.fillCells (← workspace.rowIn row).cells.cells numbers values
      pure (.cells count numbers values)
  | columnCells column numbers values => do
      let position ← (workspace.columnPosition column).mapError .misuse
      let (count, numbers, values) ←
        Workspace.fillCells (workspace.columnCells position) numbers values
      pure (.cells count numbers values)
  | counters => pure (.counters workspace.counters)
  | status method => pure (.number (workspace.solution method).status.code)
  | objectiveValue method => pure (.scalar (workspace.solution method).point.objective)
  | rowPrimal method row =>
      return .scalar (← workspace.rowEntry (workspace.solution method).point.rowPrimal row)
  | rowDual method row =>
      return .scalar (← workspace.rowEntry (workspace.solution method).point.rowDual row)
  | columnPrimal method column =>
      return .scalar
        (← workspace.columnEntry (workspace.solution method).point.columnPrimal column)
  | columnDual method column =>
      return .scalar
        (← workspace.columnEntry (workspace.solution method).point.columnDual column)
  | integerStatus => pure (.number workspace.integer.status.code)
  | integerObjective => pure (.scalar workspace.integer.objective)
  | integerBound => pure (.scalar workspace.integer.bound.toScalar)
  | integerRow row => return .scalar (← workspace.rowEntry workspace.integer.rowValues row)
  | integerColumn column =>
      return .scalar (← workspace.columnEntry workspace.integer.columnValues column)

def row? : Query K → Option Int
  | rowName row => some row
  | rowType row => some row
  | rowLower row => some row
  | rowUpper row => some row
  | rowCells row _ _ => some row
  | rowPrimal _ row => some row
  | rowDual _ row => some row
  | integerRow row => some row
  | _ => none

/-- Which column a call asks for, if it asks for one; column 0 of the objective is its
constant. -/
def column? : Query K → Option Int
  | columnName column => some column
  | objective column => if column = 0 then none else some column
  | columnType column => some column
  | columnLower column => some column
  | columnUpper column => some column
  | columnKind column => some column
  | columnCells column _ _ => some column
  | columnPrimal _ column => some column
  | columnDual _ column => some column
  | integerColumn column => some column
  | _ => none

/-- How many cells a call may write into which arrays. -/
def capacity? (workspace : Workspace K) :
    Query K → Option (Nat × Option (List Int) × Option (List K))
  | rowCells _ numbers values => some (workspace.columns.length, numbers, values)
  | columnCells _ numbers values => some (workspace.rows.length, numbers, values)
  | _ => none

structure InRange (query : Query K) (workspace : Workspace K) : Prop where
  row : ∀ row ∈ query.row?, 1 ≤ row ∧ row ≤ workspace.rows.length
  column : ∀ column ∈ query.column?, 1 ≤ column ∧ column ≤ workspace.columns.length
  numbers : ∀ count numbers values, query.capacity? workspace = some (count, numbers, values) →
    ∀ slots ∈ numbers, count < slots.length
  values : ∀ count numbers values, query.capacity? workspace = some (count, numbers, values) →
    ∀ slots ∈ values, count < slots.length

end Query

/-! ## Calls with numbers in range -/

namespace Workspace

variable {workspace : Workspace K}

section Reads

omit [Scalar K]

theorem entryAt_of_lt {A : Type} {entries : List A} {position : Nat}
    (inside : position < entries.length) : entryAt entries position = .ok entries[position] := by
  rw [entryAt, List.getElem?_eq_getElem inside]
  rfl

theorem exists_rowPosition {row : Int} (inside : 1 ≤ row ∧ row ≤ workspace.rows.length) :
    ∃ position, workspace.rowPosition row = .ok position :=
  ⟨_, rowPosition_eq_ok_iff.mpr ⟨inside, rfl⟩⟩

theorem exists_columnPosition {column : Int}
    (inside : 1 ≤ column ∧ column ≤ workspace.columns.length) :
    ∃ position, workspace.columnPosition column = .ok position :=
  ⟨_, columnPosition_eq_ok_iff.mpr ⟨inside, rfl⟩⟩

theorem exists_rowIn {row : Int} (inside : 1 ≤ row ∧ row ≤ workspace.rows.length) :
    ∃ found ∈ workspace.rows,
      workspace.rowIn row = .ok found ∧ workspace.rowAt row = .ok found := by
  obtain ⟨position, found⟩ := exists_rowPosition inside
  have lt := lt_of_rowPosition found
  refine ⟨workspace.rows[position], List.getElem_mem lt, ?_, ?_⟩
  · rw [rowIn, found]
    exact entryAt_of_lt lt
  · rw [rowAt, found]
    simp [lt, pure, Except.pure]

end Reads

theorem exists_columnIn {column : Int}
    (inside : 1 ≤ column ∧ column ≤ workspace.columns.length) :
    ∃ found ∈ workspace.columns, workspace.columnIn column = .ok found ∧
      workspace.columnAt column = .ok found := by
  obtain ⟨position, found⟩ := exists_columnPosition inside
  have lt := lt_of_columnPosition found
  refine ⟨workspace.columns[position], List.getElem_mem lt, ?_, ?_⟩
  · rw [columnIn, found]
    exact entryAt_of_lt lt
  · rw [columnAt, found]
    simp [lt, pure, Except.pure]

theorem exists_rowEntry {values : List K} (fits : values.length = workspace.rows.length)
    {row : Int} (inside : 1 ≤ row ∧ row ≤ workspace.rows.length) :
    ∃ value, workspace.rowEntry values row = .ok value ∧
      workspace.rowValue values row = .ok value := by
  obtain ⟨position, found⟩ := exists_rowPosition inside
  have lt : position < values.length := fits ▸ lt_of_rowPosition found
  refine ⟨values[position], ?_, ?_⟩
  · rw [rowEntry, found]
    exact entryAt_of_lt lt
  · rw [rowValue, found]
    simp [Dense.entry, lt, pure, Except.pure]

theorem exists_columnEntry {values : List K} (fits : values.length = workspace.columns.length)
    {column : Int} (inside : 1 ≤ column ∧ column ≤ workspace.columns.length) :
    ∃ value, workspace.columnEntry values column = .ok value ∧
      workspace.columnValue values column = .ok value := by
  obtain ⟨position, found⟩ := exists_columnPosition inside
  have lt : position < values.length := fits ▸ lt_of_columnPosition found
  refine ⟨values[position], ?_, ?_⟩
  · rw [columnEntry, found]
    exact entryAt_of_lt lt
  · rw [columnValue, found]
    simp [Dense.entry, lt, pure, Except.pure]

section Cells

omit [Scalar K]

theorem length_cells_le {row : SparseRow K} {columns : Nat} (below : row.Below columns) :
    row.cells.length ≤ columns := by
  have distinct : (row.cells.map Prod.fst).Nodup := by
    rw [List.Nodup, List.pairwise_map]
    exact row.ascending.imp Nat.ne_of_lt
  have inside : row.cells.map Prod.fst ⊆ List.range columns := by
    intro column member
    obtain ⟨cell, stored, rfl⟩ := List.mem_map.mp member
    exact List.mem_range.mpr (below cell stored)
  simpa using distinct.length_le_of_subset inside

theorem length_columnCells_le (workspace : Workspace K) (column : Nat) :
    (workspace.columnCells column).length ≤ workspace.rows.length := by
  simpa [columnCells] using List.length_filterMap_le _ workspace.rows.zipIdx

theorem fillCells_eq_ok {cells : List (Nat × K)} {numbers : Option (List Int)}
    {values : Option (List K)} (numbersFit : ∀ slots ∈ numbers, cells.length < slots.length)
    (valuesFit : ∀ slots ∈ values, cells.length < slots.length) :
    fillCells cells numbers values = .ok (writeCells cells numbers values) := by
  have numbersIn : (numbers.forM fun slots => inBounds cells.length slots.length) = .ok () := by
    cases numbers with
    | none => rfl
    | some slots => exact inBounds_of_lt (numbersFit slots rfl)
  have valuesIn : (values.forM fun slots => inBounds cells.length slots.length) = .ok () := by
    cases values with
    | none => rfl
    | some slots => exact inBounds_of_lt (valuesFit slots rfl)
  rw [fillCells, numbersIn, valuesIn]
  rfl

end Cells

omit [Scalar K] in
theorem WellFormed.solution (wellFormed : workspace.WellFormed) (method : LinearMethod) :
    (workspace.solution method).point.Fits workspace.rows.length workspace.columns.length := by
  cases method with
  | basic => exact wellFormed.basic
  | interior => exact wellFormed.interior

def IsAnswered (workspace : Workspace K) (query : Query K) : Prop :=
  ∃ answer, query.read workspace = .ok answer ∧ query.answer workspace = .ok answer

section Answered

variable {row column : Int} {numbers : Option (List Int)} {values : Option (List K)}

theorem isAnswered_objective (inRange : (Query.objective column : Query K).InRange workspace) :
    IsAnswered workspace (.objective column) := by
  by_cases constant : column = 0
  · refine ⟨.scalar workspace.constant, ?_, ?_⟩
    · simp [Query.read, constant, pure, Except.pure]
    · simp [Query.answer, objectiveAt, constant, pure, Except.pure]
  · obtain ⟨found, -, looked, answered⟩ :=
      exists_columnIn (inRange.column column (by simp [Query.column?, constant]))
    refine ⟨.scalar found.cost, ?_, ?_⟩
    · rw [Query.read, if_neg constant, looked]
      rfl
    · rw [Query.answer, objectiveAt, if_neg constant, answered]
      rfl

theorem isAnswered_rowCells (wellFormed : workspace.WellFormed)
    (inRange : (Query.rowCells row numbers values).InRange workspace) :
    IsAnswered workspace (.rowCells row numbers values) := by
  obtain ⟨found, member, looked, answered⟩ := exists_rowIn (inRange.row row rfl)
  have few := length_cells_le (wellFormed.cells found member)
  have filled := fillCells_eq_ok
    (fun slots given => Nat.lt_of_le_of_lt few (inRange.numbers _ _ _ rfl slots given))
    (fun slots given => Nat.lt_of_le_of_lt few (inRange.values _ _ _ rfl slots given))
  refine ⟨.cells found.cells.cells.length _ _, ?_, by rw [Query.answer, readRow, answered]; rfl⟩
  simp only [Query.read, looked, Except.ok_bind, filled]
  rfl

theorem isAnswered_columnCells
    (inRange : (Query.columnCells column numbers values).InRange workspace) :
    IsAnswered workspace (.columnCells column numbers values) := by
  obtain ⟨position, found⟩ := exists_columnPosition (inRange.column column rfl)
  have few := length_columnCells_le workspace position
  have filled := fillCells_eq_ok
    (fun slots given => Nat.lt_of_le_of_lt few (inRange.numbers _ _ _ rfl slots given))
    (fun slots given => Nat.lt_of_le_of_lt few (inRange.values _ _ _ rfl slots given))
  refine ⟨.cells (workspace.columnCells position).length _ _, ?_,
    by rw [Query.answer, readColumn, found]; rfl⟩
  simp only [Query.read, found, Except.mapError, Except.ok_bind, filled]
  rfl

end Answered

/-- Every read with numbers in range is answered, as its definition says. -/
theorem WellFormed.read (wellFormed : workspace.WellFormed) {query : Query K}
    (inRange : query.InRange workspace) :
    ∃ answer, query.read workspace = .ok answer ∧ query.answer workspace = .ok answer := by
  cases query
  case rowName row | rowType row | rowLower row | rowUpper row =>
    obtain ⟨found, -, looked, answered⟩ := exists_rowIn (inRange.row row rfl)
    exact ⟨_, by rw [Query.read, looked]; rfl, by rw [Query.answer, answered]; rfl⟩
  case columnName column | columnType column | columnLower column | columnUpper column
      | columnKind column =>
    obtain ⟨found, -, looked, answered⟩ := exists_columnIn (inRange.column column rfl)
    exact ⟨_, by rw [Query.read, looked]; rfl, by rw [Query.answer, answered]; rfl⟩
  case objective => exact isAnswered_objective inRange
  case rowCells => exact isAnswered_rowCells wellFormed inRange
  case columnCells => exact isAnswered_columnCells inRange
  case rowPrimal method row =>
    obtain ⟨value, looked, answered⟩ :=
      exists_rowEntry (wellFormed.solution method).rowPrimal (inRange.row row rfl)
    exact ⟨_, by rw [Query.read, looked]; rfl, by rw [Query.answer, answered]; rfl⟩
  case rowDual method row =>
    obtain ⟨value, looked, answered⟩ :=
      exists_rowEntry (wellFormed.solution method).rowDual (inRange.row row rfl)
    exact ⟨_, by rw [Query.read, looked]; rfl, by rw [Query.answer, answered]; rfl⟩
  case columnPrimal method column =>
    obtain ⟨value, looked, answered⟩ :=
      exists_columnEntry (wellFormed.solution method).columnPrimal (inRange.column column rfl)
    exact ⟨_, by rw [Query.read, looked]; rfl, by rw [Query.answer, answered]; rfl⟩
  case columnDual method column =>
    obtain ⟨value, looked, answered⟩ :=
      exists_columnEntry (wellFormed.solution method).columnDual (inRange.column column rfl)
    exact ⟨_, by rw [Query.read, looked]; rfl, by rw [Query.answer, answered]; rfl⟩
  case integerRow row =>
    obtain ⟨value, looked, answered⟩ :=
      exists_rowEntry wellFormed.integer.rowValues (inRange.row row rfl)
    exact ⟨_, by rw [Query.read, looked]; rfl, by rw [Query.answer, answered]; rfl⟩
  case integerColumn column =>
    obtain ⟨value, looked, answered⟩ :=
      exists_columnEntry wellFormed.integer.columnValues (inRange.column column rfl)
    exact ⟨_, by rw [Query.read, looked]; rfl, by rw [Query.answer, answered]; rfl⟩
  all_goals exact ⟨_, rfl, rfl⟩

end Workspace

end LinearProgramming
