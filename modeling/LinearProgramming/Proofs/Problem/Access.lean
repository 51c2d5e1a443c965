import LinearProgramming.Proofs.Problem.Checks
import LinearProgramming.Solution

/-!
# Reading a problem

What an operation that only reads a problem looks up, array by array, and with the numbers
that it hands to the numbered calls.  On a well-formed workspace everything that is looked up
is there once the checks have passed, so each of these operations answers as it is defined, or
refuses.
-/

namespace LinearProgramming

inductive Inquiry where
  | name
  | rowName (row : Nat)
  | columnName (column : Nat)
  | direction
  | objectiveConstant
  | objectiveCoefficient (column : Nat)
  | rowBounds (row : Nat)
  | columnBounds (column : Nat)
  | columnKind (column : Nat)
  | rowCoefficients (row : Nat)
  | columnCoefficients (column : Nat)
  | rowCount
  | columnCount
  | nonzeroCount
  | integerColumnCount
  | counters
  | state
  | solution (algorithm : Algorithm)

inductive Reply (K : Type) where
  | name (text : Option String)
  | direction (direction : Direction)
  | scalar (value : K)
  | bounds (interval : Interval K)
  | kind (kind : VariableKind)
  | cells (pairs : List (Nat × K))
  | count (number : Nat)
  | counters (value : Counters)
  | state (state : SolveState)
  | solution (solution : Solution K)

variable {K : Type} [Scalar K]

namespace Problem

open Stop

def below {A : Type} (result : Except Halt A) : Except (Stop K) A :=
  result.mapError .halt

/-- The pairs in arrays for `capacity` of them.  The number of pairs that a call reports is cut
off at the capacity, which has to be no negative number, and the slots up to there are
read. -/
def pairsIn (cast : Cast K) (capacity : Nat)
    (cells : Int × Option (List Int) × Option (List K)) : Except (Stop K) (List (Nat × K)) := do
  let most ← cast capacity
  below (Workspace.inBounds 0 (most + 1).toNat)
  let size := (max 0 (min cells.1 capacity)).toNat
  below (Workspace.inBounds size (cells.2.1.getD []).length)
  below (Workspace.inBounds size (cells.2.2.getD []).length)
  pure (writtenPairs capacity cells)

def collectIn (cast : Cast K) (count : Nat) (entry : Int → Except Halt K) :
    Except (Stop K) (List K) :=
  (List.range count).mapM fun position => do below (entry (← cast (position + 1)))

def linearIn (cast : Cast K) (problem : Problem K) (algorithm : Algorithm)
    (method : LinearMethod) (record : SolveRecord) : Except (Stop K) (Solution K) := do
  let workspace := problem.workspace
  let point := (workspace.solution method).point
  return {
    algorithm
    status := record.status
    objective := point.objective
    rowPrimal := ← collectIn cast problem.rowCount (workspace.rowEntry point.rowPrimal)
    rowDual := some (← collectIn cast problem.rowCount (workspace.rowEntry point.rowDual))
    columnPrimal :=
      ← collectIn cast problem.columnCount (workspace.columnEntry point.columnPrimal)
    columnDual :=
      some (← collectIn cast problem.columnCount (workspace.columnEntry point.columnDual))
    gap := none
    limit := record.limit }

def integerIn (cast : Cast K) (problem : Problem K) (record : SolveRecord) :
    Except (Stop K) (Solution K) := do
  let workspace := problem.workspace
  let stored := workspace.integer
  return {
    algorithm := .branchCut
    status := record.status
    objective := stored.objective
    rowPrimal := ← collectIn cast problem.rowCount (workspace.rowEntry stored.rowValues)
    rowDual := none
    columnPrimal := ← collectIn cast problem.columnCount (workspace.columnEntry stored.columnValues)
    columnDual := none
    gap :=
      if record.status.hasSolution then
        some (relativeGap stored.objective stored.bound.toScalar)
      else none
    limit := record.limit }

def solutionIn (cast : Cast K) (problem : Problem K) (algorithm : Algorithm) :
    Except (Stop K) (Solution K) :=
  match problem.record algorithm with
  | none => throw (.error (.solverNotRun algorithm))
  | some record =>
      match algorithm with
      | .simplex => linearIn cast problem .simplex .basic record
      | .interiorPoint => linearIn cast problem .interiorPoint .interior record
      | .branchCut => integerIn cast problem record

end Problem

namespace Inquiry

open Problem Stop

def answer (problem : Problem K) : Inquiry → Except (Failure K) (Reply K)
  | name => pure (.name problem.name)
  | rowName row => return .name (← problem.rowName row)
  | columnName column => return .name (← problem.columnName column)
  | direction => return .direction (← problem.direction)
  | objectiveConstant => pure (.scalar problem.objectiveConstant)
  | objectiveCoefficient column => return .scalar (← problem.objectiveCoefficient column)
  | rowBounds row => return .bounds (← problem.rowBounds row)
  | columnBounds column => return .bounds (← problem.columnBounds column)
  | columnKind column => return .kind (← problem.columnKind column)
  | rowCoefficients row => return .cells (← problem.rowCoefficients row)
  | columnCoefficients column => return .cells (← problem.columnCoefficients column)
  | rowCount => pure (.count problem.rowCount)
  | columnCount => pure (.count problem.columnCount)
  | nonzeroCount => pure (.count problem.nonzeroCount)
  | integerColumnCount => pure (.count problem.integerColumnCount)
  | counters => pure (.counters problem.counters)
  | state => pure (.state problem.state)
  | solution algorithm => return .solution (← Solution.extract problem algorithm)

/-- The answer to an operation that looks up every entry where it has to be. -/
def read (cast : Cast K) (problem : Problem K) : Inquiry → Except (Stop K) (Reply K)
  | name => pure (.name problem.name)
  | rowName row => do
      lift (problem.checkRow row)
      let current ← below (problem.workspace.rowIn (← cast row))
      pure (.name current.name)
  | columnName column => do
      lift (problem.checkColumn column)
      let current ← below (problem.workspace.columnIn (← cast column))
      pure (.name current.name)
  | direction => do
      let direction ← lift (Failure.decode (Coded.code problem.workspace.direction))
      pure (.direction direction)
  | objectiveConstant => pure (.scalar problem.workspace.constant)
  | objectiveCoefficient column => do
      lift (problem.checkColumn column)
      let number ← cast column
      if number = 0 then pure (.scalar problem.workspace.constant)
      else
        let current ← below (problem.workspace.columnIn number)
        pure (.scalar current.cost)
  | rowBounds row => do
      lift (problem.checkRow row)
      let current ← below (problem.workspace.rowIn (← cast row))
      pure (.bounds (← lift (interval current.bound)))
  | columnBounds column => do
      lift (problem.checkColumn column)
      let current ← below (problem.workspace.columnIn (← cast column))
      pure (.bounds (← lift (interval current.bound)))
  | columnKind column => do
      lift (problem.checkColumn column)
      let current ← below (problem.workspace.columnIn (← cast column))
      pure (.kind (← lift (Failure.decode (Workspace.kindNumber current))))
  | rowCoefficients row => do
      lift (problem.checkRow row)
      let capacity := problem.columnCount
      let current ← below (problem.workspace.rowIn (← cast row))
      let cells ← below (Workspace.fillCells current.cells.cells
        (some (Slots.filled capacity 0)) (some (Slots.filled capacity 0)))
      pure (.cells (← pairsIn cast capacity cells))
  | columnCoefficients column => do
      lift (problem.checkColumn column)
      let capacity := problem.rowCount
      let number ← cast column
      let position ← below ((problem.workspace.columnPosition number).mapError .misuse)
      let cells ← below (Workspace.fillCells (problem.workspace.columnCells position)
        (some (Slots.filled capacity 0)) (some (Slots.filled capacity 0)))
      pure (.cells (← pairsIn cast capacity cells))
  | rowCount => pure (.count problem.rowCount)
  | columnCount => pure (.count problem.columnCount)
  | nonzeroCount => pure (.count problem.nonzeroCount)
  | integerColumnCount => pure (.count problem.integerColumnCount)
  | counters => pure (.counters problem.counters)
  | state => pure (.state problem.state)
  | solution algorithm => do
      let solution ← solutionIn cast problem algorithm
      pure (.solution solution)

end Inquiry

/-! ## Answers -/

section Reads

omit [Scalar K]

/-- A read that gives what its definition gives, which is missing only for a refusal. -/
structure Reads {A : Type} (read : Except (Stop K) A) (answer : Except (Failure K) A) :
    Prop where
  same : read = Stop.lift answer
  refuses : Refuses answer

def Faithful (cast : Cast K) : Prop :=
  ∀ number : Nat, number < Word.values31 → cast number = .ok number

theorem Faithful.plain : Faithful (Cast.plain : Cast K) := fun _ => Cast.plain_of_lt

theorem Faithful.exact : Faithful (Cast.exact : Cast K) := fun _ => Cast.exact_of_lt

namespace Reads

variable {A B : Type}

theorem ok (value : A) : Reads (.ok value : Except (Stop K) A) (.ok value) :=
  ⟨rfl, .ok value⟩

theorem refusal {error : Error K} (refuses : (Stop.error error).IsRefusal) :
    Reads (.error (.error error) : Except (Stop K) A) (.error (.error error)) :=
  ⟨rfl, .error refuses⟩

theorem bind {read : Except (Stop K) A} {answer : Except (Failure K) A}
    (reads : Reads read answer) {first : A → Except (Stop K) B}
    {second : A → Except (Failure K) B}
    (goes : ∀ value, answer = .ok value → Reads (first value) (second value)) :
    Reads (read >>= first) (answer >>= second) := by
  obtain ⟨rfl, refuses⟩ := reads
  cases found : answer with
  | error failure =>
      subst found
      refine ⟨rfl, ?_⟩
      rintro _ ⟨⟩
      exact refuses failure rfl
  | ok value => exact goes value found

theorem check {test : Except (Failure K) A} (refuses : Refuses test)
    {first : A → Except (Stop K) B} {second : A → Except (Failure K) B}
    (goes : ∀ value, test = .ok value → Reads (first value) (second value)) :
    Reads (Stop.lift test >>= first) (test >>= second) :=
  bind ⟨rfl, refuses⟩ goes

end Reads

end Reads

/-- The kind that is read off a column: a binary one is integral and has the bounds zero and one. -/
def WorkColumn.kind (column : WorkColumn K) : VariableKind :=
  if column.integral then
    let interval := Interval.ofBound column.bound
    if interval.kind == .double && interval.lower == 0 && interval.upper == 1 then .binary
    else .integer
  else .continuous

namespace Problem

variable {problem : Problem K} {cast : Cast K}

/-! ### Numbers that are decoded -/

omit [Scalar K] in
theorem decode_direction (direction : Direction) :
    (Failure.decode (Coded.code direction) : Except (Failure K) Direction) = .ok direction := by
  cases direction <;> rfl

theorem interval_eq (bound : Bound K) : interval bound = .ok (Interval.ofBound bound) := by
  cases bound <;> rfl

theorem decode_kindNumber (column : WorkColumn K) :
    (Failure.decode (Workspace.kindNumber column) : Except (Failure K) VariableKind) =
      .ok column.kind := by
  obtain ⟨name, integral, bound, cost⟩ := column
  cases integral with
  | false => rfl
  | true =>
      cases bound with
      | double least greatest =>
          change Failure.decode (if (least == 0 && greatest == 1) = true then 3 else 2) =
            Except.ok (if (true && least == 0 && greatest == 1) = true then _ else _)
          cases least == 0 <;> cases greatest == 1 <;> rfl
      | _ => rfl

/-! ### Rows and columns that are looked up -/

omit [Scalar K] in
theorem reads_row (wellFormed : problem.workspace.WellFormed) (faithful : Faithful cast) {A : Type}
    (row : Nat) {first : WorkRow K → Except (Stop K) A} {second : WorkRow K → Except (Failure K) A}
    (goes : ∀ current ∈ problem.workspace.rows, Reads (first current) (second current)) :
    Reads
      (Stop.lift (problem.checkRow row) >>= fun _ => cast row >>= fun number =>
        below (problem.workspace.rowIn number) >>= first)
      (problem.checkRow row >>= fun _ =>
        Failure.lift (problem.workspace.rowAt (Slots.narrow row)) >>= second) := by
  apply Reads.check (problem.checkRow_refuses row)
  intro _ checked
  have inside := hasRow_of_checkRow wellFormed.rowLimit checked
  have small := inside.lt wellFormed.rowLimit
  obtain ⟨current, member, looked, answered⟩ := Workspace.exists_rowIn inside
  rw [faithful row small, Slots.narrow_of_lt small, answered, Except.ok_bind, looked]
  exact goes current member

theorem reads_column (wellFormed : problem.workspace.WellFormed) (faithful : Faithful cast)
    {A : Type} (column : Nat) {first : WorkColumn K → Except (Stop K) A}
    {second : WorkColumn K → Except (Failure K) A}
    (goes : ∀ current ∈ problem.workspace.columns, Reads (first current) (second current)) :
    Reads
      (Stop.lift (problem.checkColumn column) >>= fun _ => cast column >>= fun number =>
        below (problem.workspace.columnIn number) >>= first)
      (problem.checkColumn column >>= fun _ =>
        Failure.lift (problem.workspace.columnAt (Slots.narrow column)) >>= second) := by
  apply Reads.check (problem.checkColumn_refuses column)
  intro _ checked
  have inside := hasColumn_of_checkColumn wellFormed.columnLimit checked
  have small := inside.lt wellFormed.columnLimit
  obtain ⟨current, member, looked, answered⟩ := Workspace.exists_columnIn inside
  rw [faithful column small, Slots.narrow_of_lt small, answered, Except.ok_bind, looked]
  exact goes current member

/-! ### Pairs and values that are looked up -/

theorem exists_mapM_both {A B E F : Type} {first : A → Except E B} {second : A → Except F B}
    {items : List A}
    (found : ∀ item ∈ items, ∃ value, first item = .ok value ∧ second item = .ok value) :
    ∃ values, items.mapM first = .ok values ∧ items.mapM second = .ok values := by
  induction items with
  | nil => exact ⟨[], rfl, rfl⟩
  | cons item items inductionHypothesis =>
      obtain ⟨⟨value, head, otherHead⟩, rest⟩ := List.forall_mem_cons.mp found
      obtain ⟨values, tail, otherTail⟩ := inductionHypothesis rest
      refine ⟨value :: values, ?_, ?_⟩
      · rw [List.mapM_cons, head, tail]
        rfl
      · rw [List.mapM_cons, otherHead, otherTail]
        rfl

omit [Scalar K] in
theorem lift_readRow (workspace : Workspace K) (row : Int) (numbers : Option (List Int))
    (values : Option (List K)) :
    (Failure.lift (workspace.readRow row numbers values) : Except (Failure K) _) =
      Failure.lift (workspace.rowAt row) >>= fun current =>
        pure (Workspace.writeCells current.cells.cells numbers values) := by
  rw [Workspace.readRow]
  cases workspace.rowAt row <;> rfl

theorem length_filled {A : Type} (capacity : Nat) (value : A) :
    (Slots.filled capacity value).length = capacity + 1 :=
  List.length_replicate

theorem length_write {A : Type} {entries slots : List A} (fits : entries.length < slots.length) :
    (Slots.write entries slots).length = slots.length := by
  simp only [Slots.write, List.length_append, List.length_take, List.length_drop]
  omega

omit [Scalar K] in
/-- Arrays with a slot for every cell take the cells and give them back. -/
theorem fillCells_pairsIn (faithful : Faithful cast) {cells : List (Nat × K)} {capacity : Nat}
    (few : cells.length ≤ capacity) (limit : capacity ≤ maxDimension) {numbers : List Int}
    (numbersFit : numbers.length = capacity + 1) {values : List K}
    (valuesFit : values.length = capacity + 1) :
    (below (Workspace.fillCells cells (some numbers) (some values)) >>= pairsIn cast capacity) =
      .ok (writtenPairs capacity (Workspace.writeCells cells (some numbers) (some values))) := by
  have filled : Workspace.fillCells cells (some numbers) (some values) =
      .ok (Workspace.writeCells cells (some numbers) (some values)) := by
    apply Workspace.fillCells_eq_ok
    · rintro _ ⟨⟩
      omega
    · rintro _ ⟨⟩
      omega
  have numbersLength : (Slots.write (cells.map fun cell => (cell.1 : Int) + 1) numbers).length =
      capacity + 1 := by
    rw [length_write (by rw [List.length_map]; omega), numbersFit]
  have valuesLength : (Slots.write (cells.map Prod.snd) values).length = capacity + 1 := by
    rw [length_write (by rw [List.length_map]; omega), valuesFit]
  have size : (max 0 (min (cells.length : Int) capacity)).toNat < capacity + 1 := by omega
  have most : 0 < ((capacity : Int) + 1).toNat := by omega
  rw [filled, below, Except.mapError, Except.ok_bind, pairsIn,
    faithful capacity (lt_values31_of_le limit), Except.ok_bind, Workspace.inBounds_of_lt most]
  simp only [Workspace.writeCells, Option.map_some, Option.getD_some, numbersLength, valuesLength,
    Workspace.inBounds_of_lt size]
  rfl

theorem reads_cells (faithful : Faithful cast) {cells : List (Nat × K)} {capacity : Nat}
    (few : cells.length ≤ capacity) (limit : capacity ≤ maxDimension) {A : Type}
    (reply : List (Nat × K) → A) :
    Reads
      (below (Workspace.fillCells cells (some (Slots.filled capacity 0))
        (some (Slots.filled capacity 0))) >>= fun written =>
          pairsIn cast capacity written >>= fun pairs => .ok (reply pairs))
      (.ok (reply (writtenPairs capacity (Workspace.writeCells cells
        (some (Slots.filled capacity 0)) (some (Slots.filled capacity 0)))))) := by
  rw [← bind_assoc, fillCells_pairsIn faithful few limit (length_filled capacity 0)
    (length_filled capacity 0)]
  exact .ok _

omit [Scalar K] in
theorem exists_collect (faithful : Faithful cast) {count : Nat} (limit : count ≤ maxDimension)
    {entry : Int → Except Halt K} {value : Int → Except Misuse K}
    (found : ∀ number : Int, 1 ≤ number ∧ number ≤ count →
      ∃ result, entry number = .ok result ∧ value number = .ok result) :
    ∃ results, collectIn cast count entry = .ok results ∧
      (Solution.collect count value : Except (Failure K) (List K)) = .ok results := by
  have each : ∀ index ∈ List.range count, ∃ result,
      (cast (index + 1) >>= fun number => below (entry number)) = .ok result ∧
        value (Slots.narrow (index + 1)) = .ok result := by
    intro index member
    have inside := List.mem_range.mp member
    have small := lt_values31_of_le (Nat.le_trans inside limit)
    obtain ⟨result, looked, answered⟩ :=
      found (index + 1 : Nat) ⟨by omega, Int.ofNat_le.mpr inside⟩
    refine ⟨result, ?_, ?_⟩
    · rw [faithful _ small, Except.ok_bind, looked]
      rfl
    · rw [Slots.narrow_of_lt small, answered]
  obtain ⟨results, looked, answered⟩ := exists_mapM_both each
  refine ⟨results, looked, ?_⟩
  rw [Solution.collect, answered]
  rfl

theorem exists_rowValues (wellFormed : problem.workspace.WellFormed) (faithful : Faithful cast)
    {values : List K} (fits : values.length = problem.workspace.rows.length) :
    ∃ results,
      collectIn cast problem.rowCount (problem.workspace.rowEntry values) = .ok results ∧
        Solution.collect problem.rowCount (problem.workspace.rowValue values) = .ok results := by
  rw [rowCount_eq wellFormed.rowLimit]
  exact exists_collect faithful wellFormed.rowLimit
    fun number inside => Workspace.exists_rowEntry fits inside

theorem exists_columnValues (wellFormed : problem.workspace.WellFormed)
    (faithful : Faithful cast) {values : List K}
    (fits : values.length = problem.workspace.columns.length) :
    ∃ results,
      collectIn cast problem.columnCount (problem.workspace.columnEntry values) = .ok results ∧
        Solution.collect problem.columnCount (problem.workspace.columnValue values) =
          .ok results := by
  rw [columnCount_eq wellFormed.columnLimit]
  exact exists_collect faithful wellFormed.columnLimit
    fun number inside => Workspace.exists_columnEntry fits inside

theorem exists_linear (wellFormed : problem.workspace.WellFormed) (faithful : Faithful cast)
    (algorithm : Algorithm) (method : LinearMethod) (record : SolveRecord) :
    ∃ solution, linearIn cast problem algorithm method record = .ok solution ∧
      Solution.ofLinear problem algorithm method record = .ok solution := by
  have fits := wellFormed.solution method
  obtain ⟨_, rowPrimalIn, rowPrimal⟩ := exists_rowValues wellFormed faithful fits.rowPrimal
  obtain ⟨_, rowDualIn, rowDual⟩ := exists_rowValues wellFormed faithful fits.rowDual
  obtain ⟨_, columnPrimalIn, columnPrimal⟩ :=
    exists_columnValues wellFormed faithful fits.columnPrimal
  obtain ⟨_, columnDualIn, columnDual⟩ := exists_columnValues wellFormed faithful fits.columnDual
  rw [linearIn, rowPrimalIn, rowDualIn, columnPrimalIn, columnDualIn, Solution.ofLinear, rowPrimal,
    rowDual, columnPrimal, columnDual]
  exact ⟨_, rfl, rfl⟩

theorem exists_integer (wellFormed : problem.workspace.WellFormed) (faithful : Faithful cast)
    (record : SolveRecord) :
    ∃ solution, integerIn cast problem record = .ok solution ∧
      Solution.ofInteger problem record = .ok solution := by
  obtain ⟨_, rowsIn, rows⟩ := exists_rowValues wellFormed faithful wellFormed.integer.rowValues
  obtain ⟨_, columnsIn, columns⟩ :=
    exists_columnValues wellFormed faithful wellFormed.integer.columnValues
  rw [integerIn, rowsIn, columnsIn, Solution.ofInteger, rows, columns]
  exact ⟨_, rfl, rfl⟩

theorem extract_of_none {algorithm : Algorithm} (none : problem.record algorithm = .none) :
    Solution.extract problem algorithm = .error (.error (.solverNotRun algorithm)) := by
  rw [Solution.extract, none]
  rfl

theorem exists_solution (wellFormed : problem.workspace.WellFormed) (faithful : Faithful cast)
    {algorithm : Algorithm} {record : SolveRecord}
    (recorded : problem.record algorithm = some record) :
    ∃ solution, solutionIn cast problem algorithm = .ok solution ∧
      Solution.extract problem algorithm = .ok solution := by
  rw [solutionIn, Solution.extract, recorded]
  cases algorithm with
  | simplex => exact exists_linear wellFormed faithful _ _ record
  | interiorPoint => exact exists_linear wellFormed faithful _ _ record
  | branchCut => exact exists_integer wellFormed faithful record

theorem exists_extract_iff (wellFormed : problem.workspace.WellFormed) (algorithm : Algorithm) :
    (∃ solution, Solution.extract problem algorithm = .ok solution) ↔
      (problem.record algorithm).isSome := by
  cases recorded : problem.record algorithm with
  | none =>
      rw [extract_of_none recorded]
      simp
  | some record =>
      obtain ⟨solution, -, answered⟩ := exists_solution wellFormed .plain recorded
      simp [answered]

theorem reads_solution (wellFormed : problem.workspace.WellFormed) (faithful : Faithful cast)
    (algorithm : Algorithm) :
    Reads (solutionIn cast problem algorithm) (Solution.extract problem algorithm) := by
  cases recorded : problem.record algorithm with
  | none =>
      rw [extract_of_none recorded, solutionIn, recorded]
      exact .refusal trivial
  | some record =>
      obtain ⟨solution, looked, answered⟩ := exists_solution wellFormed faithful recorded
      rw [looked, answered]
      exact .ok solution

end Problem

namespace Inquiry

open Problem

variable {problem : Problem K} {cast : Cast K}

section Coefficients

variable (wellFormed : problem.workspace.WellFormed) (faithful : Faithful cast)

include wellFormed faithful

theorem reads_objectiveCoefficient (column : Nat) :
    Reads ((objectiveCoefficient column).read cast problem)
      ((objectiveCoefficient column).answer problem) := by
  simp only [read, answer, Problem.objectiveCoefficient, bind_assoc]
  apply Reads.check (problem.checkColumn_refuses column)
  intro _ checked
  have inside := hasColumn_of_checkColumn wellFormed.columnLimit checked
  have small := inside.lt wellFormed.columnLimit
  -- Number 0 would read the constant of the objective.
  have positive : (column : Int) ≠ 0 := by
    have := inside.1
    omega
  obtain ⟨current, -, looked, answered⟩ := Workspace.exists_columnIn inside
  rw [faithful column small, Except.ok_bind, if_neg positive, looked,
    Slots.narrow_of_lt small, Workspace.objectiveAt, if_neg positive, answered]
  exact .ok _

theorem reads_rowCoefficients (row : Nat) :
    Reads ((rowCoefficients row).read cast problem) ((rowCoefficients row).answer problem) := by
  simp only [read, answer, Problem.rowCoefficients, lift_readRow, bind_assoc]
  apply reads_row wellFormed faithful row
  intro current member
  have few := Workspace.length_cells_le (wellFormed.cells current member)
  rw [columnCount_eq wellFormed.columnLimit]
  exact reads_cells faithful few wellFormed.columnLimit Reply.cells

theorem reads_columnCoefficients (column : Nat) :
    Reads ((columnCoefficients column).read cast problem)
      ((columnCoefficients column).answer problem) := by
  simp only [read, answer, Problem.columnCoefficients, bind_assoc]
  apply Reads.check (problem.checkColumn_refuses column)
  intro _ checked
  have inside := hasColumn_of_checkColumn wellFormed.columnLimit checked
  have small := inside.lt wellFormed.columnLimit
  rw [faithful column small, Except.ok_bind, Slots.narrow_of_lt small, Workspace.readColumn,
    inside.columnPosition, rowCount_eq wellFormed.rowLimit]
  exact reads_cells faithful (Workspace.length_columnCells_le _ _) wellFormed.rowLimit
    Reply.cells

end Coefficients

/-- Every read of a well-formed problem does what its definition says, or refuses. -/
theorem reads (wellFormed : problem.workspace.WellFormed) (faithful : Faithful cast)
    (inquiry : Inquiry) : Reads (inquiry.read cast problem) (inquiry.answer problem) := by
  cases inquiry with
  | name | objectiveConstant | rowCount | columnCount | nonzeroCount | integerColumnCount
  | counters | state => exact .ok _
  | rowName row =>
      simp only [read, answer, Problem.rowName, bind_assoc]
      apply reads_row wellFormed faithful row
      intro current _
      exact .ok _
  | columnName column =>
      simp only [read, answer, Problem.columnName, bind_assoc]
      apply reads_column wellFormed faithful column
      intro current _
      exact .ok _
  | direction =>
      simp only [read, answer, Problem.direction, decode_direction]
      exact .ok _
  | rowBounds row =>
      simp only [read, answer, Problem.rowBounds, bind_assoc]
      apply reads_row wellFormed faithful row
      intro current _
      rw [interval_eq]
      exact .ok _
  | columnBounds column =>
      simp only [read, answer, Problem.columnBounds, bind_assoc]
      apply reads_column wellFormed faithful column
      intro current _
      rw [interval_eq]
      exact .ok _
  | columnKind column =>
      simp only [read, answer, Problem.columnKind, bind_assoc]
      apply reads_column wellFormed faithful column
      intro current _
      rw [decode_kindNumber]
      exact .ok _
  | objectiveCoefficient column => exact reads_objectiveCoefficient wellFormed faithful column
  | rowCoefficients row => exact reads_rowCoefficients wellFormed faithful row
  | columnCoefficients column => exact reads_columnCoefficients wellFormed faithful column
  | solution algorithm =>
      exact (reads_solution wellFormed faithful algorithm).bind fun solution _ => .ok _

end Inquiry

end LinearProgramming
