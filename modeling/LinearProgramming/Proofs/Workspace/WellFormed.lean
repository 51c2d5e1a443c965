import LinearProgramming.Proofs.Workspace.Effects

/-!
# Well-formed workspaces

A workspace is well formed if its coefficients stand at columns that it has, its stored
solutions hold one value for each of its rows and columns, and neither number exceeds the
largest dimension.  Every numbered change of a workspace keeps it well formed.
-/

namespace LinearProgramming

def SparseRow.Below {K : Type} (row : SparseRow K) (columns : Nat) : Prop :=
  ∀ cell ∈ row.cells, cell.1 < columns

namespace SparseRow

variable {K : Type} {row : SparseRow K} {columns : Nat}

theorem Below.empty : (SparseRow.empty : SparseRow K).Below columns := by
  simp [Below, SparseRow.empty]

theorem Below.mono {more : Nat} (below : row.Below columns) (le : columns ≤ more) :
    row.Below more :=
  fun cell member => Nat.lt_of_lt_of_le (below cell member) le

theorem Below.insert (below : row.Below columns) {column : Nat} (inside : column < columns)
    (value : K) : (row.insert column value).Below columns := by
  intro cell member
  rcases mem_insertCell member with rfl | old
  · exact inside
  · exact below cell old

theorem Below.erase (below : row.Below columns) (column : Nat) :
    (row.erase column).Below columns :=
  fun cell member => below cell (List.mem_filter.mp member).1

theorem Below.foldl_insert {cells : List (Nat × K)} (inside : ∀ cell ∈ cells, cell.1 < columns)
    (below : row.Below columns) :
    (cells.foldl (fun row cell => row.insert cell.1 cell.2) row).Below columns := by
  induction cells generalizing row with
  | nil => exact below
  | cons cell cells inductionHypothesis =>
      obtain ⟨first, rest⟩ := List.forall_mem_cons.mp inside
      exact inductionHypothesis rest (below.insert first cell.2)

theorem ofCells_below {cells : List (Nat × K)} (inside : ∀ cell ∈ cells, cell.1 < columns) :
    (ofCells cells).Below columns :=
  Below.foldl_insert inside .empty

theorem renumber_below {place : Nat → Option Nat}
    (inside : ∀ cell ∈ row.cells, ∀ column, place cell.1 = some column → column < columns) :
    (row.renumber place).Below columns := by
  apply ofCells_below
  intro moved member
  obtain ⟨cell, old, found⟩ := List.mem_filterMap.mp member
  obtain ⟨column, placed, rfl⟩ := Option.map_eq_some_iff.mp found
  exact inside cell old column placed

end SparseRow

structure Point.Fits {K : Type} (point : Point K) (rows columns : Nat) : Prop where
  rowPrimal : point.rowPrimal.length = rows
  rowDual : point.rowDual.length = rows
  columnPrimal : point.columnPrimal.length = columns
  columnDual : point.columnDual.length = columns

structure IntegerSolution.Fits {K : Type} (solution : IntegerSolution K) (rows columns : Nat) :
    Prop where
  rowValues : solution.rowValues.length = rows
  columnValues : solution.columnValues.length = columns

namespace Workspace

variable {K : Type}

structure InRange (workspace : Workspace K) : Prop where
  cells : ∀ row ∈ workspace.rows, row.cells.Below workspace.columns.length
  rowLimit : workspace.rows.length ≤ maxDimension
  columnLimit : workspace.columns.length ≤ maxDimension

/-- Data in range, and stored solutions of the same dimensions. -/
structure WellFormed (workspace : Workspace K) : Prop extends InRange workspace where
  basic : workspace.basic.point.Fits workspace.rows.length workspace.columns.length
  interior : workspace.interior.point.Fits workspace.rows.length workspace.columns.length
  integer : workspace.integer.Fits workspace.rows.length workspace.columns.length

end Workspace

section Solutions

variable {K : Type} [Scalar K]

theorem LinearSolution.none_fits (rows columns : Nat) :
    (LinearSolution.none rows columns : LinearSolution K).point.Fits rows columns := by
  constructor <;> simp [LinearSolution.none, Dense.zeros]

theorem IntegerSolution.none_fits (rows columns : Nat) :
    (IntegerSolution.none rows columns : IntegerSolution K).Fits rows columns := by
  constructor <;> simp [IntegerSolution.none, Dense.zeros]

end Solutions

namespace Workspace

variable {K : Type} [Scalar K] {workspace : Workspace K}

theorem InRange.discard (inRange : workspace.InRange) : workspace.discard.WellFormed where
  cells := inRange.cells
  rowLimit := inRange.rowLimit
  columnLimit := inRange.columnLimit
  basic := LinearSolution.none_fits _ _
  interior := LinearSolution.none_fits _ _
  integer := IntegerSolution.none_fits _ _

theorem empty_wellFormed : (empty : Workspace K).WellFormed where
  cells := by simp [empty]
  rowLimit := Nat.zero_le _
  columnLimit := Nat.zero_le _
  basic := LinearSolution.none_fits _ _
  interior := LinearSolution.none_fits _ _
  integer := IntegerSolution.none_fits _ _

theorem WellFormed.copy (wellFormed : workspace.WellFormed) : workspace.copy.WellFormed :=
  { wellFormed.toInRange.discard with }

/-! ## Changes of the data -/

section Changes

omit [Scalar K]

theorem mem_modify {A : Type} {entries : List A} {position : Nat} {change : A → A} {entry : A}
    (member : entry ∈ entries.modify position change) :
    entry ∈ entries ∨ ∃ old ∈ entries, change old = entry := by
  obtain ⟨index, inside, rfl⟩ := List.mem_iff_getElem.mp member
  rw [List.length_modify] at inside
  rw [List.getElem_modify]
  by_cases changed : position = index
  · rw [if_pos changed]
    exact .inr ⟨_, List.getElem_mem inside, rfl⟩
  · rw [if_neg changed]
    exact .inl (List.getElem_mem inside)

theorem InRange.modifyRow (inRange : workspace.InRange) (change : WorkRow K → WorkRow K)
    (keeps : ∀ row : WorkRow K, row.cells.Below workspace.columns.length →
      (change row).cells.Below workspace.columns.length) (position : Nat) :
    (workspace.modifyRow position change).InRange where
  cells row member := by
    rcases mem_modify member with old | ⟨row, old, rfl⟩
    · exact inRange.cells row old
    · exact keeps row (inRange.cells row old)
  rowLimit := by simpa [Workspace.modifyRow] using inRange.rowLimit
  columnLimit := inRange.columnLimit

theorem InRange.mapRows (inRange : workspace.InRange) (change : WorkRow K → WorkRow K)
    (keeps : ∀ row : WorkRow K, row.cells.Below workspace.columns.length →
      (change row).cells.Below workspace.columns.length) :
    ({ workspace with rows := workspace.rows.map change } : Workspace K).InRange where
  cells row member := by
    obtain ⟨old, inside, rfl⟩ := List.mem_map.mp member
    exact keeps old (inRange.cells old inside)
  rowLimit := by simpa using inRange.rowLimit
  columnLimit := inRange.columnLimit

theorem InRange.modifyColumn (inRange : workspace.InRange) (position : Nat)
    (change : WorkColumn K → WorkColumn K) :
    (workspace.modifyColumn position change).InRange where
  cells := by simpa [Workspace.modifyColumn] using inRange.cells
  rowLimit := inRange.rowLimit
  columnLimit := by simpa [Workspace.modifyColumn] using inRange.columnLimit

theorem InRange.insertCell (inRange : workspace.InRange) (row : Nat) {column : Nat}
    (inside : column < workspace.columns.length) (value : K) :
    (workspace.insertCell row column value).InRange :=
  inRange.modifyRow _ (fun _ below => below.insert inside value) row

theorem InRange.foldl_insertCell (inRange : workspace.InRange) {A : Type}
    (place : A → Nat × Nat × K) {entries : List A}
    (inside : ∀ entry ∈ entries, (place entry).2.1 < workspace.columns.length) :
    (entries.foldl (fun current entry =>
      current.insertCell (place entry).1 (place entry).2.1 (place entry).2.2)
      workspace).InRange := by
  induction entries generalizing workspace with
  | nil => exact inRange
  | cons entry entries inductionHypothesis =>
      obtain ⟨first, rest⟩ := List.forall_mem_cons.mp inside
      exact inductionHypothesis (inRange.insertCell _ first _) rest

end Changes

/-! ## Positions after a deletion -/

section Deletion

omit [Scalar K]

variable {positions : List Nat}

theorem length_keepOthers {A : Type} (entries : List A) (positions : List Nat) :
    (keepOthers entries positions).length =
      (List.range entries.length).countP fun position => !positions.contains position := by
  rw [List.range_eq_range', ← List.zipIdx_map_snd, List.countP_map,
    List.countP_eq_length_filter, keepOthers, List.length_map]
  rfl

theorem le_countP_range (positions : List Nat) (position : Nat) :
    position - (positions.filter fun removed => decide (removed < position)).length ≤
      (List.range position).countP fun position => !positions.contains position := by
  -- Positions that are listed twice are removed once, so this is no equation.
  have removed : (List.range position).countP (positions.contains ·) ≤
      (positions.filter fun removed => decide (removed < position)).length := by
    rw [List.countP_eq_length_filter]
    apply List.Nodup.length_le_of_subset (List.nodup_range.filter _)
    intro index member
    simpa [and_comm] using member
  have all := List.length_eq_countP_add_countP (positions.contains ·) (l := List.range position)
  simp only [List.length_range, decide_not, Bool.decide_eq_true] at all
  omega

theorem newPosition_lt {A : Type} {entries : List A} {position place : Nat}
    (inside : position < entries.length) (found : newPosition positions position = some place) :
    place < (keepOthers entries positions).length := by
  rw [newPosition] at found
  split at found
  case isTrue => contradiction
  case isFalse kept =>
    obtain rfl := Option.some.inj found
    have before := le_countP_range positions position
    have upTo : (List.range (position + 1)).Sublist (List.range entries.length) :=
      List.range_sublist.mpr inside
    have counted := upTo.countP_le (p := fun position => !positions.contains position)
    rw [List.range_succ, List.countP_append, List.countP_singleton, if_pos (by simpa using kept)]
      at counted
    rw [length_keepOthers]
    omega

theorem length_keepOthers_le {A : Type} (entries : List A) (positions : List Nat) :
    (keepOthers entries positions).length ≤ entries.length := by
  rw [length_keepOthers]
  simpa using List.countP_le_length (l := List.range entries.length)

theorem mem_of_mem_keepOthers {A : Type} {entries : List A} {entry : A}
    (member : entry ∈ keepOthers entries positions) : entry ∈ entries := by
  obtain ⟨⟨kept, position⟩, inside, rfl⟩ := List.mem_map.mp member
  exact (List.mem_zipIdx' (List.mem_filter.mp inside).1).2 ▸ List.getElem_mem _

end Deletion

theorem InRange.dropRows (inRange : workspace.InRange) (positions : List Nat) :
    (workspace.dropRows positions).WellFormed := by
  apply InRange.discard
  constructor
  · exact fun row member => inRange.cells row (mem_of_mem_keepOthers member)
  · exact Nat.le_trans (length_keepOthers_le workspace.rows positions) inRange.rowLimit
  · exact inRange.columnLimit

theorem InRange.dropColumns (inRange : workspace.InRange) (positions : List Nat) :
    (workspace.dropColumns positions).WellFormed := by
  apply InRange.discard
  constructor
  · intro row member
    obtain ⟨old, inside, rfl⟩ := List.mem_map.mp member
    apply SparseRow.renumber_below
    intro cell stored column found
    exact newPosition_lt (inRange.cells old inside cell stored) found
  · simpa using inRange.rowLimit
  · exact Nat.le_trans (length_keepOthers_le workspace.columns positions) inRange.columnLimit

/-! ## Numbered changes -/

variable {next : Workspace K}

section Names

omit [Scalar K]

theorem WellFormed.renameRow (wellFormed : workspace.WellFormed) (position : Nat)
    (name : Option String) :
    (workspace.modifyRow position fun current => { current with name }).WellFormed where
  toInRange :=
    wellFormed.toInRange.modifyRow (fun current => { current with name }) (fun _ below => below)
      position
  basic := by simpa [Workspace.modifyRow] using wellFormed.basic
  interior := by simpa [Workspace.modifyRow] using wellFormed.interior
  integer := by simpa [Workspace.modifyRow] using wellFormed.integer

theorem WellFormed.renameColumn (wellFormed : workspace.WellFormed) (position : Nat)
    (name : Option String) :
    (workspace.modifyColumn position fun current => { current with name }).WellFormed where
  toInRange := wellFormed.modifyColumn position _
  basic := by simpa [Workspace.modifyColumn] using wellFormed.basic
  interior := by simpa [Workspace.modifyColumn] using wellFormed.interior
  integer := by simpa [Workspace.modifyColumn] using wellFormed.integer

end Names

theorem InRange.replaceRow (inRange : workspace.InRange) (position : Nat)
    {cells : List (Nat × K)} (inside : ∀ cell ∈ cells, cell.1 < workspace.columns.length) :
    (workspace.replaceRow position cells).WellFormed :=
  (inRange.modifyRow _ (fun _ _ => SparseRow.ofCells_below inside) position).discard

theorem InRange.replaceColumn (inRange : workspace.InRange) {column : Nat}
    (inside : column < workspace.columns.length) (cells : List (Nat × K)) :
    (workspace.replaceColumn column cells).WellFormed := by
  have cleared := inRange.mapRows (fun row => { row with cells := row.cells.erase column })
    fun _ below => below.erase column
  exact (cleared.foldl_insertCell (fun cell : Nat × K => (cell.1, column, cell.2))
    fun _ _ => inside).discard

theorem InRange.replaceMatrix (inRange : workspace.InRange) {entries : List (Nat × Nat × K)}
    (inside : ∀ entry ∈ entries, entry.2.1 < workspace.columns.length) :
    (workspace.replaceMatrix entries).WellFormed := by
  have cleared := inRange.mapRows (fun row => { row with cells := .empty }) fun _ _ => .empty
  exact (cleared.foldl_insertCell id inside).discard

theorem InRange.appendRows (inRange : workspace.InRange) {count : Int}
    (room : hasRoom workspace.rows.length count = true) :
    (workspace.appendRows count.toNat).WellFormed := by
  apply InRange.discard
  constructor
  · intro row member
    rcases List.mem_append.mp member with old | new
    · exact inRange.cells row old
    · obtain rfl := List.eq_of_mem_replicate new
      exact .empty
  · simp only [hasRoom, decide_eq_true_eq, List.length_append, List.length_replicate] at room ⊢
    omega
  · exact inRange.columnLimit

theorem InRange.appendColumns (inRange : workspace.InRange) {count : Int}
    (room : hasRoom workspace.columns.length count = true) :
    (workspace.appendColumns count.toNat).WellFormed := by
  apply InRange.discard
  constructor
  · exact fun row member => (inRange.cells row member).mono (by simp)
  · exact inRange.rowLimit
  · simp only [hasRoom, decide_eq_true_eq, List.length_append, List.length_replicate] at room ⊢
    omega

/-- Every numbered change keeps a workspace well formed. -/
theorem WellFormed.run (wellFormed : workspace.WellFormed) {command : Command K}
    {number : Option Int} (ran : command.run workspace = .ok (next, number)) :
    next.WellFormed := by
  have inRange := wellFormed.toInRange
  cases Command.effect_of_run ran with
  | setName => exact { wellFormed with }
  | setRowName => exact wellFormed.renameRow _ _
  | setColumnName => exact wellFormed.renameColumn _ _
  | setDirection | setConstant => exact InRange.discard { inRange with }
  | setCost | setColumnBound | setColumnKind => exact (inRange.modifyColumn _ _).discard
  | addRows room => exact inRange.appendRows room
  | addColumns room => exact inRange.appendColumns room
  | addNoRows | addNoColumns => exact wellFormed
  | setRowBound =>
      refine (inRange.modifyRow _ ?_ _).discard
      exact fun _ below => below
  | setRow _ inside => exact inRange.replaceRow _ inside
  | setColumn found => exact inRange.replaceColumn (lt_of_columnPosition found) _
  | loadMatrix inside =>
      exact inRange.replaceMatrix fun entry member => (inside entry member).2
  | deleteRows _ ascending =>
      rw [removeRows_eq ascending]
      exact inRange.dropRows _
  | deleteColumns _ ascending =>
      rw [removeColumns_eq ascending inRange.cells]
      exact inRange.dropColumns _

end Workspace
end LinearProgramming
