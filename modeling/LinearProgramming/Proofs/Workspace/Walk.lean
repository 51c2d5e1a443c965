import Mathlib.Data.List.Sort
import LinearProgramming.Workspace.Edit

/-!
# The walk of a deletion

A deletion puts the doomed positions in ascending order and passes over the entries once, with the
next doomed position at hand; columns get a table of new places on the way.  It comes to this: the
entries are left whose positions are not listed, and the new place of a column is its position less
the number of listed ones before it.
-/

namespace LinearProgramming

namespace Workspace

/-! ## Positions in order -/

section Order

variable {positions doomed : List Nat}

theorem insertPosition_eq (position : Nat) (positions : List Nat) :
    insertPosition position positions = positions.orderedInsert (· ≤ ·) position := by
  induction positions with
  | nil => rfl
  | cons first rest inductionHypothesis =>
      rw [insertPosition, List.orderedInsert_cons, inductionHypothesis]

theorem inOrder_eq (positions : List Nat) :
    inOrder positions = positions.insertionSort (· ≤ ·) := by
  induction positions with
  | nil => rfl
  | cons first rest inductionHypothesis =>
      rw [List.insertionSort_cons, ← inductionHypothesis, ← insertPosition_eq]
      rfl

theorem inOrder_perm (positions : List Nat) : (inOrder positions).Perm positions := by
  rw [inOrder_eq]
  exact List.perm_insertionSort _ _

theorem pairwise_inOrder (positions : List Nat) : (inOrder positions).Pairwise (· ≤ ·) := by
  rw [inOrder_eq]
  exact List.pairwise_insertionSort _ _

theorem ascending_inOrder (once : positions.Nodup) : (inOrder positions).Pairwise (· < ·) :=
  (pairwise_inOrder positions).imp₂ (fun _ _ => Nat.lt_of_le_of_ne)
    ((inOrder_perm positions).nodup_iff.mpr once)

theorem dropRepeats_sublist (positions : List Nat) : (dropRepeats positions).Sublist positions := by
  fun_induction dropRepeats positions with
  | case1 => exact .slnil
  | case2 => exact .refl _
  | case3 first rest inductionHypothesis => exact .cons _ inductionHypothesis
  | case4 first second rest differ inductionHypothesis => exact .cons_cons _ inductionHypothesis

theorem ascending_dropRepeats (sorted : positions.Pairwise (· ≤ ·)) :
    (dropRepeats positions).Pairwise (· < ·) := by
  fun_induction dropRepeats positions with
  | case1 => exact .nil
  | case2 position => exact List.pairwise_singleton _ _
  | case3 first rest inductionHypothesis => exact inductionHypothesis sorted.of_cons
  | case4 first second rest differ inductionHypothesis =>
      refine List.pairwise_cons.mpr ⟨fun later member => ?_, inductionHypothesis sorted.of_cons⟩
      obtain ⟨least, tail⟩ := List.pairwise_cons.mp sorted
      have after : second ≤ later := by
        rcases List.mem_cons.mp ((dropRepeats_sublist _).subset member) with rfl | inside
        · exact Nat.le_refl _
        · exact (List.pairwise_cons.mp tail).1 later inside
      have := least second List.mem_cons_self
      omega

theorem dropRepeats_of_ascending (ascending : positions.Pairwise (· < ·)) :
    dropRepeats positions = positions := by
  fun_induction dropRepeats positions with
  | case1 => rfl
  | case2 => rfl
  | case3 first rest inductionHypothesis =>
      exact absurd ((List.pairwise_cons.mp ascending).1 first List.mem_cons_self) (Nat.lt_irrefl _)
  | case4 first second rest differ inductionHypothesis =>
      rw [inductionHypothesis ascending.of_cons]

/-- Positions go through if each is listed once, and then they are put in order. -/
theorem distinct_eq_ok_iff :
    distinct positions = .ok doomed ↔ positions.Nodup ∧ inOrder positions = doomed := by
  have sublist := dropRepeats_sublist (inOrder positions)
  have length := (inOrder_perm positions).length_eq
  rw [distinct]
  constructor
  · intro once
    split at once <;> cases once
    rename_i whole
    have same := sublist.eq_of_length (whole.trans length.symm)
    have ascending := ascending_dropRepeats (pairwise_inOrder positions)
    rw [same] at ascending
    exact ⟨(inOrder_perm positions).nodup_iff.mp (ascending.imp Nat.ne_of_lt), same.symm⟩
  · rintro ⟨once, rfl⟩
    rw [dropRepeats_of_ascending (ascending_inOrder once), if_pos length]
    rfl

end Order

/-! ## Entries that are left -/

def keepOthers {A : Type} (entries : List A) (positions : List Nat) : List A :=
  (entries.zipIdx.filter fun entry => !positions.contains entry.2).map Prod.fst

def newPosition (positions : List Nat) (position : Nat) : Option Nat :=
  if positions.contains position then none
  else some (position - (positions.filter fun removed => decide (removed < position)).length)

section Entries

variable {A : Type} {position next count : Nat} {doomed : List Nat}

theorem head?_eq_some_iff_mem (ascending : doomed.Pairwise (· < ·))
    (ahead : ∀ removed ∈ doomed, position ≤ removed) :
    doomed.head? = some position ↔ position ∈ doomed := by
  cases doomed with
  | nil => simp
  | cons first rest =>
      rw [List.head?_cons, Option.some.injEq, List.mem_cons, eq_comm]
      refine (or_iff_left_of_imp fun member => ?_).symm
      have := (List.pairwise_cons.mp ascending).1 position member
      have := ahead first List.mem_cons_self
      omega

theorem ahead_tail (ascending : doomed.Pairwise (· < ·)) (found : doomed.head? = some position) :
    ∀ removed ∈ doomed.tail, position + 1 ≤ removed := by
  obtain ⟨rest, rfl⟩ := List.head?_eq_some_iff.mp found
  exact (List.pairwise_cons.mp ascending).1

theorem ahead_of_not_mem (ahead : ∀ removed ∈ doomed, position ≤ removed)
    (kept : position ∉ doomed) : ∀ removed ∈ doomed, position + 1 ≤ removed :=
  fun removed member => Nat.lt_of_le_of_ne (ahead removed member) fun same => kept (same ▸ member)

theorem mem_tail_iff (found : doomed.head? = some position) {later : Nat}
    (after : position < later) : later ∈ doomed.tail ↔ later ∈ doomed := by
  obtain ⟨rest, rfl⟩ := List.head?_eq_some_iff.mp found
  rw [List.tail_cons, List.mem_cons, or_iff_right (Nat.ne_of_gt after)]

theorem filter_zipIdx_congr {entries : List A} {others : List Nat}
    (same : ∀ later, position ≤ later → (later ∈ doomed ↔ later ∈ others)) :
    ((entries.zipIdx position).filter fun entry => !doomed.contains entry.2) =
      (entries.zipIdx position).filter fun entry => !others.contains entry.2 := by
  apply List.filter_congr
  rintro ⟨entry, later⟩ member
  simp only [List.contains_eq_mem, same later (List.mem_zipIdx member).1]

/-- What the walk leaves, if the doomed positions are ahead of it in ascending order. -/
theorem retainFrom_eq (ascending : doomed.Pairwise (· < ·))
    (ahead : ∀ removed ∈ doomed, position ≤ removed) (entries : List A) :
    retainFrom position doomed entries =
      ((entries.zipIdx position).filter fun entry => !doomed.contains entry.2).map Prod.fst := by
  -- The position at hand is doomed just if it is the first one that is still ahead.
  induction entries generalizing position doomed with
  | nil => rfl
  | cons entry rest inductionHypothesis =>
      rw [retainFrom, List.zipIdx_cons]
      split
      case isTrue found =>
        have listed := (head?_eq_some_iff_mem ascending ahead).mp found
        rw [List.filter_cons_of_neg (by simpa using listed),
          inductionHypothesis ascending.tail (ahead_tail ascending found),
          filter_zipIdx_congr fun later after => mem_tail_iff found after]
      case isFalse other =>
        have kept := mt (head?_eq_some_iff_mem ascending ahead).mpr other
        rw [List.filter_cons_of_pos (by simpa using kept), List.map_cons,
          inductionHypothesis ascending (ahead_of_not_mem ahead kept)]

theorem retain_eq (ascending : doomed.Pairwise (· < ·)) (entries : List A) :
    retainFrom 0 doomed entries = keepOthers entries doomed :=
  retainFrom_eq ascending (fun _ _ => Nat.zero_le _) entries

example : retainFrom 0 [0, 2] ['a', 'b', 'c', 'd'] = ['b', 'd'] := rfl

theorem retainFrom_sublist (position : Nat) (doomed : List Nat) (entries : List A) :
    (retainFrom position doomed entries).Sublist entries := by
  induction entries generalizing position doomed with
  | nil => exact .slnil
  | cons entry rest inductionHypothesis =>
      rw [retainFrom]
      split
      · exact .cons _ (inductionHypothesis _ _)
      · exact .cons_cons _ (inductionHypothesis _ _)

/-! ## The table of places -/

theorem length_placesFrom (position next : Nat) (doomed : List Nat) (count : Nat) :
    (placesFrom position next doomed count).length = count := by
  induction count generalizing position next doomed with
  | zero => rfl
  | succ count inductionHypothesis =>
      rw [placesFrom]
      split <;> rw [List.length_cons, inductionHypothesis]

/-- The columns that have a place are those that the walk leaves. -/
theorem retainPlaced_placesFrom (position next : Nat) (doomed : List Nat) (entries : List A) :
    retainPlaced (placesFrom position next doomed entries.length) entries =
      retainFrom position doomed entries := by
  induction entries generalizing position next doomed with
  | nil => rfl
  | cons entry rest inductionHypothesis =>
      rw [List.length_cons, placesFrom, retainFrom]
      split
      · exact inductionHypothesis _ _ _
      · exact congrArg (entry :: ·) (inductionHypothesis _ _ _)

theorem le_of_placesFrom {column place : Nat}
    (found : (placesFrom position next doomed count)[column]? = some (some place)) :
    place ≤ next + column := by
  induction count generalizing position next doomed column with
  | zero => cases found
  | succ count inductionHypothesis =>
      rw [placesFrom] at found
      split at found
      · cases column with
        | zero => cases found
        | succ column => exact Nat.le_succ_of_le (inductionHypothesis found)
      · cases column with
        | zero =>
            cases found
            exact Nat.le_refl _
        | succ column =>
            have := inductionHypothesis found
            omega

/-- The place of each column, if the doomed positions are ahead of the walk in ascending order. -/
theorem placesFrom_eq (ascending : doomed.Pairwise (· < ·))
    (ahead : ∀ removed ∈ doomed, position ≤ removed) {column : Nat} (inside : column < count) :
    (placesFrom position next doomed count)[column]? = some
      (if position + column ∈ doomed then none
      else some (next + column -
        (doomed.filter fun removed => decide (removed < position + column)).length)) := by
  -- At a doomed position the walk takes it off the list, and `next` falls behind by one more.
  induction count generalizing position next doomed column with
  | zero => exact absurd inside (Nat.not_lt_zero _)
  | succ count inductionHypothesis =>
      rw [placesFrom]
      split
      case isTrue found =>
        have listed := (head?_eq_some_iff_mem ascending ahead).mp found
        cases column with
        | zero => simp [listed]
        | succ column =>
            rw [List.getElem?_cons_succ, inductionHypothesis ascending.tail
              (ahead_tail ascending found) (Nat.lt_of_succ_lt_succ inside)]
            obtain ⟨rest, rfl⟩ := List.head?_eq_some_iff.mp found
            have later : position + 1 + column = position + (column + 1) := by omega
            have before : position < position + (column + 1) := by omega
            rw [later, ← Nat.add_assoc next]
            generalize position + (column + 1) = number at before ⊢
            have counted : ((position :: rest).filter fun removed =>
                decide (removed < number)).length =
                (rest.filter fun removed => decide (removed < number)).length + 1 := by
              simp [before]
            rw [counted, Nat.add_sub_add_right, List.tail_cons]
            simp only [List.mem_cons, Nat.ne_of_gt before, false_or]
      case isFalse other =>
        have kept := mt (head?_eq_some_iff_mem ascending ahead).mpr other
        cases column with
        | zero =>
            have none : doomed.filter (fun removed => decide (removed < position)) = [] := by
              rw [List.filter_eq_nil_iff]
              intro removed member
              simpa using ahead removed member
            simp [kept, none]
        | succ column =>
            rw [List.getElem?_cons_succ, inductionHypothesis ascending
              (ahead_of_not_mem ahead kept) (Nat.lt_of_succ_lt_succ inside)]
            have later : position + 1 + column = position + (column + 1) := by omega
            have step : next + 1 + column = next + (column + 1) := by omega
            rw [later, step]

theorem places_eq (ascending : doomed.Pairwise (· < ·)) {column : Nat} (inside : column < count) :
    (placesFrom 0 0 doomed count).getD column none = newPosition doomed column := by
  rw [List.getD_eq_getElem?_getD, placesFrom_eq ascending (fun _ _ => Nat.zero_le _) inside,
    newPosition]
  simp

example : placesFrom 0 0 [0, 2] 4 = [none, some 0, none, some 1] := rfl

end Entries

end Workspace

/-! ## Removals by membership -/

theorem SparseRow.renumber_congr {K : Type} {row : SparseRow K} {place other : Nat → Option Nat}
    (same : ∀ cell ∈ row.cells, place cell.1 = other cell.1) :
    row.renumber place = row.renumber other := by
  rw [renumber, renumber]
  congr 1
  apply List.filterMap_congr
  intro cell member
  rw [same cell member]

namespace Workspace

variable {K : Type} [Scalar K] {workspace : Workspace K} {positions others doomed : List Nat}

/-- The workspace without the rows at the listed positions, whatever their order. -/
def dropRows (workspace : Workspace K) (positions : List Nat) : Workspace K :=
  ({ workspace with rows := keepOthers workspace.rows positions } : Workspace K).discard

def dropColumns (workspace : Workspace K) (positions : List Nat) : Workspace K :=
  ({ workspace with
      columns := keepOthers workspace.columns positions
      rows := workspace.rows.map fun row =>
        { row with cells := row.cells.renumber (newPosition positions) } } :
    Workspace K).discard

theorem removeRows_eq (ascending : doomed.Pairwise (· < ·)) :
    workspace.removeRows doomed = workspace.dropRows doomed := by
  rw [removeRows, retain_eq ascending, dropRows]

theorem removeColumns_eq (ascending : doomed.Pairwise (· < ·))
    (below : ∀ row ∈ workspace.rows, ∀ cell ∈ row.cells.cells,
      cell.1 < workspace.columns.length) :
    workspace.removeColumns doomed = workspace.dropColumns doomed := by
  have rows : workspace.rows.map (.renumber (placesFrom 0 0 doomed workspace.columns.length)) =
      workspace.rows.map fun row =>
        { row with cells := row.cells.renumber (newPosition doomed) } := by
    apply List.map_congr_left
    intro row member
    rw [WorkRow.renumber, SparseRow.renumber_congr]
    exact fun cell stored => places_eq ascending (below row member cell stored)
  rw [removeColumns]
  simp only [retainPlaced_placesFrom, retain_eq ascending, rows]
  rfl

section Order

variable (same : positions.Perm others)

include same

theorem keepOthers_perm {A : Type} (entries : List A) :
    keepOthers entries positions = keepOthers entries others :=
  congrArg (List.map Prod.fst) (filter_zipIdx_congr fun _ _ => same.mem_iff)

theorem newPosition_perm : newPosition positions = newPosition others := by
  funext position
  simp only [newPosition, List.contains_eq_mem, same.mem_iff, (same.filter _).length_eq]

theorem dropRows_perm (workspace : Workspace K) :
    workspace.dropRows positions = workspace.dropRows others := by
  rw [dropRows, dropRows, keepOthers_perm same]

theorem dropColumns_perm (workspace : Workspace K) :
    workspace.dropColumns positions = workspace.dropColumns others := by
  rw [dropColumns, dropColumns, keepOthers_perm same, newPosition_perm same]

end Order

end Workspace

end LinearProgramming
