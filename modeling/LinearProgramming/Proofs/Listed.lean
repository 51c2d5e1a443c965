import Mathlib.Data.List.Nodup
import LinearProgramming.Matrix

/-!
# Values that a list has at a place

Where a list names one place more than once, the last value counts.  The two ways in which
repeated places are taken out before a numbered call, `lastValues` by the first appearance and
`SparseMatrix.lastWrites` by the last, keep this value at every place.
-/

namespace LinearProgramming

variable {A B K : Type} [DecidableEq A] [DecidableEq B]

/-- The value of the last entry that a list has at a place. -/
def lastListed (entries : List (A × K)) (place : A) : Option K :=
  entries.reverse.lookup place

theorem lookup_cons_eq (entry : A × K) (rest : List (A × K)) (place : A) :
    (entry :: rest).lookup place =
      if place = entry.1 then some entry.2 else rest.lookup place := by
  rw [List.lookup_cons]
  by_cases same : place = entry.1
  · rw [if_pos same, beq_iff_eq.mpr same]
  · rw [if_neg same, beq_eq_false_iff_ne.mpr same]

theorem lookup_eq_some_iff_mem {entries : List (A × K)} (once : (entries.map Prod.fst).Nodup)
    {place : A} {value : K} : entries.lookup place = some value ↔ (place, value) ∈ entries := by
  induction entries with
  | nil => simp
  | cons first rest inductionHypothesis =>
      obtain ⟨fresh, others⟩ := List.nodup_cons.mp once
      rw [List.mem_cons, lookup_cons_eq]
      by_cases found : place = first.1
      · subst found
        have absent : (first.1, value) ∉ rest := fun listed =>
          fresh (List.mem_map.mpr ⟨_, listed, rfl⟩)
        simp [absent, Prod.ext_iff, eq_comm]
      · have other : (place, value) ≠ first := fun equal => found (congrArg Prod.fst equal)
        rw [if_neg found, inductionHypothesis others, or_iff_right other]

@[simp]
theorem lastListed_nil (place : A) : lastListed ([] : List (A × K)) place = none := rfl

theorem lastListed_cons (entry : A × K) (rest : List (A × K)) (place : A) :
    lastListed (entry :: rest) place =
      (lastListed rest place).or (if place = entry.1 then some entry.2 else none) := by
  rw [lastListed, List.reverse_cons, List.lookup_append, lookup_cons_eq]
  rfl

theorem lastListed_eq_some_iff {entries : List (A × K)} (once : (entries.map Prod.fst).Nodup)
    {place : A} {value : K} : lastListed entries place = some value ↔ (place, value) ∈ entries := by
  rw [lastListed, lookup_eq_some_iff_mem, List.mem_reverse]
  rwa [List.map_reverse, List.nodup_reverse]

theorem lastListed_eq_none_iff {entries : List (A × K)} {place : A} :
    lastListed entries place = none ↔ place ∉ entries.map Prod.fst := by
  induction entries with
  | nil => simp
  | cons first rest inductionHypothesis =>
      rw [lastListed_cons, Option.or_eq_none_iff, inductionHypothesis, List.map_cons,
        List.mem_cons, not_or, and_comm]
      simp

theorem lastListed_map (move : A → B) {entries : List (A × K)} (place : A)
    (apart : ∀ entry ∈ entries, move entry.1 = move place → entry.1 = place) :
    lastListed (entries.map fun entry => (move entry.1, entry.2)) (move place) =
      lastListed entries place := by
  induction entries with
  | nil => rfl
  | cons first rest inductionHypothesis =>
      obtain ⟨head, tail⟩ := List.forall_mem_cons.mp apart
      have same : move place = move first.1 ↔ place = first.1 :=
        ⟨fun moved => (head moved.symm).symm, congrArg move⟩
      rw [List.map_cons, lastListed_cons, lastListed_cons, inductionHypothesis tail]
      simp only [same]

/-! ## Repeated places of a row or a column -/

section Values

variable {pairs : List (Nat × K)}

theorem map_fst_assign (index : Nat) (value : K) (pairs : List (Nat × K)) :
    (assign index value pairs).map Prod.fst =
      if index ∈ pairs.map Prod.fst then pairs.map Prod.fst
      else pairs.map Prod.fst ++ [index] := by
  induction pairs with
  | nil => rfl
  | cons first rest inductionHypothesis =>
      rw [assign]
      by_cases found : first.1 = index
      · simp [found]
      · have other : index ≠ first.1 := Ne.symm found
        rw [if_neg found, List.map_cons, inductionHypothesis]
        split <;> simp_all

theorem nodup_assign (once : (pairs.map Prod.fst).Nodup) (index : Nat) (value : K) :
    ((assign index value pairs).map Prod.fst).Nodup := by
  rw [map_fst_assign]
  split
  · exact once
  · rename_i fresh
    exact List.nodup_append'.mpr ⟨once, List.nodup_singleton index, by simpa using fresh⟩

theorem lastListed_assign (once : (pairs.map Prod.fst).Nodup) (index : Nat) (value : K)
    (place : Nat) :
    lastListed (assign index value pairs) place =
      if place = index then some value else lastListed pairs place := by
  induction pairs with
  | nil => simp [assign, lastListed_cons]
  | cons first rest inductionHypothesis =>
      obtain ⟨fresh, others⟩ := List.nodup_cons.mp once
      rw [assign]
      split
      · rename_i found
        subst found
        rw [lastListed_cons, lastListed_cons]
        by_cases same : place = first.1
        · subst same
          simp [lastListed_eq_none_iff.mpr fresh]
        · simp [same]
      · rename_i other
        rw [lastListed_cons, inductionHypothesis others, lastListed_cons]
        by_cases same : place = index
        · simp [same]
        · simp [same]

/-- Of the values that are assigned one after the other the last ones are left, before those
that were there. -/
theorem lastListed_foldl_assign {start : List (Nat × K)} (once : (start.map Prod.fst).Nodup)
    (pairs : List (Nat × K)) (place : Nat) :
    lastListed (pairs.foldl (fun values pair => assign pair.1 pair.2 values) start) place =
      (lastListed pairs place).or (lastListed start place) := by
  induction pairs generalizing start with
  | nil => rfl
  | cons first rest inductionHypothesis =>
      rw [List.foldl_cons, inductionHypothesis (nodup_assign once first.1 first.2),
        lastListed_assign once, lastListed_cons, Option.or_assoc]
      congr 1
      split <;> rfl

theorem nodup_foldl_assign {start : List (Nat × K)} (once : (start.map Prod.fst).Nodup)
    (pairs : List (Nat × K)) :
    ((pairs.foldl (fun values pair => assign pair.1 pair.2 values) start).map Prod.fst).Nodup := by
  induction pairs generalizing start with
  | nil => exact once
  | cons first rest inductionHypothesis =>
      exact inductionHypothesis (nodup_assign once first.1 first.2)

theorem nodup_lastValues (pairs : List (Nat × K)) :
    ((lastValues pairs).map Prod.fst).Nodup :=
  nodup_foldl_assign (by exact List.nodup_nil) pairs

theorem lastListed_lastValues (pairs : List (Nat × K)) (place : Nat) :
    lastListed (lastValues pairs) place = lastListed pairs place := by
  have none : (([] : List (Nat × K)).map Prod.fst).Nodup := List.nodup_nil
  rw [lastValues, lastListed_foldl_assign none, lastListed_nil, Option.or_none]

end Values

/-! ## Repeated cells of a matrix -/

namespace SparseMatrix

def atCell (entry : Nat × Nat × K) : (Nat × Nat) × K :=
  ((entry.1, entry.2.1), entry.2.2)

theorem any_sameCell_iff (entry : Nat × Nat × K) (entries : List (Nat × Nat × K)) :
    entries.any (sameCell entry) = true ↔
      (atCell entry).1 ∈ (entries.map atCell).map Prod.fst := by
  rw [List.any_eq_true, List.map_map, List.mem_map]
  apply exists_congr
  intro other
  simp only [sameCell, Bool.and_eq_true, beq_iff_eq, Function.comp_apply, atCell, Prod.mk.injEq,
    eq_comm (a := entry.1), eq_comm (a := entry.2.1)]

theorem lastListed_lastWrites (entries : List (Nat × Nat × K)) (cell : Nat × Nat) :
    lastListed ((lastWrites entries).map atCell) cell = lastListed (entries.map atCell) cell := by
  induction entries with
  | nil => rfl
  | cons entry rest inductionHypothesis =>
      rw [lastWrites, List.map_cons, lastListed_cons]
      split
      · rename_i repeated
        rw [inductionHypothesis]
        by_cases same : cell = (atCell entry).1
        · -- A later entry at the same cell has the say.
          have later : lastListed (rest.map atCell) cell ≠ none := by
            rw [Ne, lastListed_eq_none_iff, not_not, same]
            exact (any_sameCell_iff entry rest).mp repeated
          obtain ⟨value, found⟩ := Option.ne_none_iff_exists'.mp later
          rw [found, Option.some_or]
        · rw [if_neg same, Option.or_none]
      · rw [List.map_cons, lastListed_cons, inductionHypothesis]

theorem lastListed_column (cells : List (Nat × K)) (target row column : Nat) :
    lastListed ((cells.map fun cell => (cell.1, target, cell.2)).map atCell) (row, column) =
      if column = target then lastListed cells row else none := by
  induction cells with
  | nil => simp
  | cons first rest inductionHypothesis =>
      rw [List.map_cons, List.map_cons, lastListed_cons, lastListed_cons, inductionHypothesis]
      by_cases here : column = target
      · simp [here, atCell]
      · simp [here, atCell]

end SparseMatrix

end LinearProgramming
