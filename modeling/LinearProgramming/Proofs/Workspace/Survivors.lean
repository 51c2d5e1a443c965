import Mathlib.Data.Nat.Nth
import LinearProgramming.Proofs.Workspace.WellFormed

/-!
# Numbers after a deletion

What stays after a deletion is renumbered in order, so the new number `n` stands for the `n`-th
number that is not removed.  This one function of the removed numbers says where every entry, and
every column position of a sparse row, comes from; two deletions compose as these functions do.
-/

namespace LinearProgramming

/-- The old number of what has the given number after a deletion. -/
noncomputable def survivor (removed : List Nat) (number : Nat) : Nat :=
  Nat.nth (· ∉ removed) number

section Survivors

variable {removed : List Nat} {number : Nat}

theorem infinite_not_mem (removed : List Nat) : {number : Nat | number ∉ removed}.Infinite :=
  removed.finite_toSet.infinite_compl

theorem survivor_not_mem (removed : List Nat) (number : Nat) :
    survivor removed number ∉ removed :=
  Nat.nth_mem_of_infinite (infinite_not_mem removed) number

theorem survivor_strictMono (removed : List Nat) : StrictMono (survivor removed) :=
  Nat.nth_strictMono (infinite_not_mem removed)

theorem survivor_injective (removed : List Nat) : (survivor removed).Injective :=
  (survivor_strictMono removed).injective

theorem survivor_count (kept : number ∉ removed) :
    survivor removed (Nat.count (· ∉ removed) number) = number :=
  Nat.nth_count kept

theorem survivor_eq_iff {place : Nat} :
    survivor removed place = number ↔
      number ∉ removed ∧ Nat.count (· ∉ removed) number = place := by
  constructor
  · rintro rfl
    exact ⟨survivor_not_mem removed place, Nat.count_nth_of_infinite (infinite_not_mem removed) _⟩
  · rintro ⟨kept, rfl⟩
    exact survivor_count kept

@[simp]
theorem survivor_nil (number : Nat) : survivor [] number = number :=
  Nat.nth_of_forall fun _ _ => List.not_mem_nil

/-- All that two deletions remove, in the numbers from before; the later one is numbered after the
first. -/
def Combines (first later all : List Nat) : Prop :=
  ∀ number, number ∈ all ↔ number ∈ first ∨ ∃ place ∈ later, survivor first place = number

/-- Two deletions after one another are one deletion of all that they remove. -/
theorem Combines.survivor_survivor {later all : List Nat} (combines : Combines removed later all)
    (number : Nat) :
    survivor removed (survivor later number) = survivor all number := by
  have kept : ∀ place, survivor removed place ∉ all ↔ place ∉ later := by
    intro place
    rw [combines, or_iff_right (survivor_not_mem removed place), not_iff_not]
    constructor
    · rintro ⟨other, listed, same⟩
      exact survivor_injective removed same ▸ listed
    · exact fun listed => ⟨place, listed, rfl⟩
  have composed := Nat.nth_comp_of_strictMono (p := (· ∉ all)) (n := number)
    (survivor_strictMono removed)
    (fun old stays => ⟨_, survivor_count fun listed => stays ((combines old).mpr (.inl listed))⟩)
    (fun finite => absurd finite (infinite_not_mem all))
  simp only [kept] at composed
  exact composed

theorem survivor_zero (positive : ∀ number ∈ removed, 1 ≤ number) : survivor removed 0 = 0 :=
  Nat.nth_zero_of_zero fun listed => absurd (positive 0 listed) (by decide)

theorem mem_map_pred_iff (positive : ∀ number ∈ removed, 1 ≤ number) {position : Nat} :
    position ∈ removed.map (· - 1) ↔ position + 1 ∈ removed := by
  rw [List.mem_map]
  constructor
  · rintro ⟨old, listed, rfl⟩
    rwa [Nat.sub_add_cancel (positive old listed)]
  · exact fun listed => ⟨position + 1, listed, rfl⟩

/-- Numbers that are counted from one survive as positions do that are counted from zero. -/
theorem survivor_succ (positive : ∀ number ∈ removed, 1 ≤ number) (number : Nat) :
    survivor removed (number + 1) = survivor (removed.map (· - 1)) number + 1 := by
  have zeroStays : 0 ∉ removed := fun listed => absurd (positive 0 listed) (by decide)
  obtain ⟨kept, counted⟩ := survivor_eq_iff.mp (rfl : survivor (removed.map (· - 1)) number = _)
  rw [survivor_eq_iff, Nat.count_succ', if_pos zeroStays]
  simp only [← mem_map_pred_iff positive]
  exact ⟨kept, congrArg (· + 1) counted⟩

theorem Combines.pred {first later all : List Nat} (combines : Combines first later all)
    (firstPositive : ∀ number ∈ first, 1 ≤ number) (laterPositive : ∀ number ∈ later, 1 ≤ number)
    (allPositive : ∀ number ∈ all, 1 ≤ number) :
    Combines (first.map (· - 1)) (later.map (· - 1)) (all.map (· - 1)) := by
  intro position
  rw [mem_map_pred_iff allPositive, mem_map_pred_iff firstPositive, combines (position + 1)]
  apply or_congr_right
  constructor
  · rintro ⟨place, listed, same⟩
    obtain ⟨place, rfl⟩ := Nat.exists_eq_add_of_le' (laterPositive place listed)
    rw [survivor_succ firstPositive] at same
    exact ⟨place, (mem_map_pred_iff laterPositive).mpr listed, Nat.succ.inj same⟩
  · rintro ⟨place, listed, rfl⟩
    exact ⟨place + 1, (mem_map_pred_iff laterPositive).mp listed, survivor_succ firstPositive place⟩

theorem count_not_mem_add (once : removed.Nodup) (number : Nat) :
    Nat.count (· ∉ removed) number + (removed.filter fun old => decide (old < number)).length =
      number := by
  have below : (removed.filter fun old => decide (old < number)).length =
      ((Finset.range number).filter (· ∈ removed)).card := by
    rw [← List.toFinset_card_of_nodup (once.filter _)]
    congr 1
    ext old
    simp [and_comm]
  have all := Finset.card_filter_add_card_filter_not (s := Finset.range number) (· ∈ removed)
  rw [← Nat.count_eq_card_filter_range (· ∉ removed), Finset.card_range] at all
  omega

theorem survivor_lt (once : removed.Nodup) {count : Nat}
    (inside : ∀ number ∈ removed, number < count) (small : number + removed.length < count) :
    survivor removed number < count := by
  have counted := count_not_mem_add once count
  rw [List.filter_eq_self.mpr fun old listed => decide_eq_true (inside old listed)] at counted
  exact Nat.nth_lt_of_lt_count (by omega)

theorem le_survivor (removed : List Nat) (number : Nat) : number ≤ survivor removed number :=
  (survivor_strictMono removed).le_apply

end Survivors

/-! ## Entries and positions that are kept -/

namespace Workspace

variable {A : Type} {positions : List Nat}

theorem getElem?_cons_sub (first : A) (rest : List A) {start number : Nat}
    (later : start < number) :
    (first :: rest)[number - start]? = rest[number - (start + 1)]? := by
  have distance : number - start = number - (start + 1) + 1 := by omega
  rw [distance, List.getElem?_cons_succ]

/-- The entries from the position `start` on, of which those at the listed positions are removed:
at each place stands the entry that survives there. -/
theorem getElem?_filter_zipIdx (entries : List A) (positions : List Nat) (start place : Nat) :
    (((entries.zipIdx start).filter fun entry =>
        !positions.contains entry.2).map Prod.fst)[place]? =
      entries[survivor positions (Nat.count (· ∉ positions) start + place) - start]? := by
  induction entries generalizing start place with
  | nil => rfl
  | cons first rest inductionHypothesis =>
      have tail := inductionHypothesis (start + 1)
      rw [List.zipIdx_cons]
      by_cases listed : start ∈ positions
      · have later : start < survivor positions (Nat.count (· ∉ positions) start + place) := by
          refine lt_of_le_of_ne ?_ fun same => survivor_not_mem positions _ (same ▸ listed)
          exact (Nat.count_le_iff_le_nth (infinite_not_mem positions)).mp (Nat.le_add_right _ _)
        rw [List.filter_cons_of_neg (by simpa using listed), tail, Nat.count_succ,
          if_neg (not_not.mpr listed), Nat.add_zero, getElem?_cons_sub first rest later]
      · rw [List.filter_cons_of_pos (by simpa using listed), List.map_cons]
        cases place with
        | zero =>
            -- The first entry that is kept is the one at `start` itself.
            rw [Nat.add_zero (Nat.count _ _), survivor_count listed, Nat.sub_self]
            rfl
        | succ place =>
            have later : start < survivor positions
                (Nat.count (· ∉ positions) start + (place + 1)) := by
              rw [← survivor_count listed]
              exact survivor_strictMono positions (by rw [survivor_count listed]; omega)
            rw [List.getElem?_cons_succ, tail, Nat.count_succ, if_pos listed, Nat.add_assoc,
              Nat.add_comm 1, getElem?_cons_sub first rest later]

theorem getElem?_keepOthers (entries : List A) (positions : List Nat) (place : Nat) :
    (keepOthers entries positions)[place]? = entries[survivor positions place]? := by
  have counted := getElem?_filter_zipIdx entries positions 0 place
  rwa [Nat.count_zero, Nat.zero_add, Nat.sub_zero] at counted

theorem keepOthers_keepOthers {later all : List Nat} (combines : Combines positions later all)
    (entries : List A) :
    keepOthers (keepOthers entries positions) later = keepOthers entries all := by
  apply List.ext_getElem?
  intro place
  rw [getElem?_keepOthers, getElem?_keepOthers, getElem?_keepOthers,
    combines.survivor_survivor]

/-- If no position is removed twice, then a position moves to the place at which it survives. -/
theorem newPosition_eq_some_iff (once : positions.Nodup) {position place : Nat} :
    newPosition positions position = some place ↔ survivor positions place = position := by
  have counted := count_not_mem_add once position
  rw [newPosition, survivor_eq_iff]
  by_cases listed : position ∈ positions
  · simp [listed]
  · simp only [List.contains_eq_mem, listed, decide_false, Bool.false_eq_true, if_false,
      Option.some.injEq, not_false_eq_true, true_and]
    omega

theorem length_keepOthers_add (once : positions.Nodup) {entries : List A}
    (inside : ∀ position ∈ positions, position < entries.length) :
    (keepOthers entries positions).length + positions.length = entries.length := by
  have listed : (List.range entries.length).countP (positions.contains ·) = positions.length := by
    rw [List.countP_eq_length_filter]
    apply List.Perm.length_eq
    apply (List.perm_ext_iff_of_nodup (List.nodup_range.filter _) once).mpr
    intro position
    simpa using inside position
  have all := List.length_eq_countP_add_countP (positions.contains ·)
    (l := List.range entries.length)
  simp only [List.length_range, decide_not, Bool.decide_eq_true] at all
  rw [length_keepOthers]
  omega

end Workspace

end LinearProgramming
