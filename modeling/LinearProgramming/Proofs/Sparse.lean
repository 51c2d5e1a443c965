import LinearProgramming.Proofs.Listed
import LinearProgramming.Sparse

/-!
# Sparse rows as finite maps

A sparse row is determined by its value at every column, and each of its operations is a change of
these values.
-/

namespace LinearProgramming

theorem lookup_insertCell {K : Type} (column : Nat) (value : K) (cells : List (Nat × K))
    (place : Nat) :
    (insertCell column value cells).lookup place =
      if place = column then some value else cells.lookup place := by
  induction cells with
  | nil => rw [insertCell, lookup_cons_eq]
  | cons first rest inductionHypothesis =>
      rw [insertCell]
      split
      · exact lookup_cons_eq _ _ place
      · split
        · rename_i replaced
          rw [lookup_cons_eq, lookup_cons_eq]
          by_cases same : place = column
          · rw [if_pos same, if_pos same]
          · rw [if_neg same, if_neg same, if_neg (replaced ▸ same)]
        · rename_i other
          rw [lookup_cons_eq, lookup_cons_eq, inductionHypothesis]
          by_cases same : place = first.1
          · rw [if_pos same, if_pos same, if_neg (same ▸ Ne.symm other)]
          · rw [if_neg same, if_neg same]

namespace SparseRow

variable {K : Type} {row : SparseRow K}

theorem nodup_columns (row : SparseRow K) : (row.cells.map Prod.fst).Nodup :=
  List.Pairwise.nodup (List.pairwise_map.mpr row.ascending)

theorem get?_eq_some_iff {column : Nat} {value : K} :
    row.get? column = some value ↔ (column, value) ∈ row.cells :=
  lookup_eq_some_iff_mem row.nodup_columns

theorem ext_get? {first second : SparseRow K}
    (same : ∀ column, first.get? column = second.get? column) : first = second := by
  have members : ∀ cell, cell ∈ first.cells ↔ cell ∈ second.cells := by
    rintro ⟨column, value⟩
    rw [← get?_eq_some_iff, same, get?_eq_some_iff]
  have cells : first.cells = second.cells := by
    refine List.Perm.eq_of_pairwise ?_ first.ascending second.ascending ?_
    · intro left right _ _ less greater
      exact absurd less (Nat.lt_asymm greater)
    · exact (List.perm_ext_iff_of_nodup first.nodup_columns.of_map
        second.nodup_columns.of_map).mpr members
  obtain ⟨_, _⟩ := first
  obtain ⟨_, _⟩ := second
  cases cells
  rfl

@[simp]
theorem get?_empty (column : Nat) : (empty : SparseRow K).get? column = none := rfl

theorem get?_insert (row : SparseRow K) (column : Nat) (value : K) (place : Nat) :
    (row.insert column value).get? place =
      if place = column then some value else row.get? place :=
  lookup_insertCell column value row.cells place

theorem get?_erase (row : SparseRow K) (column place : Nat) :
    (row.erase column).get? place = if place = column then none else row.get? place := by
  apply Option.ext
  intro value
  rw [get?_eq_some_iff, erase, List.mem_filter]
  split
  · rename_i erased
    simp [erased]
  · rename_i kept
    rw [get?_eq_some_iff]
    simp [kept]

theorem get?_foldl_insert (row : SparseRow K) (cells : List (Nat × K)) (place : Nat) :
    (cells.foldl (fun row cell => row.insert cell.1 cell.2) row).get? place =
      (lastListed cells place).or (row.get? place) := by
  induction cells generalizing row with
  | nil => rfl
  | cons first rest inductionHypothesis =>
      rw [List.foldl_cons, inductionHypothesis, get?_insert, lastListed_cons, Option.or_assoc]
      congr 1
      split <;> rfl

theorem get?_ofCells (cells : List (Nat × K)) (place : Nat) :
    (ofCells cells).get? place = lastListed cells place := by
  rw [ofCells, get?_foldl_insert, get?_empty, Option.or_none]

theorem get?_renumber (row : SparseRow K) {move : Nat → Option Nat} {origin : Nat → Nat}
    (moves : ∀ column place, move column = some place ↔ origin place = column) (place : Nat) :
    (row.renumber move).get? place = row.get? (origin place) := by
  have once : ((row.cells.filterMap fun cell =>
      (move cell.1).map (·, cell.2)).map Prod.fst).Nodup := by
    have columns : (row.cells.filterMap fun cell => (move cell.1).map (·, cell.2)).map Prod.fst =
        (row.cells.map Prod.fst).filterMap move := by
      rw [List.map_filterMap, List.filterMap_map]
      congr 1
      funext cell
      simp [Function.comp_def]
    rw [columns]
    apply row.nodup_columns.filterMap
    intro first second moved firstMoves secondMoves
    exact ((moves first moved).mp firstMoves).symm.trans ((moves second moved).mp secondMoves)
  apply Option.ext
  intro value
  rw [renumber, get?_ofCells, lastListed_eq_some_iff once, get?_eq_some_iff, List.mem_filterMap]
  constructor
  · rintro ⟨cell, stored, moved⟩
    obtain ⟨target, found, same⟩ := Option.map_eq_some_iff.mp moved
    obtain ⟨rfl, rfl⟩ := Prod.mk.inj same
    rwa [(moves cell.1 target).mp found]
  · intro stored
    refine ⟨_, stored, ?_⟩
    rw [(moves (origin place) place).mpr rfl]
    rfl

end SparseRow

end LinearProgramming
