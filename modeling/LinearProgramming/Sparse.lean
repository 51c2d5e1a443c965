import LinearProgramming.Scalar

/-!
Sparse rows: values at strictly ascending column positions.

The order of the cells is part of the type, so a row has one representation.
-/

namespace LinearProgramming

/-- Puts a value at a column of an ascending list, replacing the one there. -/
def insertCell {K : Type} (column : Nat) (value : K) : List (Nat × K) → List (Nat × K)
  | [] => [(column, value)]
  | cell :: rest =>
      if column < cell.1 then (column, value) :: cell :: rest
      else if column = cell.1 then (column, value) :: rest
      else cell :: insertCell column value rest

theorem mem_insertCell {K : Type} {column : Nat} {value : K} {cells : List (Nat × K)}
    {cell : Nat × K} (member : cell ∈ insertCell column value cells) :
    cell = (column, value) ∨ cell ∈ cells := by
  induction cells with
  | nil => simpa [insertCell] using member
  | cons first rest inductionHypothesis =>
      unfold insertCell at member
      split at member
      · simpa using member
      · split at member
        · rcases List.mem_cons.mp member with equal | inside
          · exact .inl equal
          · exact .inr (List.mem_cons_of_mem _ inside)
        · rcases List.mem_cons.mp member with equal | inside
          · exact .inr (equal ▸ List.mem_cons_self)
          · exact (inductionHypothesis inside).imp id (List.mem_cons_of_mem _)

theorem pairwise_insertCell {K : Type} (column : Nat) (value : K) {cells : List (Nat × K)}
    (ascending : cells.Pairwise fun left right => left.1 < right.1) :
    (insertCell column value cells).Pairwise fun left right => left.1 < right.1 := by
  induction cells with
  | nil => simp [insertCell]
  | cons first rest inductionHypothesis =>
      obtain ⟨after, restAscending⟩ := List.pairwise_cons.mp ascending
      unfold insertCell
      split
      · rename_i less
        refine List.pairwise_cons.mpr ⟨fun cell member => ?_, ascending⟩
        rcases List.mem_cons.mp member with equal | inside
        · exact equal ▸ less
        · exact Nat.lt_trans less (after cell inside)
      · split
        · rename_i equal
          exact List.pairwise_cons.mpr ⟨fun cell inside => equal ▸ after cell inside, restAscending⟩
        · rename_i notLess notEqual
          refine List.pairwise_cons.mpr ⟨fun cell member => ?_, inductionHypothesis restAscending⟩
          rcases mem_insertCell member with equal | inside
          · subst equal
            exact Nat.lt_of_le_of_ne (Nat.not_lt.mp notLess) (Ne.symm notEqual)
          · exact after cell inside

structure SparseRow (K : Type) where
  cells : List (Nat × K)
  ascending : cells.Pairwise fun left right => left.1 < right.1

namespace SparseRow

variable {K : Type}

def empty : SparseRow K where
  cells := []
  ascending := .nil

def get? (row : SparseRow K) (column : Nat) : Option K :=
  row.cells.lookup column

def insert (row : SparseRow K) (column : Nat) (value : K) : SparseRow K where
  cells := insertCell column value row.cells
  ascending := pairwise_insertCell column value row.ascending

def erase (row : SparseRow K) (column : Nat) : SparseRow K where
  cells := row.cells.filter fun cell => cell.1 != column
  ascending := row.ascending.filter _

/-- The row with the given cells; of cells at one column the last one stays. -/
def ofCells (cells : List (Nat × K)) : SparseRow K :=
  cells.foldl (fun row cell => row.insert cell.1 cell.2) empty

def renumber (row : SparseRow K) (place : Nat → Option Nat) : SparseRow K :=
  ofCells (row.cells.filterMap fun cell => (place cell.1).map (·, cell.2))

end SparseRow

end LinearProgramming
