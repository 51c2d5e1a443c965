import Mathlib.Algebra.Order.BigOperators.Ring.Finset
import Mathlib.Data.Int.ConditionallyCompleteOrder
import Mathlib.Data.Int.Interval
import Mathlib.Data.Set.Card
import LinearProgramming.Proofs.Search.Rounding

/-!
# Searches that end

Where the integer columns lie between whole numbers there are only so many ways to set them to
whole numbers.  A split shares these ways out between two boxes and leaves some to each of them:
the relaxed optimum that the node is cut at lies in the box and strictly between two neighbouring
whole numbers, so neither part is empty.  The nodes that are ever solved are thus those of a binary
tree with at most one leaf for each way, whichever open node is taken up first.
-/

namespace LinearProgramming

variable {K : Type} [ExactScalar K]

namespace Bound

structure Spans (bound : Bound K) (least greatest : ℤ) : Prop where
  lower : bound.lower? = some (least : K)
  upper : bound.upper? = some (greatest : K)

def wholes (bound : Bound K) : Set ℤ :=
  {number | bound.Contains (number : K)}

namespace Spans

variable {bound : Bound K} {least greatest : ℤ} (spans : bound.Spans least greatest)

include spans

theorem contains_iff {value : K} :
    bound.Contains value ↔ (least : K) ≤ value ∧ value ≤ greatest := by
  rw [Bound.contains_iff, spans.lower, spans.upper]
  simp

theorem wholes_eq : bound.wholes = Set.Icc least greatest := by
  ext number
  change bound.Contains (number : K) ↔ _
  rw [spans.contains_iff, Int.cast_le, Int.cast_le, Set.mem_Icc]

theorem ncard_wholes : bound.wholes.ncard = (greatest + 1 - least).toNat := by
  rw [spans.wholes_eq, ← Finset.coe_Icc, Set.ncard_coe_finset, Int.card_Icc]

theorem cut {value : K} (contained : bound.Contains value) (fractional : ¬ IsWhole value) :
    ∃ last : ℤ, (least ≤ last ∧ last < greatest) ∧
      (between bound.lower? (some (Scalar.floor value))).Spans least last ∧
        (between (some (Scalar.ceiling value)) bound.upper?).Spans (last + 1) greatest := by
  obtain ⟨last, isFloor⟩ := LawfulScalar.floor_whole value
  obtain ⟨first, isCeiling⟩ := LawfulScalar.ceiling_whole value
  obtain ⟨above, below⟩ := spans.contains_iff.mp contained
  have floorBelow : (last : K) < value := isFloor ▸ Scalar.floor_lt fractional
  have floorNear : value < last + 1 := isFloor ▸ LawfulScalar.lt_floor_add_one value
  have ceilingAbove : value ≤ first := isCeiling ▸ LawfulScalar.le_ceiling value
  have ceilingNear : (first : K) < value + 1 := isCeiling ▸ LawfulScalar.ceiling_lt_add_one value
  have least_lt : (least : K) < ((last + 1 : ℤ) : K) := by push_cast; linarith
  have last_lt : (last : K) < greatest := floorBelow.trans_le below
  have last_lt_first : (last : K) < first := floorBelow.trans_le ceilingAbove
  have first_lt : (first : K) < ((last + 2 : ℤ) : K) := by push_cast; linarith
  rw [Int.cast_lt] at least_lt last_lt last_lt_first first_lt
  obtain rfl : first = last + 1 := by omega
  refine ⟨last, ⟨by omega, last_lt⟩, ⟨?_, ?_⟩, ⟨?_, ?_⟩⟩
  · rw [lower?_between, spans.lower]
  · rw [upper?_between, isFloor]
  · rw [lower?_between, isCeiling]
  · rw [upper?_between, spans.upper]

end Spans

end Bound

namespace Search

/-- As many nodes as a binary tree has that branches at every node but its leaves.  A tree without
leaves is counted as a single node. -/
def treeSize (leaves : ℕ) : ℕ :=
  2 * (leaves - 1) + 1

theorem treeSize_add {left right : ℕ} (leftPositive : 0 < left) (rightPositive : 0 < right) :
    treeSize left + treeSize right < treeSize (left + right) := by
  unfold treeSize
  omega

/-! ## Boxes -/

def Node.wholes (node : Node K) (column : Nat) : Set ℤ :=
  {number | ∃ bound ∈ node.columns[column]?, bound.Contains (number : K)}

noncomputable def Node.wholeCount (integer : List Nat) (node : Node K) : ℕ :=
  ∏ column ∈ integer.toFinset, (node.wholes column).ncard

structure Confined (program : Program K) (integer : List Nat) (node : Node K) : Prop where
  length_eq : node.columns.length = program.columns.length
  spans : ∀ column ∈ integer, ∃ bound ∈ node.columns[column]?, ∃ least greatest : ℤ,
    bound.Spans least greatest

def Node.Ordered (integer : List Nat) (node : Node K) : Prop :=
  ∀ column ∈ integer, ∃ bound ∈ node.columns[column]?, ∃ least greatest : ℤ,
    bound.Spans least greatest ∧ least ≤ greatest

section Boxes

variable {program : Program K} {integer : List Nat} {node : Node K} {column : Nat}

theorem Node.wholes_eq {bound : Bound K} (at_column : node.columns[column]? = some bound) :
    node.wholes column = bound.wholes := by
  simp [wholes, Bound.wholes, at_column]

section Modify

variable {part : Node K} {change : Bound K → Bound K}
  (columns : part.columns = node.columns.modify column change)

include columns

theorem Node.wholes_modify {bound : Bound K} (at_column : node.columns[column]? = some bound) :
    part.wholes column = (change bound).wholes := by
  apply Node.wholes_eq
  rw [columns, List.getElem?_modify_eq, at_column]
  rfl

theorem Node.wholes_modify_of_ne {other : Nat} (apart : column ≠ other) :
    part.wholes other = node.wholes other := by
  simp only [wholes, columns, List.getElem?_modify_ne _ _ apart]

end Modify

/-- Two boxes that share out the whole numbers of one integer column share out the ways to set
them all. -/
theorem Node.wholeCount_add {left right : Node K} {leftChange rightChange : Bound K → Bound K}
    (leftColumns : left.columns = node.columns.modify column leftChange)
    (rightColumns : right.columns = node.columns.modify column rightChange)
    (isInteger : column ∈ integer) {bound : Bound K}
    (at_column : node.columns[column]? = some bound)
    (shared : (leftChange bound).wholes.ncard + (rightChange bound).wholes.ncard =
      bound.wholes.ncard) :
    left.wholeCount integer + right.wholeCount integer = node.wholeCount integer := by
  have others {part : Node K} {change : Bound K → Bound K}
      (columns : part.columns = node.columns.modify column change) :
      ∏ other ∈ integer.toFinset.erase column, (part.wholes other).ncard =
        ∏ other ∈ integer.toFinset.erase column, (node.wholes other).ncard := by
    apply Finset.prod_congr rfl
    intro other member
    rw [Node.wholes_modify_of_ne columns (Finset.ne_of_mem_erase member).symm]
  simp only [wholeCount, ← Finset.mul_prod_erase _ _ (List.mem_toFinset.mpr isInteger)]
  rw [others leftColumns, others rightColumns, Node.wholes_modify leftColumns at_column,
    Node.wholes_modify rightColumns at_column, Node.wholes_eq at_column, ← Nat.add_mul, shared]

theorem Node.Ordered.wholeCount_pos (ordered : node.Ordered integer) :
    0 < node.wholeCount integer := by
  apply Finset.prod_pos
  intro column member
  obtain ⟨bound, at_column, least, greatest, spans, order⟩ :=
    ordered column (List.mem_toFinset.mp member)
  rw [Node.wholes_eq at_column, spans.ncard_wholes]
  omega

theorem Node.Ordered.modify (ordered : node.Ordered integer) {part : Node K}
    {change : Bound K → Bound K} (columns : part.columns = node.columns.modify column change)
    (changed : ∀ bound ∈ node.columns[column]?, ∃ least greatest : ℤ,
      (change bound).Spans least greatest ∧ least ≤ greatest) : part.Ordered integer := by
  intro other isInteger
  obtain ⟨bound, at_other, kept⟩ := ordered other isInteger
  rw [columns, List.getElem?_modify, at_other]
  by_cases same : column = other
  · exact ⟨change bound, by simp [same], changed bound (same ▸ at_other)⟩
  · exact ⟨bound, by simp [same], kept⟩

theorem Node.Ordered.confined (ordered : node.Ordered integer)
    (length_eq : node.columns.length = program.columns.length) :
    Confined program integer node := by
  refine ⟨length_eq, fun column isInteger => ?_⟩
  obtain ⟨bound, at_column, least, greatest, spans, -⟩ := ordered column isInteger
  exact ⟨bound, at_column, least, greatest, spans⟩

variable {point : List K}

theorem Confined.ordered (confined : Confined program integer node)
    (inside : List.Forall₂ Bound.Contains node.columns point) : node.Ordered integer := by
  intro column isInteger
  obtain ⟨bound, at_column, least, greatest, spans⟩ := confined.spans column isInteger
  obtain ⟨above, below⟩ := spans.contains_iff.mp (contains_entry inside at_column)
  exact ⟨bound, at_column, least, greatest, spans, by exact_mod_cast above.trans below⟩

/-- A split shares out the ways to set the integer columns between two boxes, and leaves some to
each of them. -/
theorem Confined.split (confined : Confined program integer node)
    (inside : List.Forall₂ Bound.Contains node.columns point) (isInteger : column ∈ integer)
    (fractional : ¬ IsWhole (Dense.entry point column)) (objective : K) :
    let below := node.below column (Dense.entry point column) objective
    let above := node.above column (Dense.entry point column) objective
    below.Ordered integer ∧ above.Ordered integer ∧
      below.wholeCount integer + above.wholeCount integer = node.wholeCount integer := by
  have ordered := confined.ordered inside
  obtain ⟨bound, at_column, least, greatest, spans⟩ := confined.spans column isInteger
  obtain ⟨last, ⟨atLeast, less⟩, lower, upper⟩ :=
    spans.cut (contains_entry inside at_column) fractional
  have eq_of_mem (other : Bound K) (at_same : other ∈ node.columns[column]?) : other = bound :=
    Option.some.inj (at_same.symm.trans at_column)
  refine ⟨ordered.modify rfl ?_, ordered.modify rfl ?_,
    Node.wholeCount_add rfl rfl isInteger at_column ?_⟩
  · intro other at_same
    obtain rfl := eq_of_mem other at_same
    exact ⟨least, last, lower, atLeast⟩
  · intro other at_same
    obtain rfl := eq_of_mem other at_same
    exact ⟨last + 1, greatest, upper, less⟩
  · rw [spans.ncard_wholes, lower.ncard_wholes, upper.ncard_wholes]
    omega

end Boxes

/-! ## Steps and runs -/

/-- No more nodes than this are solved before all of the open nodes are done with. -/
noncomputable def potential (integer : List Nat) (nodes : List (Node K)) : ℕ :=
  (nodes.map fun node => treeSize (node.wholeCount integer)).sum

section Potential

variable {integer : List Nat} {node : Node K} {nodes rest : List (Node K)}

theorem potential_append (left right : List (Node K)) :
    potential integer (left ++ right) = potential integer left + potential integer right := by
  simp [potential]

theorem potential_split (column : Nat) (value objective : K) :
    potential integer (node.split column value objective) =
      treeSize ((node.below column value objective).wholeCount integer) +
        treeSize ((node.above column value objective).wholeCount integer) := by
  unfold Node.split
  split <;> simp [potential, Nat.add_comm]

theorem potential_of_select {order : NodeOrder}
    (selected : select order nodes = some (node, rest)) :
    potential integer nodes = treeSize (node.wholeCount integer) + potential integer rest := by
  rw [potential, ((perm_of_select selected).map _).sum_eq, List.map_cons, List.sum_cons, potential]

theorem potential_lt_of_select {order : NodeOrder}
    (selected : select order nodes = some (node, rest)) :
    potential integer rest < potential integer nodes := by
  rw [potential_of_select selected, treeSize]
  omega

end Potential

variable {options : Options K} {program : Program K} {integer : List Nat} {state : State K}

/-- A search that goes on has lost more of its potential than nodes were solved. -/
theorem Performs.potential_lt (tolerance : 0 ≤ options.integerTolerance)
    {relax : Program K → Outcome K} (keeps : KeepsBounds relax program)
    (confined : ∀ node ∈ state.openNodes, Confined program integer node) {next : State K}
    (performs : Performs options relax program integer state (.continue next)) :
    (∀ node ∈ next.openNodes, Confined program integer node) ∧
      next.solved ≤ state.solved + 1 ∧
        potential integer next.openNodes < potential integer state.openNodes := by
  cases performs with
  | prune node rest selected =>
      have fewer := (mem_of_select selected).2
      exact ⟨fun other member => confined other (fewer other member), Nat.le_succ _,
        potential_lt_of_select selected⟩
  | drop node rest selected | dominate node rest point selected
  | improve node rest point selected =>
      have fewer := (mem_of_select selected).2
      exact ⟨fun other member => confined other (fewer other member), le_rfl,
        potential_lt_of_select selected⟩
  | branch node rest point column selected attains _ fractional =>
      obtain ⟨taken, fewer⟩ := mem_of_select selected
      have length_eq := (confined node taken).length_eq
      obtain ⟨below, above, shared⟩ := (confined node taken).split
        (keeps node point length_eq attains) (mem_of_branchingColumn fractional)
        (not_isWhole_of_branchingColumn tolerance fractional) (minimizedObjective program point)
      refine ⟨fun other member => ?_, le_rfl, ?_⟩
      · rcases List.mem_append.mp member with old | part
        · exact confined other (fewer other old)
        · have kept := (length_columns_of_mem_split part).trans length_eq
          rcases (mem_split_iff other).mp part with rfl | rfl
          · exact below.confined kept
          · exact above.confined kept
      · -- The trees of the two parts and the node itself make up the tree of the node.
        have smaller := treeSize_add below.wholeCount_pos above.wholeCount_pos
        rw [shared] at smaller
        rw [potential_append, potential_split, potential_of_select selected]
        omega

theorem solved_le_of_done {relax : Program K → Outcome K} {elapsed : Nat} {result : Result K}
    (stepped : step options relax program integer elapsed state = .done result) :
    result.solved ≤ state.solved + potential integer state.openNodes := by
  -- `Performs.late` leaves open how many nodes were solved, so the step itself is taken apart.
  unfold step at stepped
  split at stepped
  · cases stepped
    exact Nat.le_add_right _ _
  · rename_i node rest selected
    have positive : potential integer rest < potential integer state.openNodes :=
      potential_lt_of_select selected
    dsimp only at stepped
    split at stepped
    · cases stepped
      exact Nat.le_add_right _ _
    split at stepped
    · cases stepped
      exact Nat.le_add_right _ _
    split at stepped
    · cases stepped
    split at stepped
    · cases stepped
      change state.solved + 1 ≤ _
      omega
    split at stepped <;> cases stepped

/-- A search over confined boxes ends within as many steps as it has potential, and one more. -/
theorem exists_of_potential_lt (tolerance : 0 ≤ options.integerTolerance)
    {relax : Nat → Program K → Outcome K} (keeps : ∀ solved, KeepsBounds (relax solved) program)
    (confined : ∀ node ∈ state.openNodes, Confined program integer node) {steps : Nat}
    (enough : potential integer state.openNodes < steps) (clock : Clock) :
    ∃ result, runTimed options relax program integer steps clock state = some result ∧
      result.solved ≤ state.solved + potential integer state.openNodes := by
  induction steps generalizing clock state with
  | zero => exact absurd enough (Nat.not_lt_zero _)
  | succ steps inductionHypothesis =>
      cases stepped : step options (relax state.solved) program integer (clock 0) state with
      | done result =>
          exact ⟨result, runTimed_succ_eq_some_iff.mpr (.inl stepped), solved_le_of_done stepped⟩
      | «continue» next =>
          obtain ⟨stillConfined, solved, less⟩ := (performs_of_step stepped).potential_lt tolerance
            (keeps state.solved) confined
          obtain ⟨result, found, few⟩ :=
            inductionHypothesis stillConfined (by omega) clock.next
          exact ⟨result, runTimed_succ_eq_some_iff.mpr (.inr ⟨next, stepped, found⟩), by omega⟩

/-- A search whose integer columns lie between whole numbers ends, under every order of nodes, every
choice of columns, every gap and every clock, if the solver keeps to the boxes.  It solves no more
nodes than a binary tree has with a leaf for each way to set the integer columns to whole
numbers. -/
theorem search_ends (tolerance : 0 ≤ options.integerTolerance)
    {relax : Nat → Program K → Outcome K} (keeps : ∀ solved, KeepsBounds (relax solved) program)
    {least greatest : Nat → ℤ}
    (bounded : ∀ column ∈ integer, ∃ bound ∈ program.columns[column]?,
      bound.Spans (least column) (greatest column)) (clock : Clock) :
    let size := treeSize (∏ column ∈ integer.toFinset,
      (greatest column + 1 - least column).toNat)
    ∃ result, result.solved ≤ size ∧ ∀ steps, size < steps →
      searchTimed steps options clock relax program integer = some result := by
  have confined : Confined program integer (rootNode program) := by
    refine ⟨rfl, fun column isInteger => ?_⟩
    obtain ⟨bound, at_column, spans⟩ := bounded column isInteger
    exact ⟨bound, at_column, _, _, spans⟩
  have count : (rootNode program).wholeCount integer =
      ∏ column ∈ integer.toFinset, (greatest column + 1 - least column).toNat := by
    apply Finset.prod_congr rfl
    intro column member
    obtain ⟨bound, at_column, spans⟩ := bounded column (List.mem_toFinset.mp member)
    rw [Node.wholes_eq at_column, spans.ncard_wholes]
  have start : potential integer (State.start program).openNodes =
      treeSize ((rootNode program).wholeCount integer) := by
    simp [potential, State.start]
  intro size
  have enough : potential integer (State.start program).openNodes < size + 1 := by
    rw [start, count]
    exact Nat.lt_succ_self _
  obtain ⟨result, found, few⟩ := exists_of_potential_lt tolerance keeps
    (List.forall_mem_singleton.mpr confined) enough clock
  refine ⟨result, ?_, fun steps more => runTimed_of_le more found⟩
  rw [start, count] at few
  exact few.trans (Nat.zero_add _).le

/-- A column between 0 and 5 has six whole values, so eleven nodes are enough. -/
theorem search_ends_half :
    0 ≤ (Options.standard : Options ℚ).integerTolerance ∧
      KeepsBounds simplexRelaxation half ∧
      (∀ column ∈ [0], ∃ bound ∈ half.columns[column]?,
        bound.Spans ((fun _ => 0 : Nat → ℤ) column) ((fun _ => 5 : Nat → ℤ) column)) ∧
      ∃ result, result.solved ≤ 11 ∧ ∀ steps, 11 < steps →
        searchTimed steps Options.standard .still (fun _ => simplexRelaxation) half [0] =
          some result := by
  have tolerance : 0 ≤ (Options.standard : Options ℚ).integerTolerance := by decide +kernel
  have keeps : KeepsBounds simplexRelaxation half := keepsBounds_simplexRelaxation rfl
  have bounded : ∀ column ∈ [0], ∃ bound ∈ half.columns[column]?,
      bound.Spans ((fun _ => 0 : Nat → ℤ) column) ((fun _ => 5 : Nat → ℤ) column) := by
    refine List.forall_mem_singleton.mpr ⟨.double 0 5, rfl, ?_, ?_⟩ <;>
      simp [Bound.lower?, Bound.upper?]
  exact ⟨tolerance, keeps, bounded, search_ends tolerance (fun _ => keeps) bounded .still⟩

end Search

end LinearProgramming

