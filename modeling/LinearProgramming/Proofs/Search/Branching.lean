import LinearProgramming.Proofs.Search.Coverage

/-!
# What a branch makes of a box

A branch on a column that is not whole cuts the optimum of a box off.  The two parts that take the
place of the box share out its integral points: each of these lies in one part and in one only.
Whatever bound the column had, and whatever kind the cut gives it, the parts are narrower boxes
that a search can go on with.
-/

namespace LinearProgramming

variable {K : Type} [ExactScalar K]

namespace Search

def Node.Contains (node : Node K) (values : List K) : Prop :=
  List.Forall₂ Bound.Contains node.columns values

def Node.Whole (integer : List Nat) (node : Node K) : Prop :=
  ∀ column ∈ integer, ∀ bound ∈ node.columns[column]?, bound.isWhole = true

/-- A part of a box: narrower than it in one column, with bounds that the search accepts, without
the point and bounded by the objective. -/
structure Node.IsPart (integer : List Nat) (node : Node K) (column : Nat) (point : List K)
    (objective : K) (part : Node K) : Prop where
  length_eq : part.columns.length = node.columns.length
  within : ∀ values, part.Contains values → node.Contains values
  elsewhere : ∀ other ≠ column, part.columns[other]? = node.columns[other]?
  consistent : ∀ bound ∈ part.columns[column]?, bound.isConsistent = true
  whole : part.Whole integer
  excludes : ¬ part.Contains point
  bound : part.bound = .at objective

variable {node : Node K} {column : Nat} {point values : List K} {integer : List Nat}

/-! ## Both sides of a cut -/

section Cut

variable {value : K} (objective : K)

theorem Node.contains_below_iff (inside : node.Contains values)
    (width : column < node.columns.length) :
    (node.below column value objective).Contains values ↔
      Dense.entry values column ≤ Scalar.floor value := by
  have at_column := List.getElem?_eq_getElem width
  have contained := contains_entry inside at_column
  unfold Node.Contains Node.below
  rw [forall₂_modify_iff inside at_column, Bound.contains_iff, Bound.lower?_between,
    Bound.upper?_between, and_iff_right contained.lower]
  simp

theorem Node.contains_above_iff (inside : node.Contains values)
    (width : column < node.columns.length) :
    (node.above column value objective).Contains values ↔
      Scalar.ceiling value ≤ Dense.entry values column := by
  have at_column := List.getElem?_eq_getElem width
  have contained := contains_entry inside at_column
  unfold Node.Contains Node.above
  rw [forall₂_modify_iff inside at_column, Bound.contains_iff, Bound.lower?_between,
    Bound.upper?_between, and_iff_left contained.upper]
  simp

/-- A point that is whole in the column lies on one side of the cut. -/
theorem Node.xor_contains (fractional : ¬ IsWhole value) (inside : node.Contains values)
    (width : column < node.columns.length) (whole : IsWhole (Dense.entry values column)) :
    Xor ((node.below column value objective).Contains values)
      ((node.above column value objective).Contains values) := by
  rw [Node.contains_below_iff objective inside width,
    Node.contains_above_iff objective inside width]
  have low := Scalar.floor_lt fractional
  have high := Scalar.lt_ceiling fractional
  rcases le_total (Dense.entry values column) value with below | above
  · exact .inl ⟨whole.le_floor below, not_le.mpr (below.trans_lt high)⟩
  · exact .inr ⟨whole.ceiling_le above, not_le.mpr (low.trans_le above)⟩

end Cut

section Parts

variable (whole : node.Whole integer) (inside : node.Contains point)

include whole inside

theorem Node.isPart_of_mem_split (isInteger : column ∈ integer)
    (fractional : ¬ IsWhole (Dense.entry point column)) (width : column < node.columns.length)
    {objective : K} {part : Node K}
    (member : part ∈ node.split column (Dense.entry point column) objective) :
    node.IsPart integer column point objective part := by
  have excludes : ¬ part.Contains point := by
    rcases (mem_split_iff part).mp member with rfl | rfl
    · rw [Node.contains_below_iff objective inside width, not_le]
      exact Scalar.floor_lt fractional
    · rw [Node.contains_above_iff objective inside width, not_le]
      exact Scalar.lt_ceiling fractional
  obtain ⟨change, depth, rfl, narrows⟩ :=
    narrows_of_mem_split (whole column isInteger) inside member
  constructor
  case length_eq => exact List.length_modify _ _ _
  case within =>
    intro values contained
    exact forall₂_of_modify (fun bound at_column => (narrows bound at_column).contains) contained
  case elsewhere =>
    intro other apart
    exact List.getElem?_modify_ne _ _ apart.symm
  case consistent =>
    intro bound at_column
    rw [List.getElem?_modify_eq] at at_column
    obtain ⟨old, at_old, rfl⟩ := Option.map_eq_some_iff.mp at_column
    exact (narrows old at_old).consistent
  case whole =>
    intro other isOther
    exact of_getElem?_modify (fun old at_old => (narrows old at_old).whole) (whole other isOther)
  case excludes => exact excludes
  case bound => rfl

end Parts

/-! ## Branches -/

variable {options : Options K} {program : Program K} {optimum : Point K}

/-- Where the optimum of a node is not dropped, the node is replaced by the parts of a split. -/
theorem State.expand_of_branchingColumn {state : State K}
    (keeps : ¬ state.prunes options (.at (minimizedObjective program optimum)) = true)
    (fractional : branchingColumn options integer optimum.columnPrimal = some column) :
    state.expand options program integer node optimum =
      { state with
        openNodes :=
          state.openNodes ++ node.split column (Dense.entry optimum.columnPrimal column)
            (minimizedObjective program optimum) } := by
  simp only [minimizedObjective] at keeps
  simp only [State.expand, if_neg keeps, fractional, minimizedObjective]

theorem Node.exists_split (node : Node K) (column : Nat) (value objective : K) :
    ∃ first second, node.split column value objective = [first, second] ∧
      (first = node.below column value objective ∧ second = node.above column value objective ∨
        first = node.above column value objective ∧
          second = node.below column value objective) := by
  unfold Node.split
  dsimp only
  split
  · exact ⟨_, _, rfl, .inr ⟨rfl, rfl⟩⟩
  · exact ⟨_, _, rfl, .inl ⟨rfl, rfl⟩⟩

/-- A search branches on a node exactly where some integer column of its optimum is further from
whole than the tolerance, and then two parts of the box take its place.  Every integral point of
the box lies in exactly one of them. -/
theorem branch_partitions (tolerance : 0 ≤ options.integerTolerance) (program : Program K)
    (whole : node.Whole integer) (inside : node.Contains optimum.columnPrimal) :
    (branchingColumn options integer optimum.columnPrimal = none ↔
      ∀ column ∈ integer, ∃ number : ℤ,
        |Dense.entry optimum.columnPrimal column - number| ≤ options.integerTolerance) ∧
    ∀ column, branchingColumn options integer optimum.columnPrimal = some column →
      ∃ first second : Node K,
        (∀ state : State K,
          ¬ state.prunes options (.at (minimizedObjective program optimum)) = true →
            state.expand options program integer node optimum =
              { state with openNodes := state.openNodes ++ [first, second] }) ∧
        (∀ part ∈ [first, second], node.IsPart integer column optimum.columnPrimal
          (minimizedObjective program optimum) part) ∧
        ∀ values, node.Contains values →
          (∀ other ∈ integer, IsWhole (Dense.entry values other)) →
            Xor (first.Contains values) (second.Contains values) := by
  constructor
  · simp only [branchingColumn_eq_none_iff, fractionality_le_iff]
  · intro column found
    have isInteger := mem_of_branchingColumn found
    have fractional := not_isWhole_of_branchingColumn tolerance found
    have width : column < node.columns.length := by
      rw [inside.length_eq]
      by_contra outside
      apply fractional
      rw [Dense.entry_of_length_le (Nat.le_of_not_lt outside)]
      exact ⟨0, Int.cast_zero.symm⟩
    obtain ⟨first, second, isSplit, sides⟩ := node.exists_split column
      (Dense.entry optimum.columnPrimal column) (minimizedObjective program optimum)
    refine ⟨first, second, fun state keeps => ?_, fun part member => ?_,
      fun values contained isWhole => ?_⟩
    · rw [State.expand_of_branchingColumn keeps found, isSplit]
    · exact Node.isPart_of_mem_split whole inside isInteger fractional width (isSplit ▸ member)
    · have shared := Node.xor_contains (minimizedObjective program optimum) fractional contained
        width (isWhole column isInteger)
      rcases sides with ⟨rfl, rfl⟩ | ⟨rfl, rfl⟩
      · exact shared
      · exact xor_comm _ _ ▸ shared

/-- A point of the box of `Program.blend` with two columns halfway between whole numbers. -/
def blendPoint : Point ℚ where
  objective := 4
  rowPrimal := [2, -4, 3 / 2, 3 / 4, -3 / 2]
  rowDual := [0, 0, 0, 0, 0]
  columnPrimal := [-3 / 2, 1, 5 / 2, 1 / 4, 2]
  columnDual := [0, 0, 0, 0, 0]

theorem branch_partitions_blend :
    0 ≤ (Options.standard : Options ℚ).integerTolerance ∧
      (rootNode Program.blend).Whole [0, 1, 2, 3, 4] ∧
      (rootNode Program.blend).Contains blendPoint.columnPrimal ∧
      branchingColumn Options.standard [0, 1, 2, 3, 4] blendPoint.columnPrimal = some 2 ∧
      (¬ ∀ column ∈ [0, 1, 2, 3, 4], ∃ number : ℤ,
        |Dense.entry blendPoint.columnPrimal column - number| ≤
          (Options.standard : Options ℚ).integerTolerance) ∧
      ∃ first second : Node ℚ,
        ((State.start Program.blend).expand Options.standard Program.blend [0, 1, 2, 3, 4]
          (rootNode Program.blend) blendPoint).openNodes = [rootNode Program.blend, first, second] ∧
        (∀ part ∈ [first, second], (rootNode Program.blend).IsPart [0, 1, 2, 3, 4] 2
          blendPoint.columnPrimal (-4) part) ∧
        Xor (first.Contains [-2, 1, 3, 0, 2]) (second.Contains [-2, 1, 3, 0, 2]) := by
  have tolerance : 0 ≤ (Options.standard : Options ℚ).integerTolerance := by decide +kernel
  have whole : (rootNode Program.blend).Whole [0, 1, 2, 3, 4] := by
    unfold Node.Whole
    decide +kernel
  have inside : (rootNode Program.blend).Contains blendPoint.columnPrimal := by
    unfold Node.Contains
    decide +kernel
  have integral : (rootNode Program.blend).Contains [-2, 1, 3, 0, 2] := by
    unfold Node.Contains
    decide +kernel
  have found : branchingColumn Options.standard [0, 1, 2, 3, 4] blendPoint.columnPrimal =
      some 2 := by
    decide +kernel
  obtain ⟨missing_iff, branches⟩ := branch_partitions tolerance Program.blend whole inside
  obtain ⟨first, second, expands, parts, shared⟩ := branches 2 found
  have sign : minimizedObjective Program.blend blendPoint = -4 := by decide +kernel
  rw [sign] at parts
  refine ⟨tolerance, whole, inside, found, fun near => ?_, first, second, ?_, parts, ?_⟩
  · cases found.symm.trans (missing_iff.mpr near)
  · rw [expands (State.start Program.blend) (by decide +kernel)]
    rfl
  · apply shared _ integral
    intro column member
    have floors : ∀ column ∈ [0, 1, 2, 3, 4],
        Scalar.isWhole (Dense.entry ([-2, 1, 3, 0, 2] : List ℚ) column) = true := by
      decide +kernel
    exact (isWhole_eq_true_iff _).mp (floors column member)

end Search

end LinearProgramming
