import LinearProgramming.Proofs.Feasibility
import LinearProgramming.Proofs.Fold
import LinearProgramming.Search.Node

/-!
# Boxes and their parts

A split leaves out no point whose branching column is whole, and both parts lie in
the box.  Every order of selection takes one of the open nodes, and no column to
branch on means that all integer columns are whole.
-/

namespace LinearProgramming

variable {K : Type} [ExactScalar K]

namespace Extended

/-- The extended number is a lower bound of a value. -/
def AtMost (bound : Extended K) (value : K) : Prop :=
  match bound with
  | below => True
  | .at least => least ≤ value
  | above => False

@[simp]
theorem atMost_at (least value : K) : (Extended.at least).AtMost value ↔ least ≤ value := Iff.rfl

@[simp]
theorem smaller_atMost_iff (left right : Extended K) (value : K) :
    (left.smaller right).AtMost value ↔ left.AtMost value ∨ right.AtMost value := by
  cases left <;> cases right <;> simp [smaller, AtMost]

theorem foldl_smaller_atMost_iff {A : Type} (items : List A) (boundOf : A → Extended K)
    (start : Extended K) (value : K) :
    (items.foldl (fun least item => least.smaller (boundOf item)) start).AtMost value ↔
      start.AtMost value ∨ ∃ item ∈ items, (boundOf item).AtMost value := by
  induction items generalizing start with
  | nil => simp
  | cons item items inductionHypothesis =>
      rw [List.foldl_cons, inductionHypothesis, smaller_atMost_iff, or_assoc,
        List.exists_mem_cons_iff]

theorem smaller_comm (left right : Extended K) : left.smaller right = right.smaller left := by
  cases left <;> cases right <;> simp [smaller, min_comm]

theorem smaller_assoc (first second third : Extended K) :
    (first.smaller second).smaller third = first.smaller (second.smaller third) := by
  cases first <;> cases second <;> cases third <;> simp [smaller, min_assoc]

theorem above_smaller (right : Extended K) : above.smaller right = right := by
  cases right <;> simp [smaller]

theorem foldl_smaller_eq {A : Type} (items : List A) (boundOf : A → Extended K)
    (start : Extended K) :
    items.foldl (fun least item => least.smaller (boundOf item)) start =
      (items.foldl (fun least item => least.smaller (boundOf item)) above).smaller start := by
  induction items generalizing start with
  | nil => exact (above_smaller start).symm
  | cons item items inductionHypothesis =>
      rw [List.foldl_cons, List.foldl_cons, inductionHypothesis, above_smaller,
        inductionHypothesis (boundOf item), smaller_assoc, smaller_comm start]

end Extended

namespace Bound

/-- Between two sides there are three shapes of bounds and two with equal sides. -/
theorem between_eq (least? greatest? : Option K) :
    between least? greatest? =
      match least?, greatest? with
      | none, none => free
      | some least, none => lower least
      | none, some greatest => upper greatest
      | some least, some greatest =>
          if least = greatest then fixed least else double least greatest := by
  cases least? <;> cases greatest? <;> simp [between, Option.filter]

theorem sides_between (least? greatest? : Option K) :
    (between least? greatest?).lower? = least? ∧ (between least? greatest?).upper? = greatest? := by
  rw [between_eq]
  cases least? with
  | none => cases greatest? <;> exact ⟨rfl, rfl⟩
  | some least =>
      cases greatest? with
      | none => exact ⟨rfl, rfl⟩
      | some greatest =>
          by_cases same : least = greatest
          · simp [same, lower?, upper?]
          · simp [same, lower?, upper?]

@[simp]
theorem lower?_between (least? greatest? : Option K) :
    (between least? greatest?).lower? = least? := (sides_between _ _).1

@[simp]
theorem upper?_between (least? greatest? : Option K) :
    (between least? greatest?).upper? = greatest? := (sides_between _ _).2

theorem isWhole_iff (bound : Bound K) :
    bound.isWhole = true ↔
      (∀ least ∈ bound.lower?, IsWhole least) ∧ ∀ greatest ∈ bound.upper?, IsWhole greatest := by
  cases bound <;> simp [isWhole, lower?, upper?]

theorem isConsistent_between {least? greatest? : Option K}
    (ordered : ∀ least ∈ least?, ∀ greatest ∈ greatest?, least ≤ greatest) :
    (between least? greatest?).isConsistent = true := by
  rw [between_eq]
  cases least? with
  | none => cases greatest? <;> simp [isConsistent]
  | some least =>
      cases greatest? with
      | none => simp [isConsistent]
      | some greatest =>
          have order := ordered least rfl greatest rfl
          by_cases same : least = greatest
          · simp [same, isConsistent]
          · simpa [same, isConsistent] using lt_of_le_of_ne order same

end Bound

namespace Search

section Select

variable {nodes rest : List (Node K)} {node : Node K}

theorem prefers_comesBefore :
    Prefers
      (fun (best : Option (Node K × Nat)) candidate =>
        match best with
        | none => some candidate
        | some current => if candidate.1.comesBefore current.1 then some candidate else best)
      fun _ _ => True := by
  apply Prefers.of_choice fun _ => rfl
  intro current value
  by_cases before : value.1.comesBefore current.1 = true
  · exact .inl (if_pos before)
  · exact .inr (if_neg before)

theorem bestPosition_spec (nodes : List (Node K)) :
    (∀ position ∈ bestPosition nodes, position < nodes.length) ∧
      (bestPosition nodes = none → nodes = []) := by
  constructor
  · intro position found
    obtain ⟨candidate, isBest, rfl⟩ := Option.map_eq_some_iff.mp found
    obtain ⟨member, -⟩ := prefers_comesBefore.foldl_eq_some isBest
    exact List.snd_lt_of_mem_zipIdx member
  · intro missing
    have empty := (prefers_comesBefore.foldl_eq_none_iff _).mp (Option.map_eq_none_iff.mp missing)
    simpa using empty

theorem nextPosition_spec (order : NodeOrder) (nodes : List (Node K)) :
    (∀ position ∈ nextPosition order nodes, position < nodes.length) ∧
      (nextPosition order nodes = none → nodes = []) := by
  cases order with
  | bestBoundFirst => exact bestPosition_spec nodes
  | _ => cases nodes <;> simp [nextPosition]

theorem perm_of_select {order : NodeOrder} (selected : select order nodes = some (node, rest)) :
    nodes.Perm (node :: rest) := by
  simp only [select, Option.bind_eq_bind, Option.bind_eq_some_iff, Option.pure_def,
    Option.some.injEq, Prod.mk.injEq] at selected
  obtain ⟨position, -, found, at_position, rfl, rfl⟩ := selected
  obtain ⟨inside, rfl⟩ := List.getElem?_eq_some_iff.mp at_position
  exact (List.getElem_cons_eraseIdx_perm inside).symm

theorem eq_nil_of_select {order : NodeOrder} (selected : select order nodes = none) :
    nodes = [] := by
  obtain ⟨inside, empty⟩ := nextPosition_spec order nodes
  cases found : nextPosition order nodes with
  | none => exact empty found
  | some position =>
      have below := inside position found
      simp [select, found, below] at selected

end Select

section Branching

variable {options : Options K} {integer : List Nat} {point : List K}

/-- The fractionality of a value is its distance to the nearest whole number. -/
theorem fractionality_le_iff {value slack : K} :
    fractionality value ≤ slack ↔ ∃ whole : ℤ, |value - whole| ≤ slack := by
  obtain ⟨floor, isFloor⟩ := LawfulScalar.floor_whole value
  have floorBelow : (floor : K) ≤ value := isFloor ▸ LawfulScalar.floor_le value
  have floorNear : value < floor + 1 := isFloor ▸ LawfulScalar.lt_floor_add_one value
  rw [fractionality, Scalar.smaller_eq_min, min_le_iff, isFloor]
  constructor
  · rintro (below | above)
    · exact ⟨floor, abs_le.mpr ⟨by linarith, below⟩⟩
    · exact ⟨floor + 1, abs_le.mpr ⟨by push_cast; linarith, by push_cast; linarith⟩⟩
  · rintro ⟨whole, near⟩
    obtain ⟨above, below⟩ := abs_le.mp near
    -- No whole number lies between the floor of the value and the next one.
    rcases le_or_gt whole floor with order | order
    · have atMost : (whole : K) ≤ floor := by exact_mod_cast order
      exact .inl (by linarith)
    · have atLeast : (floor : K) + 1 ≤ whole := by exact_mod_cast order
      exact .inr (by linarith)

theorem isWhole_of_fractionality {value : K} (small : fractionality value ≤ 0) : IsWhole value := by
  obtain ⟨whole, near⟩ := fractionality_le_iff.mp small
  exact ⟨whole, sub_eq_zero.mp (abs_nonpos_iff.mp near)⟩

theorem prefers_fractional (point : List K) :
    Prefers
      (fun (best : Option Nat) column =>
        match best with
        | none => some column
        | some current =>
            if Scalar.precedes (fractionality (Dense.entry point column))
                (fractionality (Dense.entry point current)) then best
            else some column)
      fun _ _ => True := by
  apply Prefers.of_choice fun _ => rfl
  intro current value
  by_cases less : Scalar.precedes (fractionality (Dense.entry point value))
      (fractionality (Dense.entry point current)) = true
  · exact .inr (if_pos less)
  · exact .inl (if_neg less)

/-- The search branches on an integer column that is far from whole. -/
theorem branchingColumn_spec {column : Nat}
    (found : branchingColumn options integer point = some column) :
    column ∈ integer ∧
      options.integerTolerance < fractionality (Dense.entry point column) := by
  have inFractional : column ∈ integer.filter fun column =>
      decide (options.integerTolerance < fractionality (Dense.entry point column)) := by
    simp only [branchingColumn] at found
    split at found
    · exact List.mem_of_mem_head? found
    · exact List.mem_of_mem_getLast? found
    · exact ((prefers_fractional point).foldl_eq_some found).1
  simpa using List.mem_filter.mp inFractional

theorem mem_of_branchingColumn {column : Nat}
    (found : branchingColumn options integer point = some column) : column ∈ integer :=
  (branchingColumn_spec found).1

theorem not_isWhole_of_branchingColumn (tolerance : 0 ≤ options.integerTolerance) {column : Nat}
    (found : branchingColumn options integer point = some column) :
    ¬ IsWhole (Dense.entry point column) := by
  intro whole
  have far := tolerance.trans_lt (branchingColumn_spec found).2
  simp [fractionality, whole.floor_eq] at far

/-- There is no column to branch on exactly where no integer column is far from whole. -/
theorem branchingColumn_eq_none_iff :
    branchingColumn options integer point = none ↔
      ∀ column ∈ integer, fractionality (Dense.entry point column) ≤ options.integerTolerance := by
  constructor
  · intro missing
    have empty : (integer.filter fun column =>
        decide (options.integerTolerance < fractionality (Dense.entry point column))) = [] := by
      simp only [branchingColumn] at missing
      split at missing
      · exact List.head?_eq_none_iff.mp missing
      · exact List.getLast?_eq_none_iff.mp missing
      · exact ((prefers_fractional point).foldl_eq_none_iff _).mp missing
    intro column member
    have small := List.filter_eq_nil_iff.mp empty column member
    rwa [decide_eq_true_iff, not_lt] at small
  · intro near
    rw [Option.eq_none_iff_forall_ne_some]
    intro column found
    obtain ⟨isInteger, far⟩ := branchingColumn_spec found
    exact absurd far (not_lt.mpr (near column isInteger))

theorem isWhole_of_branchingColumn (zero : options.integerTolerance = 0)
    (missing : branchingColumn options integer point = none) :
    ∀ column ∈ integer, IsWhole (Dense.entry point column) := by
  intro column member
  have small := branchingColumn_eq_none_iff.mp missing column member
  rw [zero] at small
  exact isWhole_of_fractionality small

/-- Rounding leaves a point with whole integer columns as it is. -/
theorem roundColumns_eq (whole : ∀ column ∈ integer, IsWhole (Dense.entry point column)) :
    roundColumns integer point = point := by
  unfold roundColumns
  induction integer with
  | nil => rfl
  | cons column integer inductionHypothesis =>
      have unchanged : point.modify column Scalar.nearest = point := by
        apply List.ext_getElem?
        intro index
        rw [List.getElem?_modify]
        by_cases same : column = index
        · subst same
          cases at_column : point[column]? with
          | none => rfl
          | some value =>
              have isWhole := whole column List.mem_cons_self
              rw [Dense.entry, List.getD_eq_getElem?_getD, at_column, Option.getD_some] at isWhole
              simp [isWhole.nearest_eq]
        · simp [same]
      rw [List.foldl_cons, unchanged]
      exact inductionHypothesis fun other member => whole other (List.mem_cons_of_mem _ member)

end Branching

section Narrowing

/-- One bound is narrower than another and as good for a solver and a search. -/
structure Narrows (bound narrowed : Bound K) : Prop where
  contains : ∀ value, narrowed.Contains value → bound.Contains value
  consistent : narrowed.isConsistent = true
  whole : narrowed.isWhole = true

variable {bound : Bound K} {value : K} (whole : bound.isWhole = true)
  (contained : bound.Contains value)

include whole contained

theorem narrows_floor : Narrows bound (.between bound.lower? (some (Scalar.floor value))) := by
  obtain ⟨lowerWhole, upperWhole⟩ := bound.isWhole_iff.mp whole
  have floorBelow := LawfulScalar.floor_le value
  constructor
  case contains =>
    intro other inside
    have below := inside.upper (Scalar.floor value) (by simp)
    constructor
    · intro least isLeast
      exact inside.lower least (by simpa using isLeast)
    · intro greatest isGreatest
      have above := contained.upper greatest isGreatest
      linarith
  case consistent =>
    apply Bound.isConsistent_between
    rintro least isLeast _ ⟨⟩
    exact (lowerWhole least isLeast).le_floor (contained.lower least isLeast)
  case whole =>
    rw [Bound.isWhole_iff]
    simpa using ⟨lowerWhole, LawfulScalar.floor_whole value⟩

theorem narrows_ceiling : Narrows bound (.between (some (Scalar.ceiling value)) bound.upper?) := by
  obtain ⟨lowerWhole, upperWhole⟩ := bound.isWhole_iff.mp whole
  have ceilingAbove := LawfulScalar.le_ceiling value
  constructor
  case contains =>
    intro other inside
    have above := inside.lower (Scalar.ceiling value) (by simp)
    constructor
    · intro least isLeast
      have below := contained.lower least isLeast
      linarith
    · intro greatest isGreatest
      exact inside.upper greatest (by simpa using isGreatest)
  case consistent =>
    apply Bound.isConsistent_between
    rintro _ ⟨⟩ greatest isGreatest
    exact (upperWhole greatest isGreatest).ceiling_le (contained.upper greatest isGreatest)
  case whole =>
    rw [Bound.isWhole_iff]
    simpa using ⟨LawfulScalar.ceiling_whole value, upperWhole⟩

omit whole contained in
/-- A whole value stays on one side of the cut. -/
theorem contains_floor_or_ceiling {other : K} (inside : bound.Contains other)
    (otherWhole : IsWhole other) (value : K) :
    (Bound.between bound.lower? (some (Scalar.floor value))).Contains other ∨
      (Bound.between (some (Scalar.ceiling value)) bound.upper?).Contains other := by
  rcases le_total other value with below | above
  · refine .inl ⟨fun least isLeast => inside.lower least (by simpa using isLeast), ?_⟩
    simpa using otherWhole.le_floor below
  · refine .inr ⟨?_, fun greatest isGreatest => inside.upper greatest (by simpa using isGreatest)⟩
    simpa using otherWhole.ceiling_le above

end Narrowing

section Modify

variable {bounds : List (Bound K)} {column : Nat} {change : Bound K → Bound K} {values : List K}

theorem forall₂_of_modify
    (weaker : ∀ bound ∈ bounds[column]?, ∀ value, (change bound).Contains value →
      bound.Contains value)
    (contained : List.Forall₂ Bound.Contains (bounds.modify column change) values) :
    List.Forall₂ Bound.Contains bounds values := by
  induction bounds generalizing column values with
  | nil => simpa using contained
  | cons bound bounds inductionHypothesis =>
      cases column with
      | zero =>
          rw [List.modify_zero_cons] at contained
          obtain ⟨value, values, inside, rest, rfl⟩ := List.forall₂_cons_left_iff.mp contained
          exact .cons (weaker bound rfl value inside) rest
      | succ column =>
          rw [List.modify_succ_cons] at contained
          obtain ⟨value, values, inside, rest, rfl⟩ := List.forall₂_cons_left_iff.mp contained
          exact .cons inside (inductionHypothesis (by simpa using weaker) rest)

theorem forall₂_modify
    (contained : List.Forall₂ Bound.Contains bounds values)
    (changed : ∀ bound ∈ bounds[column]?, (change bound).Contains (Dense.entry values column)) :
    List.Forall₂ Bound.Contains (bounds.modify column change) values := by
  induction contained generalizing column with
  | nil => simp
  | @cons bound value bounds values inside rest inductionHypothesis =>
      cases column with
      | zero => exact .cons (changed bound rfl) rest
      | succ column => exact .cons inside (inductionHypothesis (by simpa using changed))

omit [ExactScalar K] in
theorem of_getElem?_modify {good : Bound K → Prop} {other : Nat}
    (changed : ∀ bound ∈ bounds[column]?, good (change bound))
    (kept : ∀ bound ∈ bounds[other]?, good bound) :
    ∀ bound ∈ (bounds.modify column change)[other]?, good bound := by
  intro bound at_other
  rw [List.getElem?_modify] at at_other
  obtain ⟨old, at_old, rfl⟩ := Option.map_eq_some_iff.mp at_other
  by_cases same : column = other
  · rw [if_pos same]
    exact changed old (same ▸ at_old)
  · rw [if_neg same]
    exact kept old at_old

theorem contains_entry (contained : List.Forall₂ Bound.Contains bounds values) {bound : Bound K}
    (at_column : bounds[column]? = some bound) : bound.Contains (Dense.entry values column) := by
  induction contained generalizing column with
  | nil => simp at at_column
  | @cons first value bounds values inside rest inductionHypothesis =>
      cases column with
      | zero =>
          obtain rfl : first = bound := by simpa using at_column
          exact inside
      | succ column => exact inductionHypothesis (by simpa using at_column)

theorem forall₂_modify_iff (contained : List.Forall₂ Bound.Contains bounds values)
    {bound : Bound K} (at_column : bounds[column]? = some bound) :
    List.Forall₂ Bound.Contains (bounds.modify column change) values ↔
      (change bound).Contains (Dense.entry values column) := by
  constructor
  · intro changed
    apply contains_entry changed
    rw [List.getElem?_modify_eq, at_column]
    rfl
  · intro inside
    apply forall₂_modify contained
    intro other at_same
    exact Option.some.inj (at_column.symm.trans at_same) ▸ inside

end Modify

end Search

end LinearProgramming
