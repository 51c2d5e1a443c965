import LinearProgramming.Proofs.PropagatingScalar
import LinearProgramming.Dense

/-!
# Vectors with entries that are no numbers

A sum that meets one such entry is no number, so that it spoils a product with every row of a
matrix.  A norm is a maximum and passes over it: it bounds the entries that are numbers, and is zero
if there are none.
-/

namespace LinearProgramming

variable {K : Type} [Scalar K]

/-! ## Maxima -/

namespace Scalar

/-- No number, or less than the bound. -/
def Passes (bound value : K) : Prop :=
  isNaN value = true ∨ value < bound

variable [PropagatingScalar K] {left right bound : K}

theorem isNaN_zero : isNaN (0 : K) = false :=
  ComparableScalar.isNaN_of_isFinite ExtendedScalar.isFinite_zero

theorem lt_of_le_of_lt (below : left ≤ right) (less : right < bound) : left < bound := by
  obtain ⟨ordered, strict⟩ := ExtendedScalar.lt_iff.mp less
  exact ExtendedScalar.lt_iff.mpr ⟨ExtendedScalar.le_trans below ordered,
    fun above => strict (ExtendedScalar.le_trans above below)⟩

/-- The larger one of two values is one of them; the other is no number or not above it. -/
theorem larger_cases (left right : K) :
    larger left right = right ∧ (isNaN left = true ∨ left ≤ right) ∨
      larger left right = left ∧ isNaN left = false ∧ (isNaN right = true ∨ right ≤ left) := by
  unfold larger
  split
  · rename_i kept
    exact .inl ⟨rfl, by simpa using kept⟩
  · rename_i kept
    obtain ⟨number, above⟩ : isNaN left = false ∧ ¬ left ≤ right := by simpa using kept
    refine .inr ⟨rfl, number, ?_⟩
    cases known : isNaN right with
    | true => exact .inl rfl
    | false => exact .inr ((PropagatingScalar.le_total number known).resolve_left above)

theorem le_larger_left (number : isNaN left = false) (right : K) : left ≤ larger left right := by
  rcases larger_cases left right with ⟨same, none | below⟩ | ⟨same, -⟩
  · cases number.symm.trans none
  · rwa [same]
  · rw [same]
    exact ExtendedScalar.le_self number

theorem le_larger_right (left : K) : isNaN right = true ∨ right ≤ larger left right := by
  rcases larger_cases left right with ⟨same, -⟩ | ⟨same, -, none | below⟩
  · cases known : isNaN right with
    | true => exact .inl rfl
    | false =>
        rw [same]
        exact .inr (ExtendedScalar.le_self known)
  · exact .inl none
  · rw [same]
    exact .inr below

theorem larger_of_isNaN (number : isNaN left = false) (none : isNaN right = true) :
    larger left right = left := by
  rcases larger_cases left right with ⟨-, noneLeft | below⟩ | ⟨same, -⟩
  · cases number.symm.trans noneLeft
  · cases (ExtendedScalar.not_isNaN_of_le below).2.symm.trans none
  · exact same

omit [PropagatingScalar K] in
theorem larger_self (value : K) : larger value value = value :=
  ite_self value

theorem passes_of_passes_larger (passes : Passes bound (larger left right)) :
    Passes bound left ∧ Passes bound right := by
  rcases larger_cases left right with ⟨same, below⟩ | ⟨same, number, below⟩
  · rw [same] at passes
    refine ⟨below.imp_right fun below => ?_, passes⟩
    refine lt_of_le_of_lt below (passes.resolve_left fun none => ?_)
    cases (ExtendedScalar.not_isNaN_of_le below).2.symm.trans none
  · rw [same] at passes
    have less : left < bound := passes.resolve_left fun none => by cases number.symm.trans none
    exact ⟨.inr less, below.imp_right fun below => lt_of_le_of_lt below less⟩

end Scalar

namespace Dense

def Void (values : List K) : Prop :=
  ∀ value ∈ values, Scalar.isNaN value = true

def Spoiled (values : List K) : Prop :=
  ∃ value ∈ values, Scalar.isNaN value = true

theorem Void.spoiled {values : List K} (void : Void values) (filled : values ≠ []) :
    Spoiled values := by
  obtain ⟨value, values, rfl⟩ := List.exists_cons_of_ne_nil filled
  exact ⟨value, List.mem_cons_self, void value List.mem_cons_self⟩

/-! ## Entrywise operations -/

section Entrywise

variable {combine : K → K → K} (spreads : Spreads combine)

include spreads

theorem void_zipWith_right (left : List K) {right : List K} (void : Void right) :
    Void (List.zipWith combine left right) := by
  intro value member
  obtain ⟨index, inside, rfl⟩ := List.mem_iff_getElem.mp member
  rw [List.getElem_zipWith]
  exact spreads.right _ (void _ (List.getElem_mem _))

theorem void_zipWith_left {left : List K} (void : Void left) (right : List K) :
    Void (List.zipWith combine left right) := by
  rw [List.zipWith_comm]
  exact void_zipWith_right spreads.swap right void

theorem spoiled_zipWith_right {left right : List K} (same : left.length = right.length)
    (spoiled : Spoiled right) : Spoiled (List.zipWith combine left right) := by
  obtain ⟨value, member, none⟩ := spoiled
  obtain ⟨index, inside, rfl⟩ := List.mem_iff_getElem.mp member
  have within : index < (List.zipWith combine left right).length := by simpa [same] using inside
  refine ⟨_, List.getElem_mem within, ?_⟩
  rw [List.getElem_zipWith]
  exact spreads.right _ none

theorem spoiled_zipWith_left {left right : List K} (same : left.length = right.length)
    (spoiled : Spoiled left) : Spoiled (List.zipWith combine left right) := by
  rw [List.zipWith_comm]
  exact spoiled_zipWith_right spreads.swap same.symm spoiled

end Entrywise

variable [PropagatingScalar K]

open PropagatingScalar

/-! ## Sums -/

theorem isNaN_foldl_add {values : List K} {start : K}
    (spoiled : Scalar.isNaN start = true ∨ Spoiled values) :
    Scalar.isNaN (values.foldl (· + ·) start) = true := by
  induction values generalizing start with
  | nil => exact spoiled.resolve_right (by rintro ⟨_, ⟨⟩, _⟩)
  | cons value values inductionHypothesis =>
      refine inductionHypothesis ?_
      rcases spoiled with first | ⟨other, member, none⟩
      · exact .inl (spreads_add.left _ first)
      · rcases List.mem_cons.mp member with rfl | inRest
        · exact .inl (spreads_add.right _ none)
        · exact .inr ⟨other, inRest, none⟩

theorem isNaN_total {values : List K} (spoiled : Spoiled values) :
    Scalar.isNaN (total values) = true :=
  isNaN_foldl_add (.inr spoiled)

theorem isFinite_foldl_add {values : List K} {start : K}
    (finite : Scalar.isFinite (values.foldl (· + ·) start) = true) :
    Scalar.isFinite start = true ∧ ∀ value ∈ values, Scalar.isFinite value = true := by
  induction values generalizing start with
  | nil => exact ⟨finite, by simp⟩
  | cons value values inductionHypothesis =>
      obtain ⟨sum, rest⟩ := inductionHypothesis finite
      obtain ⟨first, second⟩ := keepsFinite_add.operands sum
      exact ⟨first, List.forall_mem_cons.mpr ⟨second, rest⟩⟩

theorem isFinite_of_total {values : List K} (finite : Scalar.isFinite (total values) = true) :
    ∀ value ∈ values, Scalar.isFinite value = true :=
  (isFinite_foldl_add finite).2

theorem isNaN_dot_right {left right : List K} (same : left.length = right.length)
    (spoiled : Spoiled right) : Scalar.isNaN (dot left right) = true :=
  isNaN_total (spoiled_zipWith_right spreads_mul same spoiled)

theorem isNaN_dot_left {left right : List K} (same : left.length = right.length)
    (spoiled : Spoiled left) : Scalar.isNaN (dot left right) = true :=
  isNaN_total (spoiled_zipWith_left spreads_mul same spoiled)

theorem void_mulVec {rows : List (List K)} {values : List K}
    (wide : ∀ row ∈ rows, row.length = values.length) (spoiled : Spoiled values) :
    Void (mulVec rows values) := by
  intro value member
  obtain ⟨row, inRows, rfl⟩ := List.mem_map.mp member
  exact isNaN_dot_right (wide row inRows) spoiled

theorem void_foldl_addRow {pairs : List (List K × K)} {sums : List K}
    (void : Void sums ∨ pairs ≠ [])
    (weights : ∀ pair ∈ pairs, Scalar.isNaN pair.2 = true) :
    Void (pairs.foldl
      (fun sums pair => List.zipWith (fun sum value => sum + value * pair.2) sums pair.1)
      sums) := by
  induction pairs generalizing sums with
  | nil => exact void.resolve_right (by simp)
  | cons pair pairs inductionHypothesis =>
      refine inductionHypothesis (.inl ?_) fun other inRest =>
        weights other (List.mem_cons_of_mem _ inRest)
      intro value member
      obtain ⟨index, inside, rfl⟩ := List.mem_iff_getElem.mp member
      rw [List.getElem_zipWith]
      exact spreads_add.right _ (spreads_mul.right _ (weights pair List.mem_cons_self))

theorem void_transposeMulVec {rows : List (List K)} {weights : List K} (length : Nat)
    (filled : rows ≠ []) (same : weights.length = rows.length) (void : Void weights) :
    Void (transposeMulVec rows length weights) := by
  refine void_foldl_addRow (.inr fun empty => filled ?_) fun pair member =>
    void _ (List.of_mem_zip member).2
  simpa [same] using congrArg List.length empty

/-! ## Norms -/

theorem foldl_larger (values : List K) {start : K} (nonneg : 0 ≤ start) :
    let largest := values.foldl
      (fun largest value => Scalar.larger largest (Scalar.absolute value)) start
    start ≤ largest ∧
      ∀ value ∈ values, Scalar.isNaN value = true ∨ Scalar.absolute value ≤ largest := by
  induction values generalizing start with
  | nil => exact ⟨ExtendedScalar.le_self (ExtendedScalar.not_isNaN_of_le nonneg).2, by simp⟩
  | cons value values inductionHypothesis =>
      have number := (ExtendedScalar.not_isNaN_of_le nonneg).2
      have grown := Scalar.le_larger_left number (Scalar.absolute value)
      have reached : _ ∨ Scalar.absolute value ≤ _ := Scalar.le_larger_right start
      obtain ⟨above, rest⟩ := inductionHypothesis (ExtendedScalar.le_trans nonneg grown)
      refine ⟨ExtendedScalar.le_trans grown above, List.forall_mem_cons.mpr ⟨?_, rest⟩⟩
      rw [isNaN_absolute] at reached
      exact reached.imp_right fun below => ExtendedScalar.le_trans below above

theorem zero_le_zero : (0 : K) ≤ 0 :=
  ExtendedScalar.le_self Scalar.isNaN_zero

theorem zero_le_maxNorm (values : List K) : 0 ≤ maxNorm values :=
  (foldl_larger values zero_le_zero).1

theorem absolute_le_maxNorm {values : List K} {value : K} (member : value ∈ values) :
    Scalar.isNaN value = true ∨ Scalar.absolute value ≤ maxNorm values :=
  (foldl_larger values zero_le_zero).2 value member

theorem Void.maxNorm_eq {values : List K} (void : Void values) : maxNorm values = 0 := by
  induction values with
  | nil => rfl
  | cons value values inductionHypothesis =>
      have none : Scalar.isNaN (Scalar.absolute value) = true :=
        (isNaN_absolute value).trans (void value List.mem_cons_self)
      rw [maxNorm, List.foldl_cons, Scalar.larger_of_isNaN Scalar.isNaN_zero none]
      exact inductionHypothesis fun other inRest => void other (List.mem_cons_of_mem _ inRest)

end Dense

end LinearProgramming
