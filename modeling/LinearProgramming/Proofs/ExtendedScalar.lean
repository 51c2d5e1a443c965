import Mathlib.Data.Prod.Lex
import LinearProgramming.Proofs.ComparableScalar

/-!
# Finite numbers between two infinities

What bounds with rounded numbers rely on: a comparison is an order, but for values that are no
number and compare with nothing, and the finite numbers lie between the infinities.  Doubles are
such scalars, since the order of a double and another is the order of two places on a line.
-/

namespace LinearProgramming

class ExtendedScalar (K : Type) [Scalar K] : Prop extends ComparableScalar K where
  isFinite_zero : Scalar.isFinite (0 : K) = true
  le_self {value : K} (number : Scalar.isNaN value = false) : value ≤ value
  not_isNaN_of_le {left right : K} :
    left ≤ right → Scalar.isNaN left = false ∧ Scalar.isNaN right = false
  le_trans {first second third : K} : first ≤ second → second ≤ third → first ≤ third
  lt_iff {left right : K} : left < right ↔ left ≤ right ∧ ¬ right ≤ left
  beq_iff {left right : K} : (left == right) = true ↔ left ≤ right ∧ right ≤ left
  neg_infinity_le {value : K} (finite : Scalar.isFinite value = true) : -Scalar.infinity ≤ value
  le_infinity {value : K} (finite : Scalar.isFinite value = true) : value ≤ Scalar.infinity
  beq_neg_infinity {least value : K} (infinite : ¬ Scalar.isFinite least = true)
    (finite : Scalar.isFinite value = true) (below : least ≤ value) :
    (least == -Scalar.infinity) = true
  beq_infinity {value greatest : K} (infinite : ¬ Scalar.isFinite greatest = true)
    (finite : Scalar.isFinite value = true) (above : value ≤ greatest) :
    (greatest == Scalar.infinity) = true

namespace ExtendedScalar

variable {K : Type} [Scalar K] [ExtendedScalar K] {left right value : K}

theorem le_self_of_isFinite (finite : Scalar.isFinite value = true) : value ≤ value :=
  le_self (ComparableScalar.isNaN_of_isFinite finite)

theorem le_congr_left (same : (left == right) = true) : left ≤ value ↔ right ≤ value :=
  ⟨le_trans (beq_iff.mp same).2, le_trans (beq_iff.mp same).1⟩

theorem le_congr_right (same : (left == right) = true) : value ≤ left ↔ value ≤ right :=
  ⟨fun below => le_trans below (beq_iff.mp same).1, fun below => le_trans below (beq_iff.mp same).2⟩

theorem le_of_lt (less : left < right) : left ≤ right :=
  (lt_iff.mp less).1

theorem not_beq_of_lt (less : left < right) : ¬ (left == right) = true :=
  fun same => (lt_iff.mp less).2 (beq_iff.mp same).2

theorem lt_of_le_of_not_beq (ordered : left ≤ right) (apart : ¬ (left == right) = true) :
    left < right :=
  lt_iff.mpr ⟨ordered, fun reversed => apart (beq_iff.mpr ⟨ordered, reversed⟩)⟩

end ExtendedScalar

/-! ## Doubles -/

namespace Double

open Float.Model

/-- A place on the line, which is told by its side of zero and whether it is infinite, then by its
exponent, then by its mantissa. -/
abbrev Place : Type := ℤ ×ₗ ℤ ×ₗ ℤ

def Place.mk (side exponent mantissa : ℤ) : Place := toLex (side, toLex (exponent, mantissa))

def place : UnpackedFloat → Option Place
  | .notANumber => none
  | .infinity .negative => some (.mk (-2) 0 0)
  | .finite .negative mantissa exponent _ => some (.mk (-1) (-exponent) (-mantissa))
  | .zero _ => some (.mk 0 0 0)
  | .finite .positive mantissa exponent _ => some (.mk 1 exponent mantissa)
  | .infinity .positive => some (.mk 2 0 0)

def Place.bottom : Place := .mk (-2) 0 0

def Place.top : Place := .mk 2 0 0

theorem Place.lt_of_side {side exponent mantissa side' exponent' mantissa' : ℤ}
    (less : side < side') : Place.mk side exponent mantissa < .mk side' exponent' mantissa' :=
  Prod.Lex.toLex_lt_toLex.mpr (.inl less)

theorem isNaN_eq_true_iff (value : UnpackedFloat) : value.isNaN = true ↔ place value = none := by
  cases value with
  | notANumber => exact iff_of_true rfl rfl
  | infinity sign => cases sign <;> exact iff_of_false Bool.false_ne_true (Option.some_ne_none _)
  | zero sign => exact iff_of_false Bool.false_ne_true (Option.some_ne_none _)
  | finite sign => cases sign <;> exact iff_of_false Bool.false_ne_true (Option.some_ne_none _)

theorem place_cases {value : UnpackedFloat} {number : Place} (found : place value = some number) :
    value.isFinite = false ∧ (number = .bottom ∨ number = .top) ∨
      value.isFinite = true ∧ .bottom < number ∧ number < .top := by
  cases value with
  | notANumber => cases found
  | infinity sign =>
      cases sign with
      | negative => exact .inl ⟨rfl, .inl (Option.some.inj found).symm⟩
      | positive => exact .inl ⟨rfl, .inr (Option.some.inj found).symm⟩
  | zero sign =>
      obtain rfl := Option.some.inj found
      exact .inr ⟨rfl, Place.lt_of_side (by decide), Place.lt_of_side (by decide)⟩
  | finite sign =>
      cases sign with
      | negative =>
          obtain rfl := Option.some.inj found
          exact .inr ⟨rfl, Place.lt_of_side (by decide), Place.lt_of_side (by decide)⟩
      | positive =>
          obtain rfl := Option.some.inj found
          exact .inr ⟨rfl, Place.lt_of_side (by decide), Place.lt_of_side (by decide)⟩

theorem compare_neg_neg (left right : ℤ) : compare (-left) (-right) = compare right left := by
  simp only [compare, compareOfLessAndEq]
  split_ifs <;> first | rfl | omega

theorem compare_natCast (left right : ℕ) : compare (left : ℤ) (right : ℤ) = compare left right := by
  simp only [compare, compareOfLessAndEq]
  split_ifs <;> first | rfl | omega

/-- Values compare as their places do. -/
theorem compare_eq (left right : UnpackedFloat) :
    left.compare right = Option.map₂ compare (place left) (place right) := by
  rcases left with sign | _ | sign | ⟨sign, mantissa, exponent, positive⟩ <;>
    rcases right with other | _ | other | ⟨other, mantissa', exponent', positive'⟩
  case finite.finite =>
    cases sign with
    | positive =>
        cases other with
        | positive =>
            change some _ = some ((compare exponent exponent').then
              (compare (mantissa : ℤ) (mantissa' : ℤ)))
            rw [compare_natCast]
        | negative => rfl
    | negative =>
        cases other with
        | positive => rfl
        | negative =>
            -- Below zero the greater exponent and the greater mantissa come first.
            change some _ = some ((compare (-exponent) (-exponent')).then
              (compare (-(mantissa : ℤ)) (-(mantissa' : ℤ))))
            rw [compare_neg_neg, compare_neg_neg, compare_natCast, Ordering.swap_then,
              ← Std.OrientedCmp.eq_swap, ← Std.OrientedCmp.eq_swap]
  all_goals try cases sign
  all_goals try cases other
  all_goals rfl

def placeOf (value : Float) : Option Place :=
  place value.toModel.unpack

theorem placeOf_infinity : placeOf infinity = some .top := rfl

theorem placeOf_neg_infinity : placeOf (-infinity) = some .bottom := rfl

section Comparisons

variable {left right value : Float}

theorem compare_eq_some_iff {ordering : Ordering} :
    left.toModel.unpack.compare right.toModel.unpack = some ordering ↔
      ∃ first ∈ placeOf left, ∃ second ∈ placeOf right, compare first second = ordering := by
  rw [compare_eq, Option.map₂_eq_some_iff]
  simp only [placeOf, Option.mem_def, exists_and_left]

theorem le_iff_place :
    left ≤ right ↔ ∃ first ∈ placeOf left, ∃ second ∈ placeOf right, first ≤ second := by
  have compared : left ≤ right ↔
      (left.toModel.unpack.compare right.toModel.unpack).any (·.isLE) = true := decide_eq_true_iff
  rw [compared, Option.any_eq_true]
  constructor
  · rintro ⟨ordering, found, isLE⟩
    obtain ⟨first, isFirst, second, isSecond, rfl⟩ := compare_eq_some_iff.mp found
    exact ⟨first, isFirst, second, isSecond,
      compare_le_iff_le.mp (Ordering.isLE_iff_ne_gt.mp isLE)⟩
  · rintro ⟨first, isFirst, second, isSecond, ordered⟩
    exact ⟨_, compare_eq_some_iff.mpr ⟨first, isFirst, second, isSecond, rfl⟩,
      Ordering.isLE_iff_ne_gt.mpr (compare_le_iff_le.mpr ordered)⟩

theorem lt_iff_place :
    left < right ↔ ∃ first ∈ placeOf left, ∃ second ∈ placeOf right, first < second := by
  have compared : left < right ↔
      (left.toModel.unpack.compare right.toModel.unpack == some .lt) = true := decide_eq_true_iff
  rw [compared, beq_iff_eq, compare_eq_some_iff]
  simp only [← compare_lt_iff_lt]

theorem beq_iff_place : (left == right) = true ↔ ∃ first ∈ placeOf left, first ∈ placeOf right := by
  have compared : (left == right) = true ↔
      (left.toModel.unpack.compare right.toModel.unpack == some .eq) = true := Iff.rfl
  rw [compared, beq_iff_eq, compare_eq_some_iff]
  constructor
  · rintro ⟨first, isFirst, second, isSecond, same⟩
    obtain rfl : first = second := compare_eq_iff_eq.mp same
    exact ⟨first, isFirst, isSecond⟩
  · rintro ⟨first, isFirst, isSecond⟩
    exact ⟨first, isFirst, first, isSecond, compare_eq_iff_eq.mpr rfl⟩

theorem isNaN_eq_false_iff : value.isNaN = false ↔ placeOf value ≠ none := by
  rw [← Bool.not_eq_true]
  exact not_congr (isNaN_eq_true_iff value.toModel.unpack)

theorem exists_place (finite : value.isFinite = true) :
    ∃ number ∈ placeOf value, .bottom < number ∧ number < .top := by
  obtain ⟨number, found⟩ := Option.ne_none_iff_exists'.mp
    (isNaN_eq_false_iff.mp (isNaN_of_isFinite finite))
  rcases place_cases found with ⟨infinite, -⟩ | ⟨-, between⟩
  · cases finite.symm.trans infinite
  · exact ⟨number, found, between⟩

theorem place_of_not_isFinite (infinite : ¬ value.isFinite = true) {number : Place}
    (found : placeOf value = some number) : number = .bottom ∨ number = .top := by
  rcases place_cases found with ⟨-, atEnd⟩ | ⟨finite, -⟩
  · exact atEnd
  · exact absurd finite infinite

end Comparisons

end Double

open Double in
instance : ExtendedScalar Float where
  isFinite_zero := rfl
  le_self number := by
    obtain ⟨place, isPlace⟩ := Option.ne_none_iff_exists'.mp (isNaN_eq_false_iff.mp number)
    exact le_iff_place.mpr ⟨place, isPlace, place, isPlace, le_rfl⟩
  not_isNaN_of_le ordered := by
    obtain ⟨first, isFirst, second, isSecond, -⟩ := le_iff_place.mp ordered
    exact ⟨isNaN_eq_false_iff.mpr (Option.ne_none_iff_exists'.mpr ⟨first, isFirst⟩),
      isNaN_eq_false_iff.mpr (Option.ne_none_iff_exists'.mpr ⟨second, isSecond⟩)⟩
  le_trans := by
    simp only [le_iff_place]
    rintro first second third ⟨low, isLow, middle, isMiddle, below⟩
      ⟨other, isOther, high, isHigh, above⟩
    obtain rfl := Option.some.inj (isMiddle.symm.trans isOther)
    exact ⟨low, isLow, high, isHigh, below.trans above⟩
  lt_iff {left right} := by
    simp only [le_iff_place, lt_iff_place]
    cases placeOf left with
    | none => simp
    | some first =>
        cases placeOf right with
        | none => simp
        | some second => simpa using le_of_lt
  beq_iff {left right} := by
    simp only [le_iff_place, beq_iff_place]
    cases placeOf left with
    | none => simp
    | some first =>
        cases placeOf right with
        | none => simp
        | some second => simpa [eq_comm] using le_antisymm_iff
  neg_infinity_le finite := by
    obtain ⟨number, isNumber, above, -⟩ := exists_place finite
    exact le_iff_place.mpr ⟨_, placeOf_neg_infinity, number, isNumber, above.le⟩
  le_infinity finite := by
    obtain ⟨number, isNumber, -, below⟩ := exists_place finite
    exact le_iff_place.mpr ⟨number, isNumber, _, placeOf_infinity, below.le⟩
  beq_neg_infinity infinite finite below := by
    obtain ⟨least, isLeast, number, isNumber, ordered⟩ := le_iff_place.mp below
    obtain ⟨other, isOther, -, less⟩ := exists_place finite
    obtain rfl := Option.some.inj (isNumber.symm.trans isOther)
    rcases place_of_not_isFinite infinite isLeast with rfl | rfl
    · exact beq_iff_place.mpr ⟨_, isLeast, placeOf_neg_infinity⟩
    · exact absurd (ordered.trans_lt less) (lt_irrefl _)
  beq_infinity infinite finite above := by
    obtain ⟨number, isNumber, greatest, isGreatest, ordered⟩ := le_iff_place.mp above
    obtain ⟨other, isOther, greater, -⟩ := exists_place finite
    obtain rfl := Option.some.inj (isNumber.symm.trans isOther)
    rcases place_of_not_isFinite infinite isGreatest with rfl | rfl
    · exact absurd (greater.trans_le ordered) (lt_irrefl _)
    · exact beq_iff_place.mpr ⟨_, isGreatest, placeOf_infinity⟩

end LinearProgramming
