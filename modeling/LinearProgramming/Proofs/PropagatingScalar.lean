import LinearProgramming.Proofs.ExtendedScalar

/-!
# What is no number spreads

A result whose operand is no number is no number either, and a finite result has finite operands;
only comparisons, and with them maxima, pass over such values.  Doubles are scalars of this kind.
-/

namespace LinearProgramming

section

variable {K : Type} [Scalar K]

structure Spreads (combine : K → K → K) : Prop where
  left {left : K} (right : K) :
    Scalar.isNaN left = true → Scalar.isNaN (combine left right) = true
  right (left : K) {right : K} :
    Scalar.isNaN right = true → Scalar.isNaN (combine left right) = true

theorem Spreads.swap {combine : K → K → K} (spreads : Spreads combine) :
    Spreads fun left right => combine right left where
  left _ none := spreads.right _ none
  right _ _ none := spreads.left _ none

/-- Only finite operands have a finite result, and their result is a number. -/
structure KeepsFinite (combine : K → K → K) : Prop where
  operands {left right : K} : Scalar.isFinite (combine left right) = true →
    Scalar.isFinite left = true ∧ Scalar.isFinite right = true
  number {left right : K} : Scalar.isFinite left = true → Scalar.isFinite right = true →
    Scalar.isNaN (combine left right) = false

end

class PropagatingScalar (K : Type) [Scalar K] : Prop extends ExtendedScalar K where
  le_total {left right : K} (leftNumber : Scalar.isNaN left = false)
    (rightNumber : Scalar.isNaN right = false) : left ≤ right ∨ right ≤ left
  spreads_add : Spreads ((· + ·) : K → K → K)
  spreads_sub : Spreads ((· - ·) : K → K → K)
  spreads_mul : Spreads ((· * ·) : K → K → K)
  spreads_div : Spreads ((· / ·) : K → K → K)
  isNaN_neg (value : K) : Scalar.isNaN (-value) = Scalar.isNaN value
  isNaN_absolute (value : K) : Scalar.isNaN (Scalar.absolute value) = Scalar.isNaN value
  keepsFinite_add : KeepsFinite ((· + ·) : K → K → K)
  keepsFinite_sub : KeepsFinite ((· - ·) : K → K → K)
  keepsFinite_mul : KeepsFinite ((· * ·) : K → K → K)
  add_pos {left right : K} : 0 < left → 0 ≤ right → 0 < left + right
  zero_div {value : K} : 0 < value → 0 / value = 0
  billionth_pos : (0 : K) < 1e-9

/-! ## Doubles -/

namespace Double

open Float.Model UnpackedFloat

/-! ### Operations before their results are packed -/

theorem isFinite_zero_or_finite {vanishes : Prop} [Decidable vanishes] {sign : Sign}
    {mantissa : Nat} {exponent : Int} (positive : ¬vanishes → 0 < mantissa) :
    (if vanished : vanishes then UnpackedFloat.zero sign
      else .finite sign mantissa exponent (positive vanished)).isFinite = true := by
  by_cases vanished : vanishes
  · rw [dif_pos vanished]
    rfl
  · rw [dif_neg vanished]
    rfl

theorem isFinite_roundWithAccuracy (spec : Format) (sign : Sign) (mantissa : Nat) (exponent : Int)
    (accuracy : Accuracy) :
    (roundWithAccuracy spec sign mantissa exponent accuracy).isFinite = true := by
  unfold roundWithAccuracy
  exact isFinite_zero_or_finite _

theorem isFinite_normalize (spec : Format) (mantissa exponent : Int) (sign : Sign) :
    (UnpackedFloat.normalize spec mantissa exponent sign).isFinite = true := by
  unfold UnpackedFloat.normalize
  split
  · exact isFinite_roundWithAccuracy ..
  · rfl
  · exact isFinite_roundWithAccuracy ..

theorem isFinite_add (spec : Format) (left right : UnpackedFloat) :
    (add spec left right).isFinite = (left.isFinite && right.isFinite) := by
  rcases left with sign | _ | sign | _ <;> rcases right with other | _ | other | _
  case infinity.infinity => cases sign <;> cases other <;> rfl
  case zero.zero => cases sign <;> cases other <;> rfl
  case finite.finite => exact isFinite_normalize ..
  all_goals rfl

theorem isFinite_sub (spec : Format) (left right : UnpackedFloat) :
    (sub spec left right).isFinite = (left.isFinite && right.isFinite) := by
  rcases left with sign | _ | sign | _ <;> rcases right with other | _ | other | _
  case infinity.infinity => cases sign <;> cases other <;> rfl
  case zero.zero => cases sign <;> cases other <;> rfl
  case finite.finite => exact isFinite_normalize ..
  all_goals rfl

theorem isFinite_mul (spec : Format) (left right : UnpackedFloat) :
    (mul spec left right).isFinite = (left.isFinite && right.isFinite) := by
  rcases left with sign | _ | sign | _ <;> rcases right with other | _ | other | _
  case finite.finite => exact isFinite_roundWithAccuracy ..
  all_goals rfl

theorem eq_notANumber_of_isNaN {value : UnpackedFloat} (isNaN : value.isNaN = true) :
    value = .notANumber := by
  cases value with
  | notANumber => rfl
  | _ => cases isNaN

/-! ### Packing -/

theorem ofBitVec_unpackSign {spec : Format} (sign : Sign) (exponent : BitVec spec.exponentBits)
    (mantissa : BitVec spec.mantissaBitsWithoutImplicit) :
    Sign.ofBitVec (unpackSign (packComponents spec sign exponent mantissa)) = sign := by
  have bit : unpackSign (packComponents spec sign exponent mantissa) = sign.toBitVec := by
    unfold unpackSign packComponents
    ext position (_ | ⟨⟨⟩⟩)
    simp +arith [BitVec.extractLsb, BitVec.getElem_append]
  rw [bit]
  cases sign with
  | positive => rfl
  | negative => rfl

theorem isFinite_unpack_packComponents {spec : Format} {sign : Sign}
    {exponent : BitVec spec.exponentBits} (inside : exponent ≠ -1#_)
    (mantissa : BitVec spec.mantissaBitsWithoutImplicit) :
    (unpack spec (packComponents spec sign exponent mantissa)).isFinite = true := by
  unfold UnpackedFloat.unpack
  dsimp only
  rw [unpackExponent_packComponents, if_neg inside]
  by_cases least : exponent = 0#_
  · rw [if_pos least]
    exact isFinite_zero_or_finite _
  · rw [if_neg least]
    rfl

theorem unpack_packedInfinity (spec : Format) (sign : Sign) :
    unpack spec (packedInfinity spec sign) = .infinity sign := by
  unfold UnpackedFloat.unpack packedInfinity
  dsimp only
  rw [if_pos unpackExponent_packComponents]
  refine (if_pos unpackMantissa_packComponents).trans ?_
  rw [ofBitVec_unpackSign]

/-- A finite value is packed as a finite one or, if it is too large, as an infinite one. -/
theorem unpack_pack_finite (sign : Sign) {mantissa : Nat} {exponent : Int}
    (positive : 0 < mantissa) :
    let packed := unpack .binary64
      (UnpackedFloat.pack .binary64 (.finite sign mantissa exponent positive))
    packed = .infinity sign ∨ packed.isFinite = true := by
  unfold UnpackedFloat.pack
  dsimp only
  split
  · exact .inl (unpack_packedInfinity _ sign)
  rename_i small
  split
  · refine .inr (isFinite_unpack_packComponents (fun full => small ?_) _)
    have biased := congrArg BitVec.toNat full
    change _ % 2 ^ 11 = 2047 at biased
    change 2 ^ 11 ≤ _
    omega
  · exact .inr (isFinite_unpack_packComponents (by decide) _)

theorem isNaN_unpack_pack (value : UnpackedFloat) :
    (unpack .binary64 (UnpackedFloat.pack .binary64 value)).isNaN = value.isNaN := by
  cases value with
  | notANumber => rfl
  | infinity sign => exact congrArg UnpackedFloat.isNaN (unpack_packedInfinity _ sign)
  | zero sign => cases sign <;> rfl
  | finite sign mantissa exponent positive =>
      rcases unpack_pack_finite sign positive with infinite | finite
      · exact (congrArg UnpackedFloat.isNaN infinite).trans rfl
      · exact isNaN_of_isFinite finite

theorem isFinite_of_isFinite_unpack_pack {value : UnpackedFloat}
    (finite : (unpack .binary64 (UnpackedFloat.pack .binary64 value)).isFinite = true) :
    value.isFinite = true := by
  cases value with
  | notANumber => exact finite
  | infinity sign =>
      exact (congrArg UnpackedFloat.isFinite (unpack_packedInfinity _ sign)).symm.trans finite
  | zero sign => rfl
  | finite sign mantissa exponent positive => rfl

/-! ### Operations on doubles -/

section Operations

variable {operation : UnpackedFloat → UnpackedFloat → UnpackedFloat}
  {combine : Float → Float → Float}
  (packed : ∀ left right, combine left right =
    .ofModel (.pack (operation left.toModel.unpack right.toModel.unpack)))

include packed

theorem spreads_of_packed (left : ∀ value, operation .notANumber value = .notANumber)
    (right : ∀ value, operation value .notANumber = .notANumber) : Spreads combine where
  left {first} second isNaN := by
    rw [packed]
    refine (isNaN_unpack_pack _).trans ?_
    rw [eq_notANumber_of_isNaN (show first.toModel.unpack.isNaN = true from isNaN), left]
    rfl
  right first {second} isNaN := by
    rw [packed]
    refine (isNaN_unpack_pack _).trans ?_
    rw [eq_notANumber_of_isNaN (show second.toModel.unpack.isNaN = true from isNaN), right]
    rfl

theorem keepsFinite_of_packed (isFinite : ∀ left right,
      (operation left right).isFinite = (left.isFinite && right.isFinite)) :
    KeepsFinite combine where
  operands {left right} finite := by
    rw [packed] at finite
    have before := isFinite_of_isFinite_unpack_pack finite
    rwa [isFinite, Bool.and_eq_true] at before
  number {left right} leftFinite rightFinite := by
    rw [packed]
    refine (isNaN_unpack_pack _).trans (isNaN_of_isFinite ?_)
    rw [isFinite, Bool.and_eq_true]
    exact ⟨leftFinite, rightFinite⟩

end Operations

/-! ### Sums of positive doubles

Bits are lost only to the right of what a double can hold, so that no sum of positive doubles is
rounded to zero. -/

theorem mantissa_shiftRight (mantissa : ExtendedMantissa) (shifts : Nat) :
    (mantissa >>> shifts).mantissa = mantissa.mantissa / 2 ^ shifts := by
  induction shifts with
  | zero => exact (Nat.div_one _).symm
  | succ shifts inductionHypothesis =>
      change (mantissa >>> shifts).mantissa / 2 = _
      rw [inductionHypothesis, Nat.div_div_eq_div_mul, Nat.pow_succ]

theorem mantissa_ofMantissaAndAccuracy (mantissa : Nat) (accuracy : Accuracy) :
    (ExtendedMantissa.ofMantissaAndAccuracy mantissa accuracy).mantissa = mantissa := by
  rcases accuracy with _ | ordering
  · rfl
  · cases ordering <;> rfl

theorem le_roundedMantissa (mantissa : ExtendedMantissa) :
    mantissa.mantissa ≤ mantissa.roundedMantissa := by
  rcases mantissa with ⟨mantissa, round, sticky⟩
  cases round
  · cases sticky <;> exact le_rfl
  · cases sticky <;> exact Nat.le_add_right _ _

/-- How many bits rounding drops. -/
def dropped (mantissa : Nat) (exponent : Int) : Nat :=
  (Format.binary64.targetExponent (totalExponent mantissa exponent) - exponent).toNat

theorem dropped_eq (mantissa : Nat) (exponent : Int) :
    dropped mantissa exponent =
      (max (mantissa.log2 + 1 + exponent - 53) (-1074) - exponent).toNat := rfl

theorem kept_bounds {mantissa : Nat} (positive : 0 < mantissa) {exponent : Int}
    (least : -1074 ≤ exponent) :
    0 < mantissa / 2 ^ dropped mantissa exponent ∧
      mantissa / 2 ^ dropped mantissa exponent < 2 ^ 53 := by
  have below := Nat.log2_self_le positive.ne'
  have above : mantissa < 2 ^ (mantissa.log2 + 1) := Nat.lt_log2_self
  have count : dropped mantissa exponent = mantissa.log2 - 52 := by
    rw [dropped_eq]
    omega
  rw [count]
  constructor
  · refine Nat.div_pos (le_trans ?_ below) (Nat.two_pow_pos _)
    exact Nat.pow_le_pow_right (by decide) (Nat.sub_le _ _)
  · rw [Nat.div_lt_iff_lt_mul (Nat.two_pow_pos _), ← pow_add]
    exact above.trans_le (Nat.pow_le_pow_right (by decide) (by omega))

/-- The value has a mantissa and an exponent that a double can hold, unless it is too large. -/
def Precise (sign : Sign) (value : UnpackedFloat) : Prop :=
  ∃ mantissa exponent positive, value = .finite sign mantissa exponent positive ∧
    mantissa < 2 ^ 53 ∧ -1074 ≤ exponent

theorem precise_roundWithAccuracy (sign : Sign) {mantissa : Nat} (positive : 0 < mantissa)
    {exponent : Int} (least : -1074 ≤ exponent) (accuracy : Accuracy) :
    Precise sign (roundWithAccuracy .binary64 sign mantissa exponent accuracy) := by
  let first :=
    ExtendedMantissa.ofMantissaAndAccuracy mantissa accuracy >>> dropped mantissa exponent
  let raised := exponent + dropped mantissa exponent
  let last := ExtendedMantissa.ofMantissaAndAccuracy first.roundedMantissa .exact >>>
    dropped first.roundedMantissa raised
  have roundedPositive : 0 < first.roundedMantissa := by
    have firstPositive : 0 < first.mantissa := by
      rw [mantissa_shiftRight, mantissa_ofMantissaAndAccuracy]
      exact (kept_bounds positive least).1
    exact firstPositive.trans_le (le_roundedMantissa first)
  have raisedLeast : -1074 ≤ raised := by omega
  have kept : 0 < last.mantissa ∧ last.mantissa < 2 ^ 53 := by
    rw [mantissa_shiftRight, mantissa_ofMantissaAndAccuracy]
    exact kept_bounds roundedPositive raisedLeast
  exact ⟨last.mantissa, raised + dropped first.roundedMantissa raised, kept.1, dif_neg kept.1.ne',
    kept.2, by omega⟩

theorem precise_round (sign : Sign) {mantissa : Nat} (positive : 0 < mantissa)
    {exponent : Int} (least : -1074 ≤ exponent) :
    Precise sign (round .binary64 sign mantissa exponent) := by
  refine precise_roundWithAccuracy sign ?_ ?_ .exact
  · rw [Nat.shiftLeft_eq]
    exact Nat.mul_pos positive (Nat.two_pow_pos _)
  · change -1074 ≤ exponent - ((exponent - max _ (-1074)).toNat : Int)
    omega

theorem precise_unpack {bits : BitVec Format.binary64.numBits} {sign : Sign} {mantissa : Nat}
    {exponent : Int} {positive : 0 < mantissa}
    (unpacked : unpack .binary64 bits = .finite sign mantissa exponent positive) :
    Precise sign (unpack .binary64 bits) := by
  refine ⟨mantissa, exponent, positive, unpacked, ?_⟩
  have small : (unpackMantissa bits).toNat < 2 ^ 52 := (unpackMantissa bits).isLt
  unfold UnpackedFloat.unpack at unpacked
  dsimp only at unpacked
  by_cases full : unpackExponent bits = -1#_
  · rw [if_pos full] at unpacked
    by_cases empty : unpackMantissa bits = 0#_
    · cases (if_pos empty).symm.trans unpacked
    · cases (if_neg empty).symm.trans unpacked
  rw [if_neg full] at unpacked
  by_cases least : unpackExponent bits = 0#_
  · rw [if_pos least] at unpacked
    by_cases empty : unpackMantissa bits = 0#_
    · cases (dif_pos empty).symm.trans unpacked
    · cases (dif_neg empty).symm.trans unpacked
      refine ⟨small.trans (by decide), ?_⟩
      change (-1074 : Int) ≤ (unpackExponent bits).toNat - (1023 + 52) + 1
      omega
  · cases (if_neg least).symm.trans unpacked
    have exponentPositive : (unpackExponent bits).toNat ≠ 0 := fun zero =>
      least (BitVec.eq_of_toNat_eq zero)
    constructor
    · exact (1#1 ++ unpackMantissa bits).isLt
    · change (-1074 : Int) ≤ (unpackExponent bits).toNat - (1023 + 52)
      omega

def isPositive : UnpackedFloat → Bool
  | .infinity .positive => true
  | .finite .positive _ _ _ => true
  | _ => false

def Positive (value : UnpackedFloat) : Prop :=
  value = .infinity .positive ∨ Precise .positive value

theorem positive_unpack {bits : BitVec Format.binary64.numBits}
    (positive : isPositive (unpack .binary64 bits) = true) : Positive (unpack .binary64 bits) := by
  cases unpacked : unpack .binary64 bits with
  | notANumber => cases (congrArg isPositive unpacked).symm.trans positive
  | zero sign => cases (congrArg isPositive unpacked).symm.trans positive
  | infinity sign =>
      cases sign with
      | negative => cases (congrArg isPositive unpacked).symm.trans positive
      | positive => exact .inl rfl
  | finite sign mantissa exponent mantissaPositive =>
      cases sign with
      | negative => cases (congrArg isPositive unpacked).symm.trans positive
      | positive => exact .inr (unpacked ▸ precise_unpack unpacked)

theorem isPositive_unpack_packComponents {spec : Format} {exponent : BitVec spec.exponentBits}
    {mantissa : BitVec spec.mantissaBitsWithoutImplicit} (inside : exponent ≠ -1#_)
    (apart : exponent ≠ 0#_ ∨ mantissa ≠ 0#_) :
    isPositive (unpack spec (packComponents spec .positive exponent mantissa)) = true := by
  unfold UnpackedFloat.unpack
  dsimp only
  rw [ofBitVec_unpackSign, if_neg (mt unpackExponent_packComponents.symm.trans inside)]
  by_cases least : unpackExponent (packComponents spec .positive exponent mantissa) = 0#_
  · have filled := apart.resolve_left
      (not_not_intro (unpackExponent_packComponents.symm.trans least))
    rw [if_pos least, dif_neg (mt unpackMantissa_packComponents.symm.trans filled)]
    rfl
  · rw [if_neg least]
    rfl

theorem isPositive_unpack_pack {value : UnpackedFloat} (positive : Positive value) :
    isPositive (unpack .binary64 (UnpackedFloat.pack .binary64 value)) = true := by
  obtain rfl | ⟨mantissa, exponent, mantissaPositive, rfl, short, least⟩ := positive
  · exact congrArg isPositive (unpack_packedInfinity _ _)
  unfold UnpackedFloat.pack
  dsimp only
  split
  · exact congrArg isPositive (unpack_packedInfinity _ _)
  rename_i small
  change ¬ 2 ^ 11 ≤ (exponent + 1023 + 52).toNat + 1 at small
  split
  · -- The exponent is neither the one of the infinities nor the one of zero.
    have exponentBits : (BitVec.ofNat 11 (exponent + 1023 + 52).toNat).toNat =
        (exponent + 1023 + 52).toNat := by
      rw [BitVec.toNat_ofNat, Nat.mod_eq_of_lt (by omega)]
    refine isPositive_unpack_packComponents (fun full => ?_) (.inl fun empty => ?_)
    · have same : _ = 2047 := exponentBits.symm.trans (congrArg BitVec.toNat full)
      omega
    · have same : _ = 0 := exponentBits.symm.trans (congrArg BitVec.toNat empty)
      omega
  · -- The mantissa stands alone, and is not zero.
    rename_i subnormal
    change ¬ mantissa.log2 + 1 = 53 at subnormal
    have bits : mantissa.log2 < 53 := (Nat.log2_lt mantissaPositive.ne').mpr short
    have low : mantissa < 2 ^ 52 := (Nat.log2_lt mantissaPositive.ne').mp (by omega)
    refine isPositive_unpack_packComponents (by decide) (.inr fun empty => mantissaPositive.ne' ?_)
    have same := congrArg BitVec.toNat empty
    rwa [BitVec.toNat_ofNat, Nat.mod_eq_of_lt low] at same

/-- The mantissas are added at the smaller one of the exponents, where both are whole. -/
theorem precise_add {left right : UnpackedFloat} (leftPrecise : Precise .positive left)
    (rightPrecise : Precise .positive right) : Precise .positive (add .binary64 left right) := by
  obtain ⟨mantissa, exponent, positive, rfl, -, least⟩ := leftPrecise
  obtain ⟨other, otherExponent, otherPositive, rfl, -, otherLeast⟩ := rightPrecise
  have sumPositive : 0 < mantissa <<< (exponent - min exponent otherExponent).toNat +
      other <<< (otherExponent - min exponent otherExponent).toNat := by
    rw [Nat.shiftLeft_eq]
    exact Nat.add_pos_left (Nat.mul_pos positive (Nat.two_pow_pos _)) _
  change Precise .positive (UnpackedFloat.normalize .binary64
    (((_ : Nat) : Int) + ((_ : Nat) : Int)) (min exponent otherExponent) .positive)
  rw [← Int.natCast_add]
  generalize mantissa <<< (exponent - min exponent otherExponent).toNat +
    other <<< (otherExponent - min exponent otherExponent).toNat = sum at sumPositive ⊢
  unfold UnpackedFloat.normalize
  have above : compare (sum : Int) 0 = .gt := compare_gt_iff_gt.mpr (by omega)
  rw [above]
  exact precise_round .positive sumPositive (le_min least otherLeast)

theorem positive_add {left right : UnpackedFloat} (leftPositive : Positive left)
    (rightSide : Positive right ∨ ∃ sign, right = .zero sign) :
    Positive (add .binary64 left right) := by
  obtain rfl | leftPrecise := leftPositive
  · obtain (rfl | ⟨_, _, _, rfl, -⟩) | ⟨sign, rfl⟩ := rightSide
    · exact .inl rfl
    · exact .inl rfl
    · exact .inl rfl
  · obtain (rfl | rightPrecise) | ⟨sign, rfl⟩ := rightSide
    · obtain ⟨_, _, _, rfl, -⟩ := leftPrecise
      exact .inl rfl
    · exact .inr (precise_add leftPrecise rightPrecise)
    · obtain ⟨_, _, _, rfl, -⟩ := id leftPrecise
      exact .inr leftPrecise

section Zero

variable {value : Float}

theorem zero_lt_iff : (0.0 : Float) < value ↔ isPositive value.toModel.unpack = true := by
  have compared : (0.0 : Float) < value ↔
      ((UnpackedFloat.zero .positive).compare value.toModel.unpack == some .lt) = true :=
    decide_eq_true_iff
  rw [compared]
  generalize value.toModel.unpack = unpacked
  rcases unpacked with sign | _ | sign | sign
  · cases sign <;> decide
  · decide
  · cases sign <;> decide
  · cases sign <;> exact iff_of_eq rfl

theorem isPositive_or_zero (nonneg : (0.0 : Float) ≤ value) :
    isPositive value.toModel.unpack = true ∨ ∃ sign, value.toModel.unpack = .zero sign := by
  have compared :
      ((UnpackedFloat.zero .positive).compare value.toModel.unpack).any (·.isLE) = true :=
    of_decide_eq_true nonneg
  generalize value.toModel.unpack = unpacked at compared
  rcases unpacked with sign | _ | sign | sign
  · cases sign
    · cases compared
    · exact .inl rfl
  · cases compared
  · exact .inr ⟨sign, rfl⟩
  · cases sign
    · cases compared
    · exact .inl rfl

theorem zero_lt_add {left right : Float} (positive : (0.0 : Float) < left)
    (nonneg : (0.0 : Float) ≤ right) : (0.0 : Float) < left + right :=
  zero_lt_iff.mpr (isPositive_unpack_pack (positive_add (positive_unpack (zero_lt_iff.mp positive))
    ((isPositive_or_zero nonneg).imp_left positive_unpack)))

theorem zero_div_eq (positive : (0.0 : Float) < value) : 0.0 / value = (0.0 : Float) := by
  have right := zero_lt_iff.mp positive
  change Float.ofModel (.pack (div .binary64 (.zero .positive) value.toModel.unpack)) = 0.0
  generalize value.toModel.unpack = unpacked at right
  rcases unpacked with sign | _ | sign | sign
  · cases sign
    · cases right
    · rfl
  · cases right
  · cases right
  · cases sign
    · cases right
    · rfl

end Zero

end Double

open Double Float.Model UnpackedFloat in
instance : PropagatingScalar Float where
  le_total leftNumber rightNumber := by
    obtain ⟨first, isFirst⟩ := Option.ne_none_iff_exists'.mp (isNaN_eq_false_iff.mp leftNumber)
    obtain ⟨second, isSecond⟩ := Option.ne_none_iff_exists'.mp (isNaN_eq_false_iff.mp rightNumber)
    exact (le_total first second).imp
      (fun below => le_iff_place.mpr ⟨first, isFirst, second, isSecond, below⟩)
      (fun above => le_iff_place.mpr ⟨second, isSecond, first, isFirst, above⟩)
  spreads_add := spreads_of_packed (fun _ _ => rfl) (fun _ => rfl) (by rintro (_ | _) <;> rfl)
  spreads_sub := spreads_of_packed (fun _ _ => rfl) (fun _ => rfl) (by rintro (_ | _) <;> rfl)
  spreads_mul := spreads_of_packed (fun _ _ => rfl) (fun _ => rfl) (by rintro (_ | _) <;> rfl)
  spreads_div := spreads_of_packed (fun _ _ => rfl) (fun _ => rfl) (by rintro (_ | _) <;> rfl)
  isNaN_neg value := by
    refine (isNaN_unpack_pack value.toModel.unpack.neg).trans ?_
    change _ = value.toModel.unpack.isNaN
    cases value.toModel.unpack <;> rfl
  isNaN_absolute value := by
    refine (isNaN_unpack_pack value.toModel.unpack.abs).trans ?_
    change _ = value.toModel.unpack.isNaN
    cases value.toModel.unpack <;> rfl
  keepsFinite_add := keepsFinite_of_packed (fun _ _ => rfl) (isFinite_add .binary64)
  keepsFinite_sub := keepsFinite_of_packed (fun _ _ => rfl) (isFinite_sub .binary64)
  keepsFinite_mul := keepsFinite_of_packed (fun _ _ => rfl) (isFinite_mul .binary64)
  add_pos := zero_lt_add
  zero_div := zero_div_eq
  billionth_pos := by decide

end LinearProgramming
