import LinearProgramming.Proofs.ExtendedScalar
import LinearProgramming.Bound

/-!
# What requested bounds mean

A request names a kind and two sides, of which the kind uses some.  It is taken if some finite
number meets the sides that are used, and what is stored in its place has the same finite numbers
in it: infinite sides are gone, equal sides are one value, and a request for what is stored is
stored as it is.
-/

namespace LinearProgramming

namespace BoundKind

def usesLower : BoundKind → Bool
  | lower | double | fixed => true
  | free | upper => false

def usesUpper : BoundKind → Bool
  | upper | double | fixed => true
  | free | lower => false

end BoundKind

variable {K : Type} [Scalar K]

namespace Bound

def Meets (kind : BoundKind) (least greatest value : K) : Prop :=
  (kind.usesLower = true → least ≤ value) ∧ (kind.usesUpper = true → value ≤ greatest)

/-- The value is one that a request asks for: a fixed one asks for its lower side alone. -/
def Asks (kind : BoundKind) (least greatest value : K) : Prop :=
  if kind = .fixed then (value == least) = true else Meets kind least greatest value

/-- No side that is used is no number, and some finite number meets the sides that are used.  The
lower side of a fixed bound has to be such a number itself, and not above the upper side. -/
def Acceptable (kind : BoundKind) (least greatest : K) : Prop :=
  if kind = .fixed then Scalar.isFinite least = true ∧ least ≤ greatest
  else
    (kind.usesLower = true → Scalar.isNaN least = false) ∧
      (kind.usesUpper = true → Scalar.isNaN greatest = false) ∧
        ∃ value, Scalar.isFinite value = true ∧ Meets kind least greatest value

/-- Only finite sides are stored, and those of a double bound are apart. -/
def Proper : Bound K → Prop
  | free => True
  | lower least => Scalar.isFinite least = true
  | upper greatest => Scalar.isFinite greatest = true
  | double least greatest =>
      Scalar.isFinite least = true ∧ Scalar.isFinite greatest = true ∧ least < greatest
  | fixed only => Scalar.isFinite only = true

def Admits (bound : Bound K) (value : K) : Prop :=
  (∀ least ∈ bound.lower?, least ≤ value) ∧ ∀ greatest ∈ bound.upper?, value ≤ greatest

structure Represents (bound : Bound K) (kind : BoundKind) (least greatest : K) : Prop where
  acceptable : Acceptable kind least greatest
  proper : bound.Proper
  contains : ∀ value, Scalar.isFinite value = true →
    ((Interval.ofBound bound).contains value = true ↔ Asks kind least greatest value)

end Bound

/-- The sides that the kind of an interval uses are finite, and the others are infinite; those of a
double interval are apart, and those of a fixed one are the same. -/
structure Interval.Canonical (interval : Interval K) : Prop where
  lower : if interval.kind.usesLower then Scalar.isFinite interval.lower = true
    else interval.lower = -Scalar.infinity
  upper : if interval.kind.usesUpper then Scalar.isFinite interval.upper = true
    else interval.upper = Scalar.infinity
  double : interval.kind = .double → interval.lower < interval.upper
  fixed : interval.kind = .fixed → interval.lower = interval.upper

namespace Bound

section Shapes

variable {least greatest value : K}

@[simp]
theorem meets_free : Meets .free least greatest value := by
  simp [Meets, BoundKind.usesLower, BoundKind.usesUpper]

@[simp]
theorem meets_lower : Meets .lower least greatest value ↔ least ≤ value := by
  simp [Meets, BoundKind.usesLower, BoundKind.usesUpper]

@[simp]
theorem meets_upper : Meets .upper least greatest value ↔ value ≤ greatest := by
  simp [Meets, BoundKind.usesLower, BoundKind.usesUpper]

@[simp]
theorem meets_double :
    Meets .double least greatest value ↔ least ≤ value ∧ value ≤ greatest := by
  simp [Meets, BoundKind.usesLower, BoundKind.usesUpper]

@[simp]
theorem admits_free : (free : Bound K).Admits value := by
  simp [Admits, lower?, upper?]

@[simp]
theorem admits_lower : (lower least).Admits value ↔ least ≤ value := by
  simp [Admits, lower?, upper?]

@[simp]
theorem admits_upper : (upper greatest).Admits value ↔ value ≤ greatest := by
  simp [Admits, lower?, upper?]

@[simp]
theorem admits_double :
    (double least greatest).Admits value ↔ least ≤ value ∧ value ≤ greatest := by
  simp [Admits, lower?, upper?]

@[simp]
theorem admits_fixed : (fixed least).Admits value ↔ least ≤ value ∧ value ≤ least := by
  simp [Admits, lower?, upper?]

end Shapes

theorem Proper.canonical {bound : Bound K} (proper : bound.Proper) :
    (Interval.ofBound bound).Canonical := by
  cases bound with
  | free => exact ⟨rfl, rfl, by rintro ⟨⟩, by rintro ⟨⟩⟩
  | lower least => exact ⟨proper, rfl, by rintro ⟨⟩, by rintro ⟨⟩⟩
  | upper greatest => exact ⟨rfl, proper, by rintro ⟨⟩, by rintro ⟨⟩⟩
  | double least greatest =>
      obtain ⟨finite, finiteAbove, less⟩ := proper
      exact ⟨finite, finiteAbove, fun _ => less, by rintro ⟨⟩⟩
  | fixed only => exact ⟨proper, proper, by rintro ⟨⟩, fun _ => rfl⟩

variable [ExtendedScalar K] {kind : BoundKind} {least greatest value : K} {bound : Bound K}

open ExtendedScalar

/-- Of the finite numbers those are in an interval that meet the sides it is made of. -/
theorem contains_ofBound_iff (bound : Bound K) (finite : Scalar.isFinite value = true) :
    (Interval.ofBound bound).contains value = true ↔ bound.Admits value := by
  have above := neg_infinity_le finite
  have below := le_infinity finite
  simp only [Interval.contains, Bool.and_eq_true, decide_eq_true_eq]
  cases bound <;> simp [Interval.ofBound, lowerSide, upperSide, lower?, upper?, above, below]

namespace Proper

variable (proper : bound.Proper)

include proper

theorem request?_eq : request? bound.kind bound.lowerSide bound.upperSide = some bound := by
  cases bound with
  | free => rfl
  | lower least => exact if_pos proper
  | upper greatest => exact if_pos proper
  | double least greatest =>
      obtain ⟨finite, finiteAbove, less⟩ := proper
      change request? .double least greatest = _
      rw [request?, if_pos finite, if_pos finiteAbove, if_neg (not_beq_of_lt less), if_pos less]
  | fixed only =>
      have reaches := decide_eq_true (le_self_of_isFinite proper)
      exact if_pos (Bool.and_eq_true_iff.mpr ⟨proper, reaches⟩)

theorem exists_admitted : ∃ value, Scalar.isFinite value = true ∧ bound.Admits value := by
  cases bound with
  | free => exact ⟨0, isFinite_zero, admits_free⟩
  | lower least => exact ⟨least, proper, admits_lower.mpr (le_self_of_isFinite proper)⟩
  | upper greatest => exact ⟨greatest, proper, admits_upper.mpr (le_self_of_isFinite proper)⟩
  | double least greatest =>
      obtain ⟨finite, finiteAbove, less⟩ := proper
      exact ⟨least, finite, admits_double.mpr ⟨le_self_of_isFinite finite, le_of_lt less⟩⟩
  | fixed only =>
      have reaches := le_self_of_isFinite proper
      exact ⟨only, proper, admits_fixed.mpr ⟨reaches, reaches⟩⟩

end Proper

/-! ## Requests -/

theorem acceptable_iff (notFixed : kind ≠ .fixed) :
    Acceptable kind least greatest ↔
      ∃ value, Scalar.isFinite value = true ∧ Meets kind least greatest value := by
  rw [Acceptable, if_neg notFixed]
  constructor
  · exact fun acceptable => acceptable.2.2
  · rintro ⟨value, finite, meets⟩
    exact ⟨fun used => (not_isNaN_of_le (meets.1 used)).1,
      fun used => (not_isNaN_of_le (meets.2 used)).2, value, finite, meets⟩

theorem Represents.of_meets (notFixed : kind ≠ .fixed) (proper : bound.Proper)
    (same : ∀ value, Scalar.isFinite value = true →
      (bound.Admits value ↔ Meets kind least greatest value)) :
    bound.Represents kind least greatest where
  acceptable := by
    obtain ⟨value, finite, admitted⟩ := proper.exists_admitted
    exact (acceptable_iff notFixed).mpr ⟨value, finite, (same value finite).mp admitted⟩
  proper := proper
  contains value finite := by
    rw [contains_ofBound_iff bound finite, same value finite, Asks, if_neg notFixed]

theorem Represents.fixed (finite : Scalar.isFinite least = true) (ordered : least ≤ greatest) :
    (Bound.fixed least).Represents .fixed least greatest where
  acceptable := ⟨finite, ordered⟩
  proper := finite
  contains value finiteValue := by
    rw [contains_ofBound_iff _ finiteValue, admits_fixed, Asks, if_pos rfl, beq_iff, and_comm]

theorem le_of_beq (infinite : (least == -Scalar.infinity) = true)
    (finite : Scalar.isFinite value = true) : least ≤ value :=
  (le_congr_left infinite).mpr (neg_infinity_le finite)

theorem le_of_beq_infinity (infinite : (greatest == Scalar.infinity) = true)
    (finite : Scalar.isFinite value = true) : value ≤ greatest :=
  (le_congr_right infinite).mpr (le_infinity finite)

theorem represents_of_request (requested : request? kind least greatest = some bound) :
    bound.Represents kind least greatest := by
  cases kind with
  | free =>
      cases requested
      exact .of_meets (by decide) trivial fun value _ => by simp
  | lower =>
      simp only [request?] at requested
      split_ifs at requested with finite infinite <;> cases requested
      · exact .of_meets (by decide) finite fun value _ => by simp
      · exact .of_meets (by decide) trivial fun value within => by
          simp [le_of_beq infinite within]
  | upper =>
      simp only [request?] at requested
      split_ifs at requested with finite infinite <;> cases requested
      · exact .of_meets (by decide) finite fun value _ => by simp
      · exact .of_meets (by decide) trivial fun value within => by
          simp [le_of_beq_infinity infinite within]
  | double =>
      simp only [request?] at requested
      split_ifs at requested with finite finiteAbove equal less infiniteAbove infinite finiteAbove
        infiniteAbove <;> cases requested
      · exact .of_meets (by decide) finite fun value _ => by simp [le_congr_right equal]
      · exact .of_meets (by decide) ⟨finite, finiteAbove, less⟩ fun value _ => by simp
      · exact .of_meets (by decide) finite fun value within => by
          simp [le_of_beq_infinity infiniteAbove within]
      · exact .of_meets (by decide) finiteAbove fun value within => by
          simp [le_of_beq infinite within]
      · exact .of_meets (by decide) trivial fun value within => by
          simp [le_of_beq infinite within, le_of_beq_infinity infiniteAbove within]
  | fixed =>
      simp only [request?, Bool.and_eq_true, decide_eq_true_eq] at requested
      split_ifs at requested with accepted
      cases requested
      exact .fixed accepted.1 accepted.2

theorem not_acceptable_of_request (refused : request? kind least greatest = none) :
    ¬ Acceptable kind least greatest := by
  cases kind with
  | free => cases refused
  | lower =>
      simp only [request?] at refused
      split_ifs at refused with finite infinite
      rw [acceptable_iff (by decide)]
      rintro ⟨value, within, meets⟩
      exact infinite (beq_neg_infinity finite within (meets_lower.mp meets))
  | upper =>
      simp only [request?] at refused
      split_ifs at refused with finite infinite
      rw [acceptable_iff (by decide)]
      rintro ⟨value, within, meets⟩
      exact infinite (beq_infinity finite within (meets_upper.mp meets))
  | double =>
      rw [acceptable_iff (by decide)]
      rintro ⟨value, within, meets⟩
      obtain ⟨below, above⟩ := meets_double.mp meets
      simp only [request?] at refused
      split_ifs at refused with finite finiteAbove equal less infiniteAbove infinite finiteAbove
        infiniteAbove
      · exact less (lt_of_le_of_not_beq (le_trans below above) equal)
      · exact infiniteAbove (beq_infinity finiteAbove within above)
      · exact infiniteAbove (beq_infinity finiteAbove within above)
      · exact infinite (beq_neg_infinity finite within below)
  | fixed =>
      simp only [request?, Bool.and_eq_true, decide_eq_true_eq] at refused
      split_ifs at refused with accepted
      exact accepted

end Bound

end LinearProgramming
