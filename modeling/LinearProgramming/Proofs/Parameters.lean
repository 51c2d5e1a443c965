import Mathlib.Order.Bounds.Basic
import LinearProgramming.Proofs.ExtendedScalar
import LinearProgramming.Proofs.Stepwise
import LinearProgramming.Config.Basic

/-!
# Settings as control parameters

Settings that pass their check arrive at the solvers as they were asked for.  Tolerances are handed
over as they are.  Limits become whole numbers between one and the largest parameter: a time limit
is rounded up to milliseconds, so that a run never stops before the time it was given, and what is
too long for a parameter becomes the largest one, which also stands for a limit that is not there.
-/

namespace LinearProgramming

/-! ## Durations -/

namespace Duration

theorem milliseconds_le_iff (duration : Duration) (count : Nat) :
    duration.milliseconds ≤ count ↔ duration.totalNanos ≤ count * 1000000 := by
  unfold milliseconds
  omega

theorem isLeast_milliseconds (duration : Duration) :
    IsLeast {count | duration.totalNanos ≤ count * 1000000} duration.milliseconds :=
  ⟨(duration.milliseconds_le_iff _).mp le_rfl,
    fun _ enough => (duration.milliseconds_le_iff _).mpr enough⟩

theorem one_le_milliseconds {duration : Duration} (lasting : duration.isZero = false) :
    1 ≤ duration.milliseconds := by
  have positive : duration.totalNanos ≠ 0 := by simpa [isZero] using lasting
  by_contra fewer
  have none_enough := (duration.milliseconds_le_iff 0).mp (by omega)
  omega

theorem milliseconds_mono {first second : Duration}
    (shorter : first.totalNanos ≤ second.totalNanos) :
    first.milliseconds ≤ second.milliseconds :=
  (first.milliseconds_le_iff _).mpr (shorter.trans second.isLeast_milliseconds.1)

/-- One time limit is no longer than another.  Without a limit the time is the longest. -/
def NoLonger (limit other : Option Duration) : Prop :=
  ∀ longer ∈ other, ∃ shorter ∈ limit, shorter.totalNanos ≤ longer.totalNanos

/-- So many milliseconds use a time limit up, or are as many as a parameter can hold. -/
def Spent (limit : Option Duration) (elapsed : Nat) : Prop :=
  maxParameter ≤ elapsed ∨ ∃ duration ∈ limit, duration.totalNanos ≤ elapsed * 1000000

end Duration

/-! ## Parameters -/

structure KeepsTolerance {K : Type} [Scalar K] (tolerance parameter : K) : Prop where
  same : parameter = tolerance
  finite : Scalar.isFinite parameter = true
  nonnegative : 0 ≤ parameter

structure KeepsCount (limit : Option Nat) (parameter : Int) : Prop where
  positive : 1 ≤ parameter
  absent : limit = none → parameter = maxParameter
  capped : ∀ count ∈ limit, parameter = min (count : Int) maxParameter

/-- A parameter that limits the time as it was set, in milliseconds. -/
structure KeepsTime (limit : Option Duration) (parameter : Int) : Prop where
  positive : 1 ≤ parameter
  le_max : parameter ≤ maxParameter
  absent : limit = none → parameter = maxParameter
  least : ∀ duration ∈ limit, ∃ count : Nat,
    IsLeast {enough | duration.totalNanos ≤ enough * 1000000} count ∧
      parameter = min (count : Int) maxParameter

section Limits

variable {limit other : Option Duration}

theorem keepsCount_iterationParameter {limit : Option Nat} (positive : limit ≠ some 0) :
    KeepsCount limit (iterationParameter limit) := by
  cases limit with
  | none =>
      refine ⟨by decide, fun _ => rfl, ?_⟩
      rintro _ ⟨⟩
  | some count =>
      have counted : count ≠ 0 := by simpa using positive
      refine ⟨?_, by rintro ⟨⟩, ?_⟩
      · simp only [iterationParameter, maxParameter]
        omega
      · rintro _ ⟨⟩
        rfl

theorem keepsTime_timeParameter (lasting : limit.any Duration.isZero = false) :
    KeepsTime limit (timeParameter limit) := by
  cases limit with
  | none =>
      refine ⟨by decide, le_rfl, fun _ => rfl, ?_⟩
      rintro _ ⟨⟩
  | some duration =>
      rw [Option.any_some] at lasting
      have positive := Duration.one_le_milliseconds lasting
      rw [timeParameter]
      refine ⟨?_, min_le_right _ _, by rintro ⟨⟩, ?_⟩
      · rw [maxParameter]
        omega
      · rintro _ ⟨⟩
        exact ⟨_, duration.isLeast_milliseconds, rfl⟩

/-- The parameter of a time limit is reached when the limit is used up, and no earlier. -/
theorem timeParameter_le_iff (limit : Option Duration) (elapsed : Nat) :
    timeParameter limit ≤ elapsed ↔ Duration.Spent limit elapsed := by
  cases limit with
  | none => simp [timeParameter, Duration.Spent]
  | some duration =>
      rw [timeParameter, min_le_iff, Nat.cast_le, Nat.cast_le, duration.milliseconds_le_iff]
      simp [Duration.Spent, or_comm]

theorem timeParameter_mono (shorter : Duration.NoLonger limit other) :
    timeParameter limit ≤ timeParameter other := by
  cases other with
  | none =>
      cases limit with
      | none => exact le_rfl
      | some _ => exact min_le_right _ _
  | some longer =>
      obtain ⟨duration, rfl, fewer⟩ := shorter longer rfl
      exact min_le_min_right _ (Nat.cast_le.mpr (Duration.milliseconds_mono fewer))

end Limits

/-! ## Accepted settings -/

section Checks

variable {K : Type} [Scalar K]

theorem keepsTolerance_of_check {name : String} {tolerance : K}
    (checked : checkTolerance name tolerance = .ok ()) : KeepsTolerance tolerance tolerance := by
  unfold checkTolerance at checked
  split at checked
  · rename_i valid
    exact ⟨rfl, valid.2, valid.1⟩
  · cases checked

theorem any_isZero_of_check {K : Type} {limit : Option Duration}
    (checked : (checkTimeLimit limit : Except (ConfigError K) Unit) = .ok ()) :
    limit.any Duration.isZero = false := by
  unfold checkTimeLimit at checked
  split at checked
  · cases checked
  · rename_i lasting
    exact Bool.eq_false_iff.mpr lasting

/-- The parameters of a configuration ask for what its settings do. -/
structure SimplexConfig.Survives (config : SimplexConfig K) : Prop where
  primal : KeepsTolerance config.primalTolerance config.toOptions.boundTolerance
  dual : KeepsTolerance config.dualTolerance config.toOptions.reducedCostTolerance
  pivot : KeepsTolerance config.pivotTolerance config.toOptions.pivotTolerance
  iterations : KeepsCount config.iterationLimit config.toOptions.iterationLimit
  time : KeepsTime config.timeLimit config.toOptions.timeLimit
  late : ∀ elapsed, config.toOptions.outOfTime elapsed = true ↔
    Duration.Spent config.timeLimit elapsed

theorem SimplexConfig.survives {config : SimplexConfig K} (valid : config.validate = .ok ()) :
    config.Survives := by
  by_cases zero : config.iterationLimit = some 0
  · simp [validate, zero, Except.bind_eq_ok_iff] at valid
  · simp only [validate, zero, if_false, Except.bind_eq_ok_iff] at valid
    obtain ⟨⟨⟩, primal, ⟨⟩, dual, ⟨⟩, pivot, ⟨⟩, time, -⟩ := valid
    exact {
      primal := keepsTolerance_of_check primal
      dual := keepsTolerance_of_check dual
      pivot := keepsTolerance_of_check pivot
      iterations := keepsCount_iterationParameter zero
      time := keepsTime_timeParameter (any_isZero_of_check time)
      late := fun elapsed => decide_eq_true_iff.trans (timeParameter_le_iff _ elapsed) }

structure BranchCutConfig.Survives (config : BranchCutConfig K) : Prop where
  relaxation : config.relaxation.Survives
  integer : KeepsTolerance config.integerTolerance config.toOptions.integerTolerance
  objective : KeepsTolerance config.objectiveTolerance config.toOptions.objectiveTolerance
  gap : KeepsTolerance config.gap config.toOptions.gap
  gap_lt_one : config.toOptions.gap < 1
  time : KeepsTime config.timeLimit config.toOptions.timeLimit
  late : ∀ elapsed, config.toOptions.outOfTime elapsed = true ↔
    Duration.Spent config.timeLimit elapsed

variable [ExtendedScalar K]

theorem isFinite_of_lt_one {value : K} (nonnegative : 0 ≤ value) (small : value < 1) :
    Scalar.isFinite value = true := by
  by_contra infinite
  have above : Scalar.infinity ≤ value :=
    (ExtendedScalar.beq_iff.mp
      (ExtendedScalar.beq_infinity infinite ExtendedScalar.isFinite_zero nonnegative)).2
  have one_le : (1 : K) ≤ Scalar.infinity := by
    by_cases finite : Scalar.isFinite (1 : K) = true
    · exact ExtendedScalar.le_infinity finite
    · exact (ExtendedScalar.beq_iff.mp (ExtendedScalar.beq_infinity finite
        ExtendedScalar.isFinite_zero (ExtendedScalar.le_of_lt ComparableScalar.zero_lt_one))).1
  exact (ExtendedScalar.lt_iff.mp small).2 (ExtendedScalar.le_trans one_le above)

theorem BranchCutConfig.survives {config : BranchCutConfig K} (valid : config.validate = .ok ()) :
    config.Survives := by
  simp only [validate, Except.bind_eq_ok_iff] at valid
  obtain ⟨⟨⟩, relaxation, ⟨⟩, integer, ⟨⟩, objective, ⟨⟩, time, gap⟩ := valid
  split at gap
  · cases gap
  · rename_i within
    obtain ⟨nonnegative, small⟩ := not_not.mp within
    exact {
      relaxation := SimplexConfig.survives relaxation
      integer := keepsTolerance_of_check integer
      objective := keepsTolerance_of_check objective
      gap := ⟨rfl, isFinite_of_lt_one nonnegative small, nonnegative⟩
      gap_lt_one := small
      time := keepsTime_timeParameter (any_isZero_of_check time)
      late := fun elapsed => decide_eq_true_iff.trans (timeParameter_le_iff _ elapsed) }

end Checks

/-- Settings that are accepted survive as parameters, and a longer time limit never becomes a
smaller parameter. -/
theorem parameters_of_validate {K : Type} [Scalar K] [ExtendedScalar K] :
    (∀ config : SimplexConfig K, config.validate = .ok () → config.Survives) ∧
      (∀ config : BranchCutConfig K, config.validate = .ok () → config.Survives) ∧
      (∀ config other : SimplexConfig K, Duration.NoLonger config.timeLimit other.timeLimit →
        config.toOptions.timeLimit ≤ other.toOptions.timeLimit) ∧
      ∀ config other : BranchCutConfig K, Duration.NoLonger config.timeLimit other.timeLimit →
        config.toOptions.timeLimit ≤ other.toOptions.timeLimit :=
  ⟨fun _ => SimplexConfig.survives, fun _ => BranchCutConfig.survives,
    fun _ _ => timeParameter_mono, fun _ _ => timeParameter_mono⟩

/-- A search for a nanosecond, after a relaxation with more pivots than a parameter can hold. -/
def BranchCutConfig.brief : BranchCutConfig Float :=
  { BranchCutConfig.standard with
    relaxation := { SimplexConfig.standard with iterationLimit := some 4294967295 }
    timeLimit := some (.ofParts 0 1)
    gap := 0.5 }

def BranchCutConfig.longer : BranchCutConfig Float :=
  { BranchCutConfig.brief with timeLimit := some (.ofParts 2 0) }

theorem parameters_of_validate_brief :
    BranchCutConfig.brief.validate = .ok () ∧ BranchCutConfig.brief.Survives ∧
      BranchCutConfig.brief.relaxation.validate = .ok () ∧
      BranchCutConfig.brief.relaxation.Survives ∧
      Duration.NoLonger BranchCutConfig.brief.timeLimit BranchCutConfig.longer.timeLimit ∧
      BranchCutConfig.brief.toOptions.timeLimit = 1 ∧
      BranchCutConfig.brief.toOptions.timeLimit ≤ BranchCutConfig.longer.toOptions.timeLimit := by
  obtain ⟨simplex, branchCut, -, mono⟩ := parameters_of_validate (K := Float)
  have valid : BranchCutConfig.brief.validate = .ok () := Except.eq_ok (by decide +kernel)
  have relaxation : BranchCutConfig.brief.relaxation.validate = .ok () :=
    Except.eq_ok (by decide +kernel)
  have noLonger : Duration.NoLonger BranchCutConfig.brief.timeLimit
      BranchCutConfig.longer.timeLimit := by
    rintro _ ⟨⟩
    exact ⟨.ofParts 0 1, rfl, by decide +kernel⟩
  exact ⟨valid, branchCut _ valid, relaxation, simplex _ relaxation, noLonger, by decide +kernel,
    mono _ _ noLonger⟩

end LinearProgramming
