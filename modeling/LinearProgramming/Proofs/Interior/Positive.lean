import LinearProgramming.Proofs.StandardForm
import LinearProgramming.Proofs.Interior.Step
import LinearProgramming.Proofs.Interior.Run

/-!
# Iterates stay positive

The start is moved off zero, and a damped step never reaches it, wherever the directions lead.  All
values and reduced costs of all iterates are therefore positive, no iteration divides by zero, and
the points that a run gives stay clear of the sides from which their columns are measured.
-/

namespace LinearProgramming

open LinearProgramming.Dense

variable {K : Type} [ExactScalar K]

namespace Interior

/-! ## The start -/

section Start

variable [RootedScalar K]

theorem separate_pos {amount value : K} {values : List K}
    (member : value ∈ separate amount values) : 0 < value := by
  obtain ⟨before, -, rfl⟩ := List.mem_map.mp member
  split
  · rename_i apart
    exact (RootedScalar.decimal_pos.mpr (by norm_num)).trans apart
  · exact zero_lt_one

theorem Iterate.positive_startingFrom (values multipliers reducedCosts : List K) :
    (Iterate.startingFrom values multipliers reducedCosts).Positive :=
  ⟨fun _ member => separate_pos member, fun _ member => separate_pos member⟩

end Start

/-! ## Damped steps -/

/-- The largest safe step, from any share on: it does not pass the share or a quotient at which a
value comes to zero, and it is positive where all values are. -/
theorem foldl_maxStep (pairs : List (K × K)) (share : K) :
    let largest := pairs.foldl (fun share pair =>
      if pair.2 < 0 then Scalar.smaller share (-pair.1 / pair.2) else share) share
    largest ≤ share ∧ (∀ pair ∈ pairs, pair.2 < 0 → largest ≤ -pair.1 / pair.2) ∧
      (0 < share → (∀ pair ∈ pairs, 0 < pair.1) → 0 < largest) := by
  induction pairs generalizing share with
  | nil => exact ⟨le_rfl, by simp, fun positive _ => positive⟩
  | cons first pairs inductionHypothesis =>
      simp only [List.foldl_cons, Scalar.smaller_eq_min, List.forall_mem_cons]
      split
      · rename_i falls
        obtain ⟨below, within, positive⟩ := inductionHypothesis (min share (-first.1 / first.2))
        simp only [Scalar.smaller_eq_min] at below within positive
        refine ⟨below.trans (min_le_left _ _), ⟨fun _ => below.trans (min_le_right _ _), within⟩,
          fun startsPositive values => positive (lt_min startsPositive ?_) values.2⟩
        exact div_pos_of_neg_of_neg (neg_neg_of_pos values.1) falls
      · rename_i rises
        obtain ⟨below, within, positive⟩ := inductionHypothesis share
        simp only [Scalar.smaller_eq_min] at below within positive
        exact ⟨below, ⟨fun falls => absurd falls rises, within⟩,
          fun startsPositive values => positive startsPositive values.2⟩

section Damping

variable [RootedScalar K]

theorem stepDamping_pos : (0 : K) < stepDamping :=
  RootedScalar.decimal_pos.mpr (by norm_num)

theorem stepDamping_lt_one : (stepDamping : K) < 1 :=
  RootedScalar.decimal_lt_one.mpr (by norm_num)

/-- A damped step takes no positive value to zero. -/
theorem advance_dampedShare_pos {values direction : List K} (positive : ∀ value ∈ values, 0 < value)
    {value : K} (member : value ∈ advance (dampedShare values direction) values direction) :
    0 < value := by
  obtain ⟨-, within, safe⟩ := foldl_maxStep (List.zip values direction) 1
  change ∀ pair ∈ _, _ → maxStep values direction ≤ _ at within
  change _ → _ → 0 < maxStep values direction at safe
  have largest : 0 < maxStep values direction :=
    safe zero_lt_one fun pair member => positive _ (List.of_mem_zip member).1
  have share : 0 < dampedShare values direction := by
    rw [dampedShare, Scalar.smaller_eq_min]
    exact lt_min (mul_pos stepDamping_pos largest) zero_lt_one
  rw [advance, ← List.map_uncurry_zip_eq_zipWith] at member
  obtain ⟨⟨before, change⟩, inZip, rfl⟩ := List.mem_map.mp member
  have beforePositive : 0 < before := positive _ (List.of_mem_zip inZip).1
  simp only [Function.uncurry_apply_pair]
  rcases le_or_gt 0 change with rises | falls
  · exact add_pos_of_pos_of_nonneg beforePositive (mul_nonneg share.le rises)
  · -- At the largest safe step the value would be zero, and less than that step is gone.
    have quotient : maxStep values direction * -change ≤ before := by
      have bounded := within _ inZip falls
      rwa [neg_div, ← div_neg, le_div_iff₀ (neg_pos.mpr falls)] at bounded
    have damped : dampedShare values direction ≤ stepDamping * maxStep values direction := by
      rw [dampedShare, Scalar.smaller_eq_min]
      exact min_le_left _ _
    have gone : dampedShare values direction * -change ≤ stepDamping * before :=
      calc dampedShare values direction * -change
          ≤ stepDamping * maxStep values direction * -change :=
            mul_le_mul_of_nonneg_right damped (neg_pos.mpr falls).le
        _ = stepDamping * (maxStep values direction * -change) := mul_assoc _ _ _
        _ ≤ stepDamping * before := mul_le_mul_of_nonneg_left quotient stepDamping_pos.le
    have left : stepDamping * before < before := by
      simpa using mul_lt_mul_of_pos_right stepDamping_lt_one beforePositive
    linarith

theorem Iterate.Positive.follow {iterate : Iterate K} (positive : iterate.Positive)
    (step : Step K) : (iterate.follow step).Positive :=
  ⟨fun _ member => advance_dampedShare_pos positive.values member,
    fun _ member => advance_dampedShare_pos positive.reducedCosts member⟩

end Damping

/-! ## Iterates that can be reached -/

/-- The iterates after a number of iterations, whatever the linear systems have as solutions. -/
inductive Reached (form : EqualityForm K) : Nat → Iterate K → Prop
  | start (values multipliers reducedCosts : List K)
      (fits : Interior.Fits form values multipliers reducedCosts) :
      Reached form 0 (.startingFrom values multipliers reducedCosts)
  | next {iterations : Nat} {iterate : Iterate K} (reached : Reached form iterations iterate)
      (step : Step K) (fits : step.Fits form) :
      Reached form (iterations + 1) (iterate.follow step)

namespace Reached

variable {form : EqualityForm K} {iterations : Nat} {iterate : Iterate K}

theorem fits (reached : Reached form iterations iterate) : iterate.Fits form := by
  induction reached with
  | start values multipliers reducedCosts fits => exact Iterate.Fits.startingFrom fits
  | next _ step fitting before => exact before.moved fitting _ _

theorem of_startingIterate (shaped : form.Shaped) {start : Iterate K}
    (starts : startingIterate form = some start) : Reached form 0 start := by
  obtain ⟨_, _, _, fits, rfl⟩ := exists_startingFrom shaped starts
  exact .start _ _ _ fits

theorem nextIterate (reached : Reached form iterations iterate) (shaped : form.Shaped)
    {point : Linearization K} (linearized : linearize form iterate = some point) :
    Reached form (iterations + 1) (Interior.nextIterate form point) := by
  obtain ⟨factor, rfl, -, length⟩ := exists_factor_of_linearize linearized
  rw [nextIterate_eq_follow]
  exact reached.next _
    (fits_newton shaped reached.fits length (length_correctorTarget shaped reached.fits length))

variable [RootedScalar K]

theorem positive (reached : Reached form iterations iterate) : iterate.Positive := by
  induction reached with
  | start values multipliers reducedCosts => exact Iterate.positive_startingFrom _ _ _
  | next _ step _ before => exact before.follow step

/-- The mean product of values and reduced costs is no zero to divide by. -/
theorem complementarity_pos (reached : Reached form iterations iterate)
    (wide : 0 < form.columns) :
    0 < complementarity form iterate.values iterate.reducedCosts := by
  have positive := reached.positive
  have fits := reached.fits
  refine div_pos ?_ (Nat.cast_pos.mpr wide)
  rw [dot_eq_sum]
  refine Finset.sum_pos (fun index inside => ?_) ⟨0, by simp [fits.values, wide]⟩
  have within : index < iterate.values.length := Finset.mem_range.mp inside
  exact mul_pos (positive.values _ (entry_mem within))
    (positive.reducedCosts _ (entry_mem (fits.reducedCosts.symm ▸ fits.values ▸ within)))

end Reached

end Interior

/-! ## Points of a program -/

namespace Bound

/-- The value lies strictly off the side from which a solver measures the column. -/
def Clears (bound : Bound K) (value : K) : Prop :=
  match bound with
  | free => True
  | lower least => least < value
  | upper greatest => value < greatest
  | double least _ => least < value
  | fixed only => value = only

end Bound

namespace Substitution

theorem clears_value {bound : Bound K} {next : Nat} {point : List K}
    (positive : ∀ index < next + width bound, next ≤ index → 0 < entry point index) :
    bound.Clears ((ofBound next bound).value point) := by
  cases bound with
  | free => trivial
  | fixed only => simp [Bound.Clears, ofBound, Substitution.value]
  | _ =>
      have level : 0 < entry point next := positive next (by simp [width]) le_rfl
      simpa [Bound.Clears, ofBound, Substitution.value, dotCells_cons] using level

theorem forall₂_clears_value {point : List K} (bounds : List (Bound K)) (next : Nat)
    (positive : ∀ index < next + (bounds.map width).sum, 0 < entry point index) :
    List.Forall₂ Bound.Clears bounds ((ofBounds next bounds).map (·.value point)) := by
  induction bounds generalizing next with
  | nil => exact .nil
  | cons bound bounds inductionHypothesis =>
      rw [List.map_cons, List.sum_cons, ← add_assoc] at positive
      refine .cons (clears_value fun index inside _ => positive index (by omega))
        (inductionHypothesis _ fun index inside => positive index ?_)
      rwa [length_terms] at inside

end Substitution

namespace Interior

theorem Iterate.Positive.forall₂_clears {program : Program K} {iterate : Iterate K}
    (positive : iterate.Positive) (fits : iterate.Fits program.equalityForm)
    (priced : program.cost.length = program.columns.length) :
    List.Forall₂ Bound.Clears program.columns
      (recover (.ofProgram program) program iterate).columnPrimal := by
  refine Substitution.forall₂_clears_value program.columns 0 fun index inside => ?_
  rw [zero_add, ← StandardForm.variableCount_ofProgram priced] at inside
  have long : (StandardForm.ofProgram program).variableCount ≤ iterate.values.length := by
    rw [fits.values]
    exact (Nat.le_add_right _ _).trans_eq (EqualityForm.columns_ofStandardForm _).symm
  have within :
      index < (iterate.values.take (StandardForm.ofProgram program).variableCount).length := by
    rw [List.length_take_of_le long]
    exact inside
  exact positive.values _ (List.mem_of_mem_take (entry_mem within))

/-- Where the iteration is entered with at least one column, all iterates are positive whatever the
linear systems have as solutions, nothing is divided by zero, and every point that is returned stays
clear of the sides its columns are measured from. -/
theorem iterates_positive [RootedScalar K] {program : Program K}
    (priced : program.cost.length = program.columns.length)
    (wide : 0 < program.equalityForm.columns) {final : Final K}
    (entered : iteration? program = some final) :
    (∀ start, startingIterate program.equalityForm = some start →
      Reached program.equalityForm 0 start) ∧
    (∀ iterations iterate point, Reached program.equalityForm iterations iterate →
      linearize program.equalityForm iterate = some point →
        Reached program.equalityForm (iterations + 1) (nextIterate program.equalityForm point)) ∧
    (∀ iterations iterate, Reached program.equalityForm iterations iterate →
      iterate.Fits program.equalityForm ∧ iterate.Positive ∧
        0 < complementarity program.equalityForm iterate.values iterate.reducedCosts ∧
        List.Forall₂ Bound.Clears program.columns
          (recover (.ofProgram program) program iterate).columnPrimal) ∧
    (∀ weights factor, cholesky (program.equalityForm.normalMatrix weights) = some factor →
      ∀ row < factor.length, 0 < entry (rowAt factor row) row) ∧
    Reached program.equalityForm final.iterations final.iterate ∧
    ∀ point, (solve program).point = some point →
      List.Forall₂ Bound.Clears program.columns point.columnPrimal := by
  have shaped : program.equalityForm.Shaped := EqualityForm.shaped_ofStandardForm _
  have last : Reached program.equalityForm final.iterations final.iterate := by
    obtain ⟨-, start, starts, rfl⟩ := exists_start_of_iteration? entered
    exact iterateFrom_induction (fun reached linearized => reached.nextIterate shaped linearized)
      _ _ (.of_startingIterate shaped starts)
  refine ⟨fun start starts => .of_startingIterate shaped starts,
    fun _ _ _ reached linearized => reached.nextIterate shaped linearized,
    fun _ _ reached => ⟨reached.fits, reached.positive, reached.complementarity_pos wide,
      reached.positive.forall₂_clears reached.fits priced⟩,
    fun weights factor factored =>
      (staircase_of_cholesky (reachesDiagonal_normalMatrix _ weights) factored).positive,
    last, fun point returned => ?_⟩
  have given := (congrArg Outcome.point (solve_of_iteration? entered)).symm.trans returned
  rw [Final.eq_recover_of_point given]
  exact last.positive.forall₂_clears last.fits priced

theorem exists_iteration? {program : Program K}
    (accepted :
      (program.rows.isEmpty || program.columns.isEmpty || !program.boundsConsistent) = false)
    (constrained : program.equalityForm.rows.isEmpty = false) :
    ∃ final, iteration? program = some final := by
  rw [iteration?, accepted, constrained, startingIterate, cholesky_eq]
  exact ⟨_, rfl⟩

theorem iterates_positive_blend :
    Program.blend.cost.length = Program.blend.columns.length ∧
      0 < Program.blend.equalityForm.columns ∧
      ∃ final, iteration? Program.blend = some final ∧
        Reached Program.blend.equalityForm final.iterations final.iterate ∧
        ∀ point, (solve Program.blend).point = some point →
          List.Forall₂ Bound.Clears Program.blend.columns point.columnPrimal := by
  have wide : 0 < Program.blend.equalityForm.columns := by decide +kernel
  have started : ∃ final, iteration? Program.blend = some final :=
    exists_iteration? (by decide +kernel) (by decide +kernel)
  obtain ⟨final, entered⟩ := started
  obtain ⟨-, -, -, -, reached, clear⟩ := iterates_positive rfl wide entered
  exact ⟨rfl, wide, final, entered, reached, clear⟩

end Interior

end LinearProgramming
