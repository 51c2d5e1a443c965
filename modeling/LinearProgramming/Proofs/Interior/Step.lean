import LinearProgramming.Proofs.Interior.Cholesky
import LinearProgramming.Interior.Iterate

/-!
# Steps of the interior-point method

What an iterate is to a program in equality form, and where a step leads.  An iteration goes along
its last direction, the corrector: as far as the damped largest safe step, for the values and for
the other two separately.
-/

namespace LinearProgramming.Interior

open LinearProgramming.Dense

variable {K : Type} [Scalar K]

structure EqualityForm.Shaped (form : EqualityForm K) : Prop where
  wide : ∀ row ∈ form.rows, row.length = form.columns
  rhs : form.rhs.length = form.rows.length

structure Fits (form : EqualityForm K) (values multipliers reducedCosts : List K) : Prop where
  values : values.length = form.columns
  multipliers : multipliers.length = form.rows.length
  reducedCosts : reducedCosts.length = form.columns

abbrev Iterate.Fits (form : EqualityForm K) (iterate : Iterate K) : Prop :=
  Interior.Fits form iterate.values iterate.multipliers iterate.reducedCosts

abbrev Step.Fits (form : EqualityForm K) (step : Step K) : Prop :=
  Interior.Fits form step.values step.multipliers step.reducedCosts

structure Iterate.Positive (iterate : Iterate K) : Prop where
  values : ∀ value ∈ iterate.values, 0 < value
  reducedCosts : ∀ cost ∈ iterate.reducedCosts, 0 < cost

/-- Where a step leads, with one share of it for the values and one for the rest. -/
def Iterate.moved (iterate : Iterate K) (primalShare dualShare : K) (step : Step K) :
    Iterate K where
  values := advance primalShare iterate.values step.values
  multipliers := advance dualShare iterate.multipliers step.multipliers
  reducedCosts := advance dualShare iterate.reducedCosts step.reducedCosts

def dampedShare (values direction : List K) : K :=
  Scalar.smaller (stepDamping * maxStep values direction) 1

def Iterate.follow (iterate : Iterate K) (step : Step K) : Iterate K :=
  iterate.moved (dampedShare iterate.values step.values)
    (dampedShare iterate.reducedCosts step.reducedCosts) step

/-- The first direction of an iteration, which aims at products of zero. -/
def predictor (form : EqualityForm K) (point : Linearization K) : Step K :=
  newton form point
    (List.zipWith (fun value cost => -value * cost) point.iterate.values
      point.iterate.reducedCosts)

/-- What the last direction of an iteration aims at: the products that the first one leaves. -/
def correctorTarget (form : EqualityForm K) (point : Linearization K) : List K :=
  let iterate := point.iterate
  let step := predictor form point
  let average := complementarity form iterate.values iterate.reducedCosts
  let predicted :=
    complementarity form
      (advance (maxStep iterate.values step.values) iterate.values step.values)
      (advance (maxStep iterate.reducedCosts step.reducedCosts) iterate.reducedCosts
        step.reducedCosts)
  let quotient := predicted / average
  let centring := quotient * (quotient * quotient)
  correctedTarget
    (List.zipWith (fun value cost => -value * cost) iterate.values iterate.reducedCosts) step
    (centring * average)

/-- The last direction of an iteration. -/
def corrector (form : EqualityForm K) (point : Linearization K) : Step K :=
  newton form point (correctorTarget form point)

theorem nextIterate_eq_follow (form : EqualityForm K) (point : Linearization K) :
    nextIterate form point = point.iterate.follow (corrector form point) := rfl

theorem length_advance {values direction : List K} (same : direction.length = values.length)
    (share : K) : (advance share values direction).length = values.length := by
  simp [advance, same]

theorem Iterate.Fits.moved {form : EqualityForm K} {iterate : Iterate K}
    (fits : iterate.Fits form) {step : Step K} (fitting : step.Fits form)
    (primalShare dualShare : K) : (iterate.moved primalShare dualShare step).Fits form where
  values := (length_advance (fitting.values.trans fits.values.symm) _).trans fits.values
  multipliers :=
    (length_advance (fitting.multipliers.trans fits.multipliers.symm) _).trans fits.multipliers
  reducedCosts :=
    (length_advance (fitting.reducedCosts.trans fits.reducedCosts.symm) _).trans fits.reducedCosts

/-! ## Linearizations -/

theorem length_normalMatrix (form : EqualityForm K) (weights : List K) :
    (form.normalMatrix weights).length = form.rows.length := by
  simp [EqualityForm.normalMatrix]

theorem reachesDiagonal_normalMatrix (form : EqualityForm K) (weights : List K) :
    ReachesDiagonal (form.normalMatrix weights) := by
  intro row inside
  have within : row < form.rows.length := by simpa [EqualityForm.normalMatrix] using inside
  rw [rowAt_eq_getElem inside]
  simp only [EqualityForm.normalMatrix, List.getElem_mapIdx, List.length_map, List.length_take]
  omega

def Linearization.of (form : EqualityForm K) (iterate : Iterate K) (factor : List (List K)) :
    Linearization K :=
  ⟨iterate, Interior.primalResidual form iterate, Interior.dualResidual form iterate,
    scalingOf iterate, factor⟩

/-- The values of a direction but for what its multipliers contribute. -/
def pulled (form : EqualityForm K) (iterate : Iterate K) (target : List K) : List K :=
  List.zipWith (· + ·) (List.zipWith (· / ·) target iterate.reducedCosts)
    (List.zipWith (· * ·) (scalingOf iterate) (dualResidual form iterate))

theorem exists_factor_of_linearize {form : EqualityForm K} {iterate : Iterate K}
    {point : Linearization K} (linearized : linearize form iterate = some point) :
    ∃ factor, point = .of form iterate factor ∧
      cholesky (form.normalMatrix (scalingOf iterate)) = some factor ∧
      factor.length = form.rows.length := by
  obtain ⟨factor, factored, rfl⟩ := Option.map_eq_some_iff.mp linearized
  exact ⟨factor, rfl, factored,
    (length_of_cholesky factored).trans (length_normalMatrix form _)⟩

section Lengths

variable {form : EqualityForm K} (shaped : form.Shaped)

include shaped

theorem length_primalResidual (iterate : Iterate K) :
    (primalResidual form iterate).length = form.rows.length := by
  simp [primalResidual, shaped.rhs]

theorem length_dualResidual {iterate : Iterate K} (fits : iterate.Fits form) :
    (dualResidual form iterate).length = form.columns := by
  have priced : form.cost.length = form.columns := rfl
  simp [dualResidual, length_transposeMulVec shaped.wide, fits.reducedCosts, priced]

omit shaped in
theorem length_scalingOf {iterate : Iterate K} (fits : iterate.Fits form) :
    (scalingOf iterate).length = form.columns := by
  simp [scalingOf, fits.values, fits.reducedCosts]

theorem length_pulled {iterate : Iterate K} (fits : iterate.Fits form) {target : List K}
    (targets : target.length = form.columns) :
    (pulled form iterate target).length = form.columns := by
  simp [pulled, targets, fits.reducedCosts, length_scalingOf fits, length_dualResidual shaped fits]

theorem length_newton_reducedCosts {iterate : Iterate K} (fits : iterate.Fits form)
    (factor : List (List K)) (target : List K) :
    (newton form (.of form iterate factor) target).reducedCosts.length = form.columns := by
  simp [newton, Linearization.of, length_transposeMulVec shaped.wide,
    length_dualResidual shaped fits]

theorem fits_newton {iterate : Iterate K} (fits : iterate.Fits form) {factor : List (List K)}
    (length : factor.length = form.rows.length) {target : List K}
    (targets : target.length = form.columns) :
    (newton form (.of form iterate factor) target).Fits form where
  values := by
    simp [newton, Linearization.of, targets, fits.values, fits.reducedCosts,
      length_transposeMulVec shaped.wide, length_dualResidual shaped fits]
  multipliers := by
    have primal := length_primalResidual shaped iterate
    refine (length_choleskySolve ?_).trans ?_ <;> simp [Linearization.of, length, primal]
  reducedCosts := length_newton_reducedCosts shaped fits factor target

theorem length_correctorTarget {iterate : Iterate K} (fits : iterate.Fits form)
    {factor : List (List K)} (length : factor.length = form.rows.length) :
    (correctorTarget form (.of form iterate factor)).length = form.columns := by
  have products : (List.zipWith (fun value cost => -value * cost) iterate.values
      iterate.reducedCosts).length = form.columns := by
    simp [fits.values, fits.reducedCosts]
  have first : (predictor form (.of form iterate factor)).Fits form :=
    fits_newton shaped fits length products
  have second : (List.zipWith (· * ·) (predictor form (.of form iterate factor)).values
      (predictor form (.of form iterate factor)).reducedCosts).length = form.columns := by
    simp [first.values, first.reducedCosts]
  refine List.length_zipWith.trans ?_
  rw [second]
  exact min_eq_right products.ge

theorem fits_nextIterate {iterate : Iterate K} (fits : iterate.Fits form) {point : Linearization K}
    (linearized : linearize form iterate = some point) : (nextIterate form point).Fits form := by
  obtain ⟨factor, rfl, -, length⟩ := exists_factor_of_linearize linearized
  rw [nextIterate_eq_follow]
  exact fits.moved
    (fits_newton shaped fits length (length_correctorTarget shaped fits length)) _ _

end Lengths

/-! ## The start -/

/-- The starting iterate made of any solutions of the two least-squares problems. -/
def Iterate.startingFrom (values multipliers reducedCosts : List K) : Iterate K :=
  let values := liftPositive values
  let reducedCosts := liftPositive reducedCosts
  let products := dot values reducedCosts
  { values := separate (centering products (total reducedCosts)) values
    multipliers
    reducedCosts := separate (centering products (total values)) reducedCosts }

@[simp]
theorem length_liftPositive (values : List K) : (liftPositive values).length = values.length :=
  List.length_map _

@[simp]
theorem length_separate (amount : K) (values : List K) :
    (separate amount values).length = values.length :=
  List.length_map _

theorem Iterate.Fits.startingFrom {form : EqualityForm K} {values multipliers reducedCosts : List K}
    (fits : Interior.Fits form values multipliers reducedCosts) :
    (Iterate.startingFrom values multipliers reducedCosts).Fits form :=
  ⟨by simp [Iterate.startingFrom, fits.values], fits.multipliers,
    by simp [Iterate.startingFrom, fits.reducedCosts]⟩

variable {form : EqualityForm K}

theorem exists_startingFrom (shaped : form.Shaped) {start : Iterate K}
    (starts : startingIterate form = some start) :
    ∃ values multipliers reducedCosts, Interior.Fits form values multipliers reducedCosts ∧
      start = .startingFrom values multipliers reducedCosts := by
  obtain ⟨factor, factored, rfl⟩ := Option.map_eq_some_iff.mp starts
  have same : factor.length = form.rows.length :=
    (length_of_cholesky factored).trans (length_normalMatrix form _)
  refine ⟨_, _, _, ⟨length_transposeMulVec shaped.wide _, ?_, ?_⟩, rfl⟩
  · rw [length_choleskySolve (by simp [same]), length_mulVec]
  · rw [List.length_zipWith, length_transposeMulVec shaped.wide]
    exact Nat.min_self _

/-! ## Forms of programs -/

namespace EqualityForm

theorem length_rowOf (columns slack : Nat) (constraint : Constraint K) :
    (rowOf columns slack constraint).length = columns := by
  unfold rowOf
  cases constraint.relation <;> simp

theorem length_of_mem_rowsOf {columns slack : Nat} {constraints : List (Constraint K)}
    {row : List K} (member : row ∈ rowsOf columns slack constraints) : row.length = columns := by
  induction constraints generalizing slack with
  | nil => cases member
  | cons constraint constraints inductionHypothesis =>
      rcases List.mem_cons.mp member with rfl | inRest
      · exact length_rowOf columns slack constraint
      · exact inductionHypothesis inRest

theorem length_rowsOf (columns slack : Nat) (constraints : List (Constraint K)) :
    (rowsOf columns slack constraints).length = constraints.length := by
  induction constraints generalizing slack with
  | nil => rfl
  | cons constraint constraints inductionHypothesis =>
      exact congrArg (· + 1) (inductionHypothesis _)

theorem columns_ofStandardForm (form : StandardForm K) :
    (ofStandardForm form).columns =
      form.variableCount + form.constraints.countP (·.relation.hasSlack) := by
  simp [columns, ofStandardForm, StandardForm.variableCount, zeros]

theorem shaped_ofStandardForm (form : StandardForm K) : (ofStandardForm form).Shaped where
  wide row member := by
    rw [columns_ofStandardForm]
    exact length_of_mem_rowsOf member
  rhs := by simp [ofStandardForm, length_rowsOf]

end EqualityForm

end LinearProgramming.Interior
