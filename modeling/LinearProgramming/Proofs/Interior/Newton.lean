import LinearProgramming.Proofs.Interior.Step

/-!
# Newton directions

A program in equality form asks for `A x = b`, `Aᵀ y + s = c` and products `x s` of given sizes.  A
Newton direction solves these equations linearized at an iterate; the first two are linear already,
so a step along it shrinks their residuals by exactly the share that is gone.
-/

namespace LinearProgramming.Interior

open Matrix LinearProgramming.Dense

variable {K : Type} [ExactScalar K]

namespace EqualityForm

variable (form : EqualityForm K)

/-- The matrix `A`. -/
def coefficients : Matrix (Fin form.rows.length) (Fin form.columns) K :=
  matrix form.rows.length form.columns form.rows

/-- By how much `A x` exceeds `b`. -/
def primalExcess (iterate : Iterate K) : Fin form.rows.length → K :=
  form.coefficients *ᵥ vector form.columns iterate.values - vector form.rows.length form.rhs

/-- By how much `Aᵀ y + s` exceeds `c`. -/
def dualExcess (iterate : Iterate K) : Fin form.columns → K :=
  form.coefficientsᵀ *ᵥ vector form.rows.length iterate.multipliers +
    vector form.columns iterate.reducedCosts - vector form.columns form.cost

/-- The matrix `A diag(x / s) Aᵀ`. -/
def normal (iterate : Iterate K) : Matrix (Fin form.rows.length) (Fin form.rows.length) K :=
  form.coefficients *
    diagonal (vector form.columns iterate.values / vector form.columns iterate.reducedCosts) *
      form.coefficientsᵀ

end EqualityForm

/-- The direction removes both residuals and brings the products up to first order to the target. -/
structure Step.Solves (step : Step K) (form : EqualityForm K) (iterate : Iterate K)
    (target : List K) : Prop where
  fits : step.Fits form
  primal : form.coefficients *ᵥ vector form.columns step.values = -form.primalExcess iterate
  dual :
    form.coefficientsᵀ *ᵥ vector form.rows.length step.multipliers +
      vector form.columns step.reducedCosts = -form.dualExcess iterate
  products :
    vector form.columns iterate.reducedCosts * vector form.columns step.values +
      vector form.columns iterate.values * vector form.columns step.reducedCosts =
        vector form.columns target

section Vectors

variable {form : EqualityForm K} (shaped : form.Shaped) {iterate : Iterate K}
  (fits : iterate.Fits form)

include shaped fits

theorem vector_primalResidual :
    vector form.rows.length (primalResidual form iterate) = form.primalExcess iterate := by
  rw [primalResidual, vector_zipWith (length_mulVec _ _) shaped.rhs, vector_mulVec _ fits.values.le]
  rfl

theorem vector_dualResidual :
    vector form.columns (dualResidual form iterate) = form.dualExcess iterate := by
  have applied := length_transposeMulVec shaped.wide iterate.multipliers
  have added : (List.zipWith (· + ·) (transposeMulVec form.rows form.columns iterate.multipliers)
      iterate.reducedCosts).length = form.columns := by
    simp [applied, fits.reducedCosts]
  rw [dualResidual, vector_zipWith added rfl, vector_zipWith applied fits.reducedCosts,
    vector_transposeMulVec shaped.wide _ le_rfl]
  rfl

omit shaped in
theorem vector_scalingOf :
    vector form.columns (scalingOf iterate) =
      vector form.columns iterate.values / vector form.columns iterate.reducedCosts :=
  vector_zipWith fits.values fits.reducedCosts _

variable (factor : List (List K)) {target : List K} (targets : target.length = form.columns)

include targets

theorem vector_pulled :
    vector form.columns (pulled form iterate target) =
      vector form.columns target / vector form.columns iterate.reducedCosts +
        vector form.columns iterate.values / vector form.columns iterate.reducedCosts *
          form.dualExcess iterate := by
  have scaled := length_scalingOf fits
  have dual := length_dualResidual shaped fits
  rw [pulled, vector_zipWith (by simp [targets, fits.reducedCosts]) (by simp [scaled, dual]),
    vector_zipWith targets fits.reducedCosts, vector_zipWith scaled dual, vector_scalingOf fits,
    vector_dualResidual shaped fits]
  rfl

omit targets in
theorem vector_newton_reducedCosts :
    vector form.columns (newton form (.of form iterate factor) target).reducedCosts =
      -form.dualExcess iterate - form.coefficientsᵀ *ᵥ vector form.rows.length
        (newton form (.of form iterate factor) target).multipliers := by
  have applied := length_transposeMulVec shaped.wide
    (newton form (.of form iterate factor) target).multipliers
  change vector form.columns (List.zipWith _ (transposeMulVec form.rows form.columns
    (newton form (.of form iterate factor) target).multipliers) (dualResidual form iterate)) = _
  rw [vector_zipWith applied (length_dualResidual shaped fits),
    vector_transposeMulVec shaped.wide _ le_rfl, vector_dualResidual shaped fits]
  rfl

theorem vector_newton_values :
    vector form.columns (newton form (.of form iterate factor) target).values =
      (vector form.columns target - vector form.columns iterate.values *
        vector form.columns (newton form (.of form iterate factor) target).reducedCosts) /
          vector form.columns iterate.reducedCosts := by
  have costs : (newton form (.of form iterate factor) target).reducedCosts.length = form.columns :=
    length_newton_reducedCosts shaped fits factor target
  change vector form.columns (List.zipWith _ (List.zipWith _ target
    (List.zipWith _ iterate.values (newton form (.of form iterate factor) target).reducedCosts))
      iterate.reducedCosts) = _
  rw [vector_zipWith (by simp [targets, fits.values, costs]) fits.reducedCosts,
    vector_zipWith targets (by simp [fits.values, costs]), vector_zipWith fits.values costs]
  rfl

variable {factor} (length : factor.length = form.rows.length) (triangular : Triangular factor)

include length triangular

theorem mulVec_newton_multipliers :
    (matrix form.rows.length form.rows.length factor *
        (matrix form.rows.length form.rows.length factor)ᵀ) *ᵥ
      vector form.rows.length (newton form (.of form iterate factor) target).multipliers =
    -form.primalExcess iterate -
      form.coefficients *ᵥ vector form.columns (pulled form iterate target) := by
  have primal := length_primalResidual shaped iterate
  have applied : (mulVec form.rows (pulled form iterate target)).length = form.rows.length :=
    length_mulVec _ _
  rw [← mulVec_mulVec, ← vector_primalResidual shaped fits, EqualityForm.coefficients,
    ← vector_mulVec form.rows (length_pulled shaped fits targets).le]
  refine (triangular.mulVec_choleskySolve length (by simp [Linearization.of, primal])).trans ?_
  exact vector_zipWith applied primal fun applied residual => -residual - applied

end Vectors

/-- The direction, read off its equations from the multipliers to the values. -/
theorem solves_newton {form : EqualityForm K} (shaped : form.Shaped) {iterate : Iterate K}
    (fits : iterate.Fits form) {factor : List (List K)} (length : factor.length = form.rows.length)
    (triangular : Triangular factor)
    (factored : matrix form.rows.length form.rows.length factor *
        (matrix form.rows.length form.rows.length factor)ᵀ = form.normal iterate)
    (regular : ∀ column, vector form.columns iterate.reducedCosts column ≠ 0)
    {target : List K} (targets : target.length = form.columns) :
    (newton form (.of form iterate factor) target).Solves form iterate target := by
  have values := vector_newton_values shaped fits factor targets
  have costs :
      vector form.columns (newton form (.of form iterate factor) target).reducedCosts = _ :=
    vector_newton_reducedCosts shaped fits factor
  have multipliers := mulVec_newton_multipliers shaped fits targets length triangular
  have pulled := vector_pulled shaped fits targets
  rw [factored, EqualityForm.normal, ← mulVec_mulVec, ← mulVec_mulVec] at multipliers
  have fitting := fits_newton shaped fits length targets
  generalize newton form (.of form iterate factor) target = step at *
  -- The values are what is pulled and what the multipliers add to it.
  have split : vector form.columns step.values =
      vector form.columns (Interior.pulled form iterate target) +
        diagonal (vector form.columns iterate.values / vector form.columns iterate.reducedCosts) *ᵥ
          form.coefficientsᵀ *ᵥ vector form.rows.length step.multipliers := by
    rw [values, costs, pulled]
    funext column
    simp only [Pi.div_apply, Pi.sub_apply, Pi.mul_apply, Pi.add_apply, Pi.neg_apply,
      mulVec_diagonal]
    field_simp [regular column]
    ring
  refine ⟨fitting, ?_, ?_, ?_⟩
  · rw [split, mulVec_add, multipliers, add_sub_cancel]
  · rw [costs, add_sub_cancel]
  · rw [values]
    funext column
    simp only [Pi.div_apply, Pi.sub_apply, Pi.mul_apply, Pi.add_apply]
    rw [mul_div_cancel₀ _ (regular column), sub_add_cancel]

/-! ## Residuals after a step -/

theorem vector_advance {values direction : List K} {length : Nat}
    (valuesLength : values.length = length) (directionLength : direction.length = length)
    (share : K) :
    vector length (advance share values direction) =
      vector length values + share • vector length direction :=
  vector_zipWith valuesLength directionLength _

namespace Step.Solves

variable {step : Step K} {form : EqualityForm K} {iterate : Iterate K} {target : List K}
  (solves : step.Solves form iterate target) (fits : iterate.Fits form) (primalShare dualShare : K)

include solves fits

theorem primalExcess_moved :
    form.primalExcess (iterate.moved primalShare dualShare step) =
      (1 - primalShare) • form.primalExcess iterate := by
  have moved := vector_advance fits.values solves.fits.values primalShare
  calc form.primalExcess (iterate.moved primalShare dualShare step)
      = form.coefficients *ᵥ (vector form.columns iterate.values +
          primalShare • vector form.columns step.values) - vector form.rows.length form.rhs := by
        rw [← moved]
        rfl
    _ = form.primalExcess iterate +
          primalShare • (form.coefficients *ᵥ vector form.columns step.values) := by
        rw [mulVec_add, mulVec_smul, EqualityForm.primalExcess]
        abel
    _ = (1 - primalShare) • form.primalExcess iterate := by
        rw [solves.primal, smul_neg, sub_smul, one_smul, sub_eq_add_neg]

theorem dualExcess_moved :
    form.dualExcess (iterate.moved primalShare dualShare step) =
      (1 - dualShare) • form.dualExcess iterate := by
  have multipliers := vector_advance fits.multipliers solves.fits.multipliers dualShare
  have costs := vector_advance fits.reducedCosts solves.fits.reducedCosts dualShare
  calc form.dualExcess (iterate.moved primalShare dualShare step)
      = form.coefficientsᵀ *ᵥ (vector form.rows.length iterate.multipliers +
            dualShare • vector form.rows.length step.multipliers) +
          (vector form.columns iterate.reducedCosts +
            dualShare • vector form.columns step.reducedCosts) -
          vector form.columns form.cost := by
        rw [← multipliers, ← costs]
        rfl
    _ = form.dualExcess iterate +
          dualShare • (form.coefficientsᵀ *ᵥ vector form.rows.length step.multipliers +
            vector form.columns step.reducedCosts) := by
        rw [mulVec_add, mulVec_smul, smul_add, EqualityForm.dualExcess]
        abel
    _ = (1 - dualShare) • form.dualExcess iterate := by
        rw [solves.dual, smul_neg, sub_smul, one_smul, sub_eq_add_neg]

end Step.Solves

/-- Where the rows of a factor multiply to the normal matrix, every direction solves the linearized
system, a step along it shrinks both residuals by the shares that are gone, and so does an
iteration. -/
theorem newton_solves [RootedScalar K] {form : EqualityForm K} (shaped : form.Shaped)
    {iterate : Iterate K} (fits : iterate.Fits form) (positive : iterate.Positive)
    {point : Linearization K} (linearized : linearize form iterate = some point)
    (factored : matrix form.rows.length form.rows.length point.factor *
        (matrix form.rows.length form.rows.length point.factor)ᵀ = form.normal iterate) :
    (∀ target, target.length = form.columns →
      (newton form point target).Solves form iterate target ∧
        ∀ primalShare dualShare,
          form.primalExcess (iterate.moved primalShare dualShare (newton form point target)) =
              (1 - primalShare) • form.primalExcess iterate ∧
            form.dualExcess (iterate.moved primalShare dualShare (newton form point target)) =
              (1 - dualShare) • form.dualExcess iterate) ∧
      form.primalExcess (nextIterate form point) =
          (1 - dampedShare iterate.values (corrector form point).values) •
            form.primalExcess iterate ∧
        form.dualExcess (nextIterate form point) =
          (1 - dampedShare iterate.reducedCosts (corrector form point).reducedCosts) •
            form.dualExcess iterate := by
  obtain ⟨factor, rfl, found, length⟩ := exists_factor_of_linearize linearized
  have triangular := (staircase_of_cholesky (reachesDiagonal_normalMatrix form _) found).triangular
  have regular (column : Fin form.columns) : vector form.columns iterate.reducedCosts column ≠ 0 :=
    (positive.reducedCosts _ (entry_mem (fits.reducedCosts.symm ▸ column.isLt))).ne'
  have solves {target : List K} (targets : target.length = form.columns) :=
    solves_newton shaped fits length triangular factored regular targets
  have last := solves (length_correctorTarget shaped fits length)
  exact ⟨fun target targets => ⟨solves targets, fun primalShare dualShare =>
      ⟨(solves targets).primalExcess_moved fits primalShare dualShare,
        (solves targets).dualExcess_moved fits primalShare dualShare⟩⟩,
    last.primalExcess_moved fits _ _, last.dualExcess_moved fits _ _⟩

def chain : EqualityForm ℚ where
  rows := [[1, 1, 0], [0, 1, 1]]
  rhs := [3, 2]
  cost := [1, 2, -1]

def Iterate.square : Iterate ℚ where
  values := [2, 4, 3]
  multipliers := [1, 0]
  reducedCosts := [1, 2, 1]

theorem factor_square :
    (linearize chain .square).map (·.factor) = some [[2], [1, 2]] := by
  decide +kernel

theorem normal_square :
    matrix 2 2 [[2], [1, 2]] * (matrix 2 2 [[2], [1, 2]])ᵀ = chain.normal .square := by
  decide +kernel

theorem newton_solves_square :
    ∃ point, linearize chain .square = some point ∧ chain.Shaped ∧
      Iterate.square.Fits chain ∧ Iterate.square.Positive ∧
      matrix 2 2 point.factor * (matrix 2 2 point.factor)ᵀ = chain.normal .square ∧
      (newton chain point [1, 0, -1]).Solves chain .square [1, 0, -1] ∧
      chain.primalExcess (nextIterate chain point) =
        (1 - dampedShare Iterate.square.values (corrector chain point).values) •
          chain.primalExcess .square := by
  have shaped : chain.Shaped := ⟨by decide, rfl⟩
  have fits : Iterate.square.Fits chain := ⟨rfl, rfl, rfl⟩
  have positive : Iterate.square.Positive := ⟨by decide +kernel, by decide +kernel⟩
  obtain ⟨point, linearized, factor⟩ := Option.map_eq_some_iff.mp factor_square
  have factored : matrix 2 2 point.factor * (matrix 2 2 point.factor)ᵀ = chain.normal .square :=
    (congrArg (fun rows => matrix 2 2 rows * (matrix 2 2 rows)ᵀ) factor).trans normal_square
  obtain ⟨directions, primal, -⟩ := newton_solves shaped fits positive linearized factored
  exact ⟨point, linearized, shaped, fits, positive, factored, (directions [1, 0, -1] rfl).1, primal⟩

end LinearProgramming.Interior
