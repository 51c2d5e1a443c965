import LinearProgramming.Interior.Cholesky
import LinearProgramming.Interior.EqualityForm

/-!
Iterates of the predictor-corrector method: the starting point, the residuals,
and one Newton step.

An iterate holds values `x` of the columns, multipliers `y` of the equations and
reduced costs `s`.  The residuals are `A x - b` and `Aᵀ y + s - c`; a step
shrinks each by the share of the way it goes.
-/

namespace LinearProgramming.Interior

structure Iterate (K : Type) where
  values : List K
  multipliers : List K
  reducedCosts : List K

structure Step (K : Type) where
  values : List K
  multipliers : List K
  reducedCosts : List K

variable {K : Type} [Scalar K]

/-- The share of the largest safe step that is taken. -/
def stepDamping : K := 0.99

def primalResidual (form : EqualityForm K) (iterate : Iterate K) : List K :=
  List.zipWith (· - ·) (Dense.mulVec form.rows iterate.values) form.rhs

def dualResidual (form : EqualityForm K) (iterate : Iterate K) : List K :=
  List.zipWith (· - ·)
    (List.zipWith (· + ·)
      (Dense.transposeMulVec form.rows form.columns iterate.multipliers) iterate.reducedCosts)
    form.cost

/-- The largest share of a step, at most one, that keeps `values` from going
below zero. -/
def maxStep (values step : List K) : K :=
  (List.zip values step).foldl
    (fun share (value, change) =>
      if change < 0 then Scalar.smaller share (-value / change) else share)
    1

/-- Lifts a vector by the least amount that makes it clearly positive. -/
def liftPositive (values : List K) : List K :=
  let amount :=
    match Scalar.least? values with
    | none => 0
    | some least => Scalar.larger (-1.5 * least) 0
  values.map (· + amount)

/-- Adds an amount to every entry and replaces entries that stay too small. -/
def separate (amount : K) (values : List K) : List K :=
  values.map fun value => if 1e-8 < value + amount then value + amount else 1

/-- Half the complementarity `products` per unit of a positive weight. -/
def centering (products weight : K) : K :=
  if 0 < weight then 0.5 * products / weight else 0

/-- The starting iterate: the least-squares solutions of both sets of equations,
moved well inside the positive orthant.  There is none if the normal matrix has
no factor. -/
def startingIterate (form : EqualityForm K) : Option (Iterate K) :=
  (cholesky (form.normalMatrix (List.replicate form.columns 1))).map fun factor =>
    let multipliers := choleskySolve factor (Dense.mulVec form.rows form.cost)
    let values :=
      liftPositive
        (Dense.transposeMulVec form.rows form.columns (choleskySolve factor form.rhs))
    let reducedCosts :=
      liftPositive
        (List.zipWith (· - ·) form.cost
          (Dense.transposeMulVec form.rows form.columns multipliers))
    let products := Dense.dot values reducedCosts
    { values := separate (centering products (Dense.total reducedCosts)) values
      multipliers
      reducedCosts := separate (centering products (Dense.total values)) reducedCosts }

/-- What one iteration knows before it moves: the iterate, its residuals, the
quotients of values and reduced costs, and a factor of the normal matrix. -/
structure Linearization (K : Type) where
  iterate : Iterate K
  primalResidual : List K
  dualResidual : List K
  scaling : List K
  factor : List (List K)

def scalingOf (iterate : Iterate K) : List K :=
  List.zipWith (· / ·) iterate.values iterate.reducedCosts

def linearize (form : EqualityForm K) (iterate : Iterate K) : Option (Linearization K) :=
  let scaling := scalingOf iterate
  (cholesky (form.normalMatrix scaling)).map fun factor =>
    { iterate
      primalResidual := primalResidual form iterate
      dualResidual := dualResidual form iterate
      scaling
      factor }

/-- The Newton direction: it removes both residuals and brings the products of
values and reduced costs up to first order by `target`. -/
def newton (form : EqualityForm K) (point : Linearization K) (target : List K) : Step K :=
  let iterate := point.iterate
  let pulled :=
    List.zipWith (· + ·)
      (List.zipWith (· / ·) target iterate.reducedCosts)
      (List.zipWith (· * ·) point.scaling point.dualResidual)
  let rhs :=
    List.zipWith (fun applied residual => -residual - applied)
      (Dense.mulVec form.rows pulled) point.primalResidual
  let multipliers := choleskySolve point.factor rhs
  let reducedCosts :=
    List.zipWith (fun priced residual => -residual - priced)
      (Dense.transposeMulVec form.rows form.columns multipliers) point.dualResidual
  let values :=
    List.zipWith (· / ·)
      (List.zipWith (· - ·) target (List.zipWith (· * ·) iterate.values reducedCosts))
      iterate.reducedCosts
  { values, multipliers, reducedCosts }

def advance (share : K) (values step : List K) : List K :=
  List.zipWith (fun value change => value + share * change) values step

/-- The target of the corrector: the products left over by the predictor, with
second-order terms taken off and `centre` added. -/
def correctedTarget (target : List K) (predictor : Step K) (centre : K) : List K :=
  List.zipWith (fun product second => product - second + centre) target
    (List.zipWith (· * ·) predictor.values predictor.reducedCosts)

def complementarity (form : EqualityForm K) (values reducedCosts : List K) : K :=
  Dense.dot values reducedCosts / (form.columns : K)

def nextIterate (form : EqualityForm K) (point : Linearization K) : Iterate K :=
  let iterate := point.iterate
  let average := complementarity form iterate.values iterate.reducedCosts
  let target := List.zipWith (fun value cost => -value * cost) iterate.values iterate.reducedCosts
  let predictor := newton form point target
  let predicted :=
    complementarity form
      (advance (maxStep iterate.values predictor.values) iterate.values predictor.values)
      (advance (maxStep iterate.reducedCosts predictor.reducedCosts)
        iterate.reducedCosts predictor.reducedCosts)
  let quotient := predicted / average
  let centring := quotient * (quotient * quotient)
  let corrector := newton form point (correctedTarget target predictor (centring * average))
  let primalShare := Scalar.smaller (stepDamping * maxStep iterate.values corrector.values) 1
  let dualShare :=
    Scalar.smaller (stepDamping * maxStep iterate.reducedCosts corrector.reducedCosts) 1
  { values := advance primalShare iterate.values corrector.values
    multipliers := advance dualShare iterate.multipliers corrector.multipliers
    reducedCosts := advance dualShare iterate.reducedCosts corrector.reducedCosts }

end LinearProgramming.Interior
