import LinearProgramming.Interior.Iterate
import LinearProgramming.Outcome

/-!
The interior-point method.

The iteration ends once its merit, the largest relative residual or gap, falls
below a tolerance; it gives up when the iterates grow without limit, when the
merit has not halved for many iterations, or after a fixed number of iterations.
-/

namespace LinearProgramming.Interior

variable {K : Type} [Scalar K]

structure Options where
  messageLevel : Int
  /-- How the equations are ordered; only reported. -/
  ordering : Int
  deriving DecidableEq, Repr

def Options.standard : Options where
  messageLevel := 3
  ordering := 2

def maxIterations : Nat := 100

/-- How many iterations without halving the merit end a run. -/
def stallIterations : Nat := 30

/-- The merit of a solution. -/
def tolerance : K := 1e-9

/-- The relative size of an iterate that counts as growth without limit. -/
def divergence : K := 1e12

def scaleOf (values : List K) : K :=
  1 + Dense.maxNorm values

def merit (form : EqualityForm K) (iterate : Iterate K) : K :=
  let primal := Dense.dot form.cost iterate.values
  let dual := Dense.dot form.rhs iterate.multipliers
  Scalar.larger
    (Scalar.larger (Dense.maxNorm (primalResidual form iterate) / scaleOf form.rhs)
      (Dense.maxNorm (dualResidual form iterate) / scaleOf form.cost))
    (Scalar.absolute (primal - dual) / (1 + Scalar.absolute primal))

def primalGrowth (form : EqualityForm K) (iterate : Iterate K) : K :=
  Dense.maxNorm iterate.values / scaleOf form.rhs

def dualGrowth (form : EqualityForm K) (iterate : Iterate K) : K :=
  Dense.maxNorm iterate.multipliers / scaleOf form.cost

/-- The best merit so far and for how many iterations it has stood. -/
structure Record (K : Type) where
  best : Option K
  stalled : Nat

def Record.add (record : Record K) (merit : K) : Record K :=
  let halved :=
    match record.best with
    | none => true
    | some best => decide (merit < 0.5 * best)
  if halved then { best := some merit, stalled := 0 }
  else { record with stalled := record.stalled + 1 }

inductive Ending where
  | optimal
  /-- The iterates grew without limit; the values did so faster than the
  multipliers if the program is unbounded. -/
  | diverged (unbounded : Bool)
  | stalled
  | unstable
  | exhausted
  deriving DecidableEq, Repr

structure Final (K : Type) where
  ending : Ending
  iterate : Iterate K
  iterations : Nat
  /-- How many iterates had a finite merit. -/
  measured : Nat

/-- Iterates at most `remaining` times more. -/
def iterateFrom (form : EqualityForm K) :
    (remaining : Nat) → (iteration : Nat) → Record K → Iterate K → Final K
  | 0, iteration, _, iterate => ⟨.exhausted, iterate, iteration, iteration⟩
  | remaining + 1, iteration, record, iterate =>
      let current := merit form iterate
      let ended (ending : Ending) : Final K := ⟨ending, iterate, iteration, iteration + 1⟩
      if !Scalar.isFinite current then ⟨.unstable, iterate, iteration, iteration⟩
      else if current < tolerance then ended .optimal
      else if divergence < primalGrowth form iterate || divergence < dualGrowth form iterate then
        ended (.diverged (decide (dualGrowth form iterate < primalGrowth form iterate)))
      else
        let record := record.add current
        if stallIterations ≤ record.stalled then ended .stalled
        else
          match linearize form iterate with
          | none => ended .unstable
          | some point => iterateFrom form remaining (iteration + 1) record (nextIterate form point)

/-- An interior-point run with what its reports need: the numbers of equations
and columns, unless the program was rejected, and how many iterates were
measured. -/
structure Run (K : Type) extends Outcome K where
  size? : Option (Nat × Nat)
  measured : Nat

def recover (form : StandardForm K) (program : Program K) (iterate : Iterate K) : Point K :=
  form.recover program (iterate.values.take form.variableCount) (iterate.multipliers.map (-·))

def Final.outcome (form : StandardForm K) (program : Program K) (final : Final K) : Outcome K :=
  let point := recover form program final.iterate
  match final.ending with
  | .optimal => ⟨.ok, .optimal, some point, final.iterations⟩
  | .diverged true => ⟨.noFeasible, .unbounded, none, final.iterations⟩
  | .diverged false => ⟨.noFeasible, .noneFeasible, none, final.iterations⟩
  | .stalled => ⟨.noConvergence, .undefined, none, final.iterations⟩
  | .unstable => ⟨.unstable, .undefined, none, final.iterations⟩
  | .exhausted => ⟨.iterationLimit, .undefined, some point, final.iterations⟩

/-- A program whose only constraints are signs: it is bounded if no cost pulls a
variable up. -/
def solveUnconstrained (form : StandardForm K) (program : Program K) (equality : EqualityForm K) :
    Outcome K :=
  if equality.cost.any fun cost => decide (cost < -tolerance) then
    ⟨.noFeasible, .unbounded, none, 0⟩
  else
    ⟨.ok, .optimal, some (form.recover program (Dense.zeros form.variableCount) []), 0⟩

def solve (program : Program K) : Run K :=
  if program.rows.isEmpty || program.columns.isEmpty || !program.boundsConsistent then
    { Outcome.rejected .failed with size? := none, measured := 0 }
  else
    let form := StandardForm.ofProgram program
    let equality := EqualityForm.ofStandardForm form
    let size? := some (equality.rows.length, equality.columns)
    if equality.rows.isEmpty then
      { solveUnconstrained form program equality with size?, measured := 0 }
    else
      match startingIterate equality with
      | none => { Outcome.rejected .unstable with size?, measured := 0 }
      | some start =>
          let final := iterateFrom equality maxIterations 0 ⟨none, 0⟩ start
          { final.outcome form program with size?, measured := final.measured }

end LinearProgramming.Interior
