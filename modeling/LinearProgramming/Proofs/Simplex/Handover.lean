import LinearProgramming.Proofs.Simplex.Soundness
import LinearProgramming.Proofs.Simplex.Stops

/-!
# From phase one to phase two

Phase one hands over a tableau in which an artificial column that is still basic has a row of
zeros.  Phase two pivots on variables and slacks alone, and no row of zeros is ever chosen, so the
artificial columns are out of play for the rest of the run.
-/

namespace LinearProgramming.Simplex

variable {K : Type} [ExactScalar K]

/-- What phase two relies on: a non-negative point, an objective without basic columns, and
artificial columns at zero, in rows that say nothing about the others. -/
structure Tableau.Clean (tableau : Tableau K) : Prop where
  nonnegative : tableau.NonNegative
  cleared : tableau.Cleared
  priced : tableau.PricedOut
  artificial : ∀ column, tableau.artificialStart ≤ column → tableau.basicPoint column = 0

theorem ClearedBasis.clean {start tableau : Tableau K} (basis : ClearedBasis start tableau) :
    tableau.Clean where
  nonnegative := basis.nonnegative
  cleared := basis.cleared
  priced := basis.priced
  artificial _ artificial := basis.cleared.basicPoint_artificial artificial

theorem ClearedBasis.pivots {start : Tableau K} {options : Options K}
    (zero : options.ZeroTolerances) {made : Nat} {progress later : Progress K}
    (basis : ClearedBasis start progress.tableau)
    (pivots : Pivots options start.artificialStart made progress later) :
    ClearedBasis start later.tableau := by
  induction pivots with
  | refl => exact basis
  | cons entering leaving _ inductionHypothesis =>
      exact inductionHypothesis (basis.pivot zero ⟨entering, leaving⟩)

theorem not_feasible_of_phaseOne {program : Program K}
    (priced : program.cost.length = program.columns.length) {options : Options K}
    (zero : options.ZeroTolerances) {clock : Clock} {progress : Progress K}
    (ended : phaseOne options clock (startOf program) = (progress, .infeasible))
    (point : List K) : ¬ (StandardForm.ofProgram program).Feasible point := by
  intro feasible
  obtain ⟨assignment, solves, nonnegative, without, -⟩ :=
    Tableau.exists_solves (StandardForm.ofProgram_wellFormed priced) feasible
  obtain ⟨index, artificial, nonzero⟩ := phaseOne_infeasible clock zero (canonical_startOf priced)
    (Tableau.nonNegative_ofStandardForm _) ended solves nonnegative
  exact nonzero (without index artificial)

/-- Where phase one ends feasible, its tableau is clean and stays clean under all that phase two
does; where it ends infeasible, the standard form has no feasible point. -/
theorem phaseOne_handover {program : Program K}
    (priced : program.cost.length = program.columns.length) {options : Options K}
    (zero : options.ZeroTolerances) (clock : Clock) :
    (∀ progress, phaseOne options clock (startOf program) = (progress, .feasible) →
      progress.tableau.Clean ∧
        (∀ made later, Pivots options progress.tableau.artificialStart made progress later →
          later.tableau.Clean) ∧
        ∃ made, Pivots options progress.tableau.artificialStart made progress
          (phaseTwo options clock program (.ofProgram program) progress).1) ∧
      ∀ progress, phaseOne options clock (startOf program) = (progress, .infeasible) →
        ∀ point, ¬ (StandardForm.ofProgram program).Feasible point := by
  refine ⟨fun progress ended => ?_, fun _ ended => not_feasible_of_phaseOne priced zero ended⟩
  obtain ⟨feasible, cleared⟩ := phaseOne_feasible clock zero (canonical_startOf priced)
    (Tableau.nonNegative_ofStandardForm _) ended
  have basis : ClearedBasis (startOf program) progress.tableau := ⟨feasible, cleared⟩
  refine ⟨basis.clean, fun made later pivots => ?_, ?_⟩
  · rw [basis.equivalent.artificialStart_eq] at pivots
    exact (basis.pivots zero pivots).clean
  · obtain ⟨made, -, pivots⟩ := exists_pivots_of_improve _ progress
    exact ⟨made, pivots⟩

/-- The sum of two columns is fixed at 2 and then, doubled, at another level. -/
def fixedTwice (doubled : ℚ) : Program ℚ where
  direction := .maximize
  constant := 0
  cost := [1, 2]
  columns := [.lower 0, .lower 0]
  rows := [⟨.fixed 2, [(0, 1), (1, 1)]⟩, ⟨.fixed doubled, [(0, 2), (1, 2)]⟩]

/-- At level 4 one artificial column stays basic, and at level 5 phase one ends infeasible. -/
theorem phaseOne_handover_fixedTwice :
    (∃ progress, phaseOne Options.exact .still (startOf (fixedTwice 4)) = (progress, .feasible) ∧
      progress.tableau.rows.map Row.basic = [2, 0] ∧ progress.tableau.Clean ∧
      ∃ made, Pivots Options.exact progress.tableau.artificialStart made progress
        (phaseTwo Options.exact .still (fixedTwice 4) (.ofProgram (fixedTwice 4)) progress).1) ∧
      ∀ point, ¬ (StandardForm.ofProgram (fixedTwice 5)).Feasible point := by
  have ended : (phaseOne Options.exact .still (startOf (fixedTwice 4))).2 = .feasible := by
    decide +kernel
  have failed : (phaseOne Options.exact .still (startOf (fixedTwice 5))).2 = .infeasible := by
    decide +kernel
  obtain ⟨clean, -, pivots⟩ := (phaseOne_handover rfl Options.zeroTolerances_exact .still).1 _
    (Prod.ext rfl ended)
  exact ⟨⟨_, Prod.ext rfl ended, by decide +kernel, clean, pivots⟩,
    (phaseOne_handover rfl Options.zeroTolerances_exact .still).2 _ (Prod.ext rfl failed)⟩

end LinearProgramming.Simplex
