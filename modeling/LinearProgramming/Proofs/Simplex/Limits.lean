import LinearProgramming.Proofs.InTime
import LinearProgramming.Proofs.Simplex.Stops

/-!
# Runs that no limit stops

A simplex run in time that watches no objective limit is stopped by its pivot limit or not at all,
and in the first case it has made as many pivots as the limit allows.  So a run with fewer pivots
decides its program.
-/

namespace LinearProgramming.Simplex

variable {K : Type} [Scalar K] {options : Options K} {clock : Clock}

section Phases

variable (below : clock.Below options.timeLimit)

include below

omit [Scalar K] in
theorem Met.pivots_eq {watch : Tableau K → Option Limit}
    (unwatched : ∀ tableau, watch tableau = none) {allowed : Nat} {final : Progress K}
    {limit : Limit} (met : Met options clock watch allowed final limit) :
    final.pivots = allowed := by
  cases met with
  | iterations spent => exact spent
  | time late => cases (Options.outOfTime_of_below below _).symm.trans late
  | watched seen => cases (unwatched _).symm.trans seen

theorem pivots_of_findBasis {start : Tableau K} {final : Progress K} {limit : Limit}
    (stopped : findBasis options clock start = (final, .stopped limit)) :
    final.pivots = options.pivotLimit :=
  (met_of_findBasis stopped).pivots_eq below fun _ => rfl

theorem le_pivots_of_phaseTwo (unwatched : options.watchesObjective = false)
    {program : Program K} {form : StandardForm K} {progress final : Progress K} {limit : Limit}
    (stopped : phaseTwo options clock program form progress = (final, .stopped limit)) :
    options.pivotLimit ≤ final.pivots := by
  have passes (tableau : Tableau K) : passedLimit options program form tableau = none := by
    rw [passedLimit, unwatched]
    rfl
  have counted := (met_of_improve stopped).pivots_eq below.next passes
  omega

end Phases

/-- A run in time without an objective limit that makes fewer pivots than it may decides its
program. -/
theorem decided_of_few_pivots (options : Options K) (below : clock.Below options.timeLimit)
    (unwatched : options.watchesObjective = false) (keeps : options.presolves = false)
    {program : Program K} (nonempty : program.columns ≠ [])
    (consistent : program.boundsConsistent = true)
    (few : (solve options clock program).iterations < options.pivotLimit) :
    (solve options clock program).status = .optimal ∨
      (solve options clock program).status = .noneFeasible ∨
      (solve options clock program).status = .unbounded := by
  have some : program.columns.isEmpty = false := List.isEmpty_eq_false_iff.mpr nonempty
  simp only [solve, some, consistent, finish, presolved_of_keeps keeps] at few ⊢
  generalize started : findBasis options clock
    (Tableau.ofStandardForm (StandardForm.ofProgram program)) = basis at few ⊢
  obtain ⟨progress, ending⟩ := basis
  cases ending with
  | infeasible => exact .inr (.inl rfl)
  | stopped limit =>
      have counted := pivots_of_findBasis below started
      change progress.pivots < options.pivotLimit at few
      omega
  | feasible =>
      dsimp only at few ⊢
      generalize continued : phaseTwo options clock program (StandardForm.ofProgram program)
        progress = optimized at few ⊢
      obtain ⟨final, ending⟩ := optimized
      cases ending with
      | optimal => exact .inl rfl
      | unbounded => exact .inr (.inr rfl)
      | stopped limit =>
          have counted := le_pivots_of_phaseTwo below unwatched continued
          change final.pivots < options.pivotLimit at few
          omega

end LinearProgramming.Simplex
