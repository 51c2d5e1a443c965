import LinearProgramming.Config.Basic
import LinearProgramming.Workspace.Solve

/-!
# Runs in time

A run holds the readings of its clock against a time limit and uses them for nothing else.  Two
runs whose clocks stay below the limit are therefore one and the same run, whatever the clocks
show.
-/

namespace LinearProgramming

def Clock.Below (clock : Clock) (limit : Int) : Prop :=
  ∀ reading, (clock reading : Int) < limit

theorem Clock.Below.next {clock : Clock} {limit : Int} (below : clock.Below limit) :
    clock.next.Below limit :=
  fun reading => below (reading + 1)

theorem Clock.still_below {limit : Int} (positive : 0 < limit) : Clock.still.Below limit :=
  fun _ => positive

variable {K : Type} [Scalar K]

namespace Simplex

variable {options : Options K} {clock other : Clock}

omit [Scalar K] in
theorem Options.outOfTime_of_below (below : clock.Below options.timeLimit) (reading : Nat) :
    options.outOfTime (clock reading) = false :=
  decide_eq_false (Int.not_le.mpr (below reading))

variable (below : clock.Below options.timeLimit) (otherBelow : other.Below options.timeLimit)

include below otherBelow

theorem improve_in_time (columns : Nat) (watch : Tableau K → Option Limit) (remaining : Nat)
    (progress : Progress K) :
    improve options clock columns watch remaining progress =
      improve options other columns watch remaining progress := by
  induction remaining generalizing progress with
  | zero => rfl
  | succ remaining inductionHypothesis =>
      simp only [improve, Options.outOfTime_of_below below, Options.outOfTime_of_below otherBelow,
        inductionHypothesis]

theorem findBasis_in_time (start : Tableau K) :
    findBasis options clock start = findBasis options other start := by
  simp only [findBasis, phaseOne, improve_in_time below otherBelow]

theorem phaseTwo_in_time (program : Program K) (form : StandardForm K) (progress : Progress K) :
    phaseTwo options clock program form progress = phaseTwo options other program form progress :=
  improve_in_time below.next otherBelow.next _ _ _ _

theorem solve_in_time (program : Program K) :
    solve options clock program = solve options other program := by
  simp only [solve, findBasis_in_time below otherBelow, phaseTwo_in_time below otherBelow]

end Simplex

namespace Search

variable {options : Options K} {clock other : Clock}

omit [Scalar K] in
theorem Options.outOfTime_of_below (below : clock.Below options.timeLimit) (reading : Nat) :
    options.outOfTime (clock reading) = false :=
  decide_eq_false (Int.not_le.mpr (below reading))

theorem runTimed_in_time (below : clock.Below options.timeLimit)
    (otherBelow : other.Below options.timeLimit) (relax : Nat → Program K → Outcome K)
    (program : Program K) (integer : List Nat) (steps : Nat) (state : State K) :
    runTimed options relax program integer steps clock state =
      runTimed options relax program integer steps other state := by
  induction steps generalizing clock other state with
  | zero => rfl
  | succ steps inductionHypothesis =>
      have same : step options (relax state.solved) program integer (clock 0) state =
          step options (relax state.solved) program integer (other 0) state := by
        simp only [step, Options.outOfTime_of_below below, Options.outOfTime_of_below otherBelow]
      rw [runTimed, runTimed, same]
      cases step options (relax state.solved) program integer (other 0) state with
      | done result => rfl
      | «continue» next => exact inductionHypothesis below.next otherBelow.next next

end Search

/-! ## Solves in time -/

structure Timing.SearchesBelow (timing : Timing) (limit : Int) : Prop where
  root : timing.root.Below limit
  search : timing.search.Below limit
  node : ∀ solved, (timing.node solved).Below limit

theorem Timing.still_searchesBelow {limit : Int} (positive : 0 < limit) :
    Timing.still.SearchesBelow limit where
  root := Clock.still_below positive
  search := Clock.still_below positive
  node _ := Clock.still_below positive

def SolverConfig.InTime (timing : Timing) : SolverConfig K → Prop
  | .simplex config => timing.simplex.Below config.toOptions.timeLimit
  | .interior _ => True
  | .branchCut config =>
      timing.simplex.Below config.relaxation.toOptions.timeLimit ∧
        timing.SearchesBelow config.toOptions.timeLimit

theorem BranchCutConfig.inTime_still {config : BranchCutConfig K}
    (relaxation : config.relaxation.timeLimit = none) (search : config.timeLimit = none) :
    (SolverConfig.branchCut config).InTime .still := by
  refine ⟨Clock.still_below ?_, Timing.still_searchesBelow ?_⟩
  · change 0 < timeParameter config.relaxation.timeLimit
    rw [relaxation]
    decide
  · change 0 < timeParameter config.timeLimit
    rw [search]
    decide

end LinearProgramming
