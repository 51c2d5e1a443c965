import LinearProgramming.Proofs.InTime
import LinearProgramming.Proofs.Simplex.Rules

/-!
# Settings that decide nothing

Some settings only say how much is reported, or name a technique that there is no choice of.  They
are taken away by `withoutAdvice`, and every run goes as it goes without them.
-/

namespace LinearProgramming

variable {K : Type} [Scalar K]

/-! ## The search -/

namespace Search

def Options.withoutAdvice {K : Type} (options : Options K) : Options K :=
  { options with
    messageLevel := 0
    outputFrequency := 0
    outputDelay := 0
    preprocessing := 0
    roundingCuts := 0
    gomoryCuts := 0
    coverCuts := 0
    cliqueCuts := 0 }

variable (options : Options K)

theorem step_withoutAdvice (relax : Program K → Outcome K) (program : Program K)
    (integer : List Nat) (elapsed : Nat) (state : State K) :
    step options.withoutAdvice relax program integer elapsed state =
      step options relax program integer elapsed state :=
  rfl

theorem runTimed_withoutAdvice (relax : Nat → Program K → Outcome K) (program : Program K)
    (integer : List Nat) (steps : Nat) (clock : Clock) (state : State K) :
    runTimed options.withoutAdvice relax program integer steps clock state =
      runTimed options relax program integer steps clock state := by
  induction steps generalizing clock state with
  | zero => rfl
  | succ steps inductionHypothesis =>
      rw [runTimed, runTimed, step_withoutAdvice]
      cases step options (relax state.solved) program integer (clock 0) state with
      | done result => rfl
      | «continue» next => exact inductionHypothesis clock.next next

end Search

/-! ## Calls -/

namespace Workspace

variable {workspace : Workspace K}

theorem integerSearchTimed_options_withoutAdvice (steps : Nat) (timing : Timing)
    (options : Search.Options K) :
    workspace.integerSearchTimed steps timing options.withoutAdvice =
      workspace.integerSearchTimed steps timing options := by
  have solvers : Search.Solvers.simplex options.withoutAdvice timing = .simplex options timing :=
    rfl
  have admission (root : Program K → PointStatus) :
      workspace.admissionBy root options.withoutAdvice = workspace.admissionBy root options := rfl
  simp only [integerSearchTimed, integerSearchBy, solvers, admission, Search.searchTimed,
    Search.runTimed_withoutAdvice]

end Workspace

/-! ## Configurations -/

def SimplexConfig.withoutAdvice {K : Type} (config : SimplexConfig K) : SimplexConfig K :=
  { config with verbosity := .off, method := .primal }

def BranchCutConfig.withoutAdvice {K : Type} (config : BranchCutConfig K) : BranchCutConfig K :=
  { config with
    verbosity := .off
    relaxation := config.relaxation.withoutAdvice
    preprocessing := .none
    roundingCuts := false
    gomoryCuts := false
    coverCuts := false
    cliqueCuts := false }

/-- The configuration with nothing but what a solve depends on.  The interior-point method depends
on no setting. -/
def SolverConfig.withoutAdvice {K : Type} : SolverConfig K → SolverConfig K
  | .simplex config => .simplex config.withoutAdvice
  | .interior _ => .interior ⟨.off, .natural⟩
  | .branchCut config => .branchCut config.withoutAdvice

theorem SolverConfig.validate_withoutAdvice (config : SolverConfig K) :
    config.withoutAdvice.validate = config.validate := by
  cases config <;> rfl

theorem SolverConfig.inTime_withoutAdvice (timing : Timing) (config : SolverConfig K) :
    config.withoutAdvice.InTime timing ↔ config.InTime timing := by
  cases config <;> exact Iff.rfl

namespace Workspace

variable {workspace : Workspace K}

theorem simplexTimed_withoutAdvice (clock : Clock) (config : SimplexConfig K) :
    workspace.simplexTimed clock config.withoutAdvice.toOptions =
      workspace.simplexTimed clock config.toOptions := by
  have rules : config.withoutAdvice.toOptions.rules = config.toOptions.rules := rfl
  simp only [simplexTimed, Simplex.solve_congr rules rfl]

theorem integerSearchTimed_withoutAdvice (steps : Nat) (timing : Timing)
    (config : BranchCutConfig K) :
    workspace.integerSearchTimed steps timing config.withoutAdvice.toOptions =
      workspace.integerSearchTimed steps timing config.toOptions := by
  have options : config.withoutAdvice.toOptions.withoutAdvice = config.toOptions.withoutAdvice :=
    rfl
  rw [← integerSearchTimed_options_withoutAdvice, options, integerSearchTimed_options_withoutAdvice]

end Workspace

end LinearProgramming
