import LinearProgramming.Proofs.Endings

/-!
# What pivoting depends on

The pivots of a simplex run depend on the tolerances, the rules and the limits of its parameters.
The parameters of reports decide nothing, and presolving only changes how the end of a run is told:
by the return code, where the status would tell that nothing is feasible or that the objective has
no limit.
-/

namespace LinearProgramming.Simplex

/-- The parameters that pivoting depends on; the others have one value for all. -/
def Options.rules {K : Type} (options : Options K) : Options K :=
  { options with
    messageLevel := 0
    method := 0
    outputFrequency := 0
    outputDelay := 0
    presolve := 0 }

/-- The run as one tells it that presolves, if the parameters ask for this. -/
def Run.retold {K : Type} (options : Options K) (run : Run K) : Run K :=
  { run with
    code := (presolved options run.code run.status).1
    status := (presolved options run.code run.status).2 }

variable {K : Type} [Scalar K] {options : Options K}

/-! ## Runs told anew -/

section Retold

omit [Scalar K]

theorem presolved_of_ne {code : ReturnCode} (unfinished : code ≠ .ok) (status : PointStatus) :
    presolved options code status = (code, status) := by
  unfold presolved
  split
  · exact absurd rfl unfinished
  · exact absurd rfl unfinished
  · rfl

theorem retold_reject {code : ReturnCode} (unfinished : code ≠ .ok) :
    (reject code : Run K).retold options = reject code := by
  simp only [Run.retold, reject, Outcome.rejected, presolved_of_ne unfinished]

variable (presolves : options.presolves = true) {run : Run K} (finished : run.code = .ok)

include presolves finished

theorem retold_noneFeasible (found : run.status = .noneFeasible) :
    (run.retold options).code = .noPrimalFeasible ∧ (run.retold options).status = .undefined := by
  simp only [Run.retold, presolved, presolves, finished, found, and_self]

theorem retold_unbounded (found : run.status = .unbounded) :
    (run.retold options).code = .noDualFeasible ∧ (run.retold options).status = .undefined := by
  simp only [Run.retold, presolved, presolves, finished, found, and_self]

end Retold

/-! ## Runs by their rules -/

theorem improve_rules (options : Options K) (clock : Clock) (columns : Nat)
    (watch : Tableau K → Option Limit) (remaining : Nat) (progress : Progress K) :
    improve options.rules clock columns watch remaining progress =
      improve options clock columns watch remaining progress := by
  induction remaining generalizing progress with
  | zero => rfl
  | succ remaining inductionHypothesis =>
      simp only [improve, inductionHypothesis]
      rfl

theorem findBasis_rules (options : Options K) (clock : Clock) (start : Tableau K) :
    findBasis options.rules clock start = findBasis options clock start := by
  simp only [findBasis, phaseOne, improve_rules]
  rfl

theorem phaseTwo_rules (options : Options K) (clock : Clock) (program : Program K)
    (form : StandardForm K) (progress : Progress K) :
    phaseTwo options.rules clock program form progress =
      phaseTwo options clock program form progress :=
  improve_rules options _ _ _ _ _

theorem finish_eq_retold (options : Options K) (program : Program K) (form : StandardForm K)
    (pivots : Nat) (progress : Progress K) (code : ReturnCode) (status : PointStatus) :
    finish options program form pivots progress code status =
      (finish options.rules program form pivots progress code status).retold options := by
  have plain : presolved options.rules code status = (code, status) :=
    presolved_of_keeps rfl code status
  simp only [finish, Run.retold, plain]

/-- Every run is the run by its rules, told as the parameters ask for it. -/
theorem solve_eq_retold (options : Options K) (clock : Clock) (program : Program K) :
    solve options clock program = (solve options.rules clock program).retold options := by
  simp only [solve, findBasis_rules, phaseTwo_rules]
  -- Two ends are rejections, which nobody tells anew; all others are made by `finish`.
  split
  · exact (retold_reject (by decide)).symm
  split
  · exact (retold_reject (by decide)).symm
  split
  · exact finish_eq_retold options _ _ _ _ _ _
  · exact finish_eq_retold options _ _ _ _ _ _
  · split <;> exact finish_eq_retold options _ _ _ _ _ _

theorem solve_congr {other : Options K} (rules : other.rules = options.rules)
    (presolve : other.presolve = options.presolve) (clock : Clock) (program : Program K) :
    solve other clock program = solve options clock program := by
  have presolves : other.presolves = options.presolves := by
    rw [Options.presolves, presolve, Options.presolves]
  rw [solve_eq_retold other, solve_eq_retold options, rules]
  simp only [Run.retold, presolved, presolves]

end LinearProgramming.Simplex
