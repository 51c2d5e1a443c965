import LinearProgramming.Interior.Solve
import LinearProgramming.Simplex.Solve

/-!
# How runs end

The pairs of a return code and a status that a run of the simplex method and one of the
interior-point method may end with.  Whoever interprets a run has to understand these pairs and
no others.
-/

namespace LinearProgramming

variable {K : Type} [Scalar K]

/-! ## The simplex method -/

namespace Simplex

/-- The codes, statuses and points of simplex runs.  With presolving the codes tell what else the
statuses would, and a run that a limit stops has a feasible point only in phase two.  Every run
that is not rejected gives a point. -/
inductive Ends (options : Options K) : ReturnCode → PointStatus → Option (Point K) → Prop
  | empty : Ends options .failed .undefined none
  | inconsistent : Ends options .incorrectBounds .undefined none
  | optimal (point : Point K) : Ends options .ok .optimal (some point)
  | noneFeasible (point : Point K) (keeps : options.presolves = false) :
      Ends options .ok .noneFeasible (some point)
  | unbounded (point : Point K) (keeps : options.presolves = false) :
      Ends options .ok .unbounded (some point)
  | noPrimalFeasible (point : Point K) (presolves : options.presolves = true) :
      Ends options .noPrimalFeasible .undefined (some point)
  | noDualFeasible (point : Point K) (presolves : options.presolves = true) :
      Ends options .noDualFeasible .undefined (some point)
  | stoppedEarly (point : Point K) (limit : Limit) :
      Ends options limit.returnCode .infeasible (some point)
  | stopped (point : Point K) (limit : Limit) :
      Ends options limit.returnCode .feasible (some point)

variable {options : Options K}

omit [Scalar K] in
/-- What is found without a limit is told by the status or, after presolving, by the code. -/
theorem ends_presolved {status : PointStatus}
    (found : status = .optimal ∨ status = .noneFeasible ∨ status = .unbounded)
    (point : Point K) :
    Ends options (presolved options .ok status).1 (presolved options .ok status).2
      (some point) := by
  unfold presolved
  cases presolves : options.presolves <;> rcases found with rfl | rfl | rfl
  · exact .optimal point
  · exact .noneFeasible point presolves
  · exact .unbounded point presolves
  · exact .optimal point
  · exact .noPrimalFeasible point presolves
  · exact .noDualFeasible point presolves

omit [Scalar K] in
theorem presolved_limit (limit : Limit) (status : PointStatus) :
    presolved options limit.returnCode status = (limit.returnCode, status) := by
  unfold presolved
  cases options.presolves <;> cases limit <;> rfl

omit [Scalar K] in
theorem presolved_of_keeps (keeps : options.presolves = false) (code : ReturnCode)
    (status : PointStatus) : presolved options code status = (code, status) := by
  unfold presolved
  split
  · rename_i presolves
    cases keeps.symm.trans presolves
  · rename_i presolves
    cases keeps.symm.trans presolves
  · rfl

theorem solve_ends (options : Options K) (clock : Clock) (program : Program K) :
    Ends options (solve options clock program).code (solve options clock program).status
      (solve options clock program).point := by
  unfold solve
  split
  · exact .empty
  split
  · exact .inconsistent
  dsimp only [finish]
  split
  · exact ends_presolved (.inr (.inl rfl)) _
  · rename_i limit _
    rw [presolved_limit]
    exact .stoppedEarly _ limit
  · split
    · exact ends_presolved (.inl rfl) _
    · exact ends_presolved (.inr (.inr rfl)) _
    · rename_i limit _
      rw [presolved_limit]
      exact .stopped _ limit

end Simplex

/-! ## The interior-point method -/

namespace Interior

inductive Ends : ReturnCode → PointStatus → Option (Point K) → Prop
  | rejected : Ends .failed .undefined none
  | optimal (point : Point K) : Ends .ok .optimal (some point)
  | unbounded : Ends .noFeasible .unbounded none
  | noneFeasible : Ends .noFeasible .noneFeasible none
  | stalled : Ends .noConvergence .undefined none
  | unstable : Ends .unstable .undefined none
  | exhausted (point : Point K) : Ends .iterationLimit .undefined (some point)

theorem solveUnconstrained_ends (form : StandardForm K) (program : Program K)
    (equality : EqualityForm K) :
    Ends (solveUnconstrained form program equality).code
      (solveUnconstrained form program equality).status
      (solveUnconstrained form program equality).point := by
  unfold solveUnconstrained
  split
  · exact .unbounded
  · exact .optimal _

theorem Final.outcome_ends (form : StandardForm K) (program : Program K) (final : Final K) :
    Ends (final.outcome form program).code (final.outcome form program).status
      (final.outcome form program).point := by
  unfold Final.outcome
  dsimp only
  split
  · exact .optimal _
  · exact .unbounded
  · exact .noneFeasible
  · exact .stalled
  · exact .unstable
  · exact .exhausted _

theorem solve_ends (program : Program K) :
    Ends (solve program).code (solve program).status (solve program).point := by
  unfold solve
  split
  · exact .rejected
  dsimp only
  split
  · exact solveUnconstrained_ends _ _ _
  split
  · exact .unstable
  · exact Final.outcome_ends _ _ _

end Interior

end LinearProgramming
