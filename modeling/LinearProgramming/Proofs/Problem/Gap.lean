import LinearProgramming.Proofs.Problem.BranchCut

/-!
# The gap of a snapshot

A search compares its bound with what the optimum attains that became its incumbent.  A snapshot
compares the bound with the objective of the stored point, which is this optimum with its integer
columns rounded, and relative to another size.  So the gap of an optimal snapshot is the part of
the objective that the rounding moves, and that of a snapshot stopped at its gap may exceed the
configured one by this part and by the ratio of the two sizes.
-/

namespace LinearProgramming

variable {K : Type} [ExactScalar K]

namespace Search

variable {options : Options K} {relax : Nat → Program K → Outcome K} {program : Program K}
  {integer : List Nat} {steps : Nat} {clock : Clock} {result : Result K}

/-- A search that has looked at everything stops at what its incumbent is worth. -/
theorem bound_of_complete
    (found : searchTimed steps options clock relax program integer = some result)
    (ok : result.code = .ok) {best : Incumbent K} (isBest : result.incumbent = some best) :
    result.bound = .at best.objective := by
  obtain ⟨last, performs⟩ := exists_last_of_runTimed found
  cases performs with
  | complete =>
      change last.incumbent = some best at isBest
      simp only [State.complete, isBest]
  | late | close => cases ok

/-- A search that stops at its gap has an incumbent within the gap of its bound. -/
theorem bound_of_close (positive : 0 < (Scalar.epsilon : K))
    (found : searchTimed steps options clock relax program integer = some result)
    (reached : result.code = .gapReached) :
    ∃ best value, result.incumbent = some best ∧ result.bound = .at value ∧
      |best.objective - value| ≤ options.gap * (|best.objective| + Scalar.epsilon) := by
  obtain ⟨last, performs⟩ := exists_last_of_runTimed found
  cases performs with
  | complete | late => cases reached
  | close node rest selected closes =>
      unfold State.closesGap at closes
      split at closes
      · cases closes
      · rename_i best isBest
        change last.incumbent = some best at isBest
        -- The bound of the test and the one of the result are the least of the same bounds.
        have same : (State.stop { last with openNodes := rest ++ [node] } .gapReached).bound =
            bestBound rest node best.objective := by
          simp only [State.stop, isBest, bestBound, List.foldl_append, List.foldl_cons,
            List.foldl_nil]
          rw [Extended.foldl_smaller_eq rest Node.bound node.bound]
        rw [same]
        unfold gapReached at closes
        split at closes
        · rename_i value atValue
          have size : 0 < |best.objective| + Scalar.epsilon :=
            add_pos_of_nonneg_of_pos (abs_nonneg _) positive
          simp only [LawfulScalar.absolute_eq, Bool.and_eq_true, decide_eq_true_eq] at closes
          exact ⟨best, value, isBest, atValue, (div_le_iff₀ size).mp closes.1⟩
        · cases closes

end Search

/-! ## Stored bounds -/

theorem Direction.minimizingSign_mul_self (direction : Direction) :
    (direction.minimizingSign : K) * direction.minimizingSign = 1 := by
  cases direction <;> simp [minimizingSign]

theorem Direction.abs_minimizingSign_mul (direction : Direction) (value : K) :
    |direction.minimizingSign * value| = |value| := by
  cases direction <;> simp [minimizingSign]

theorem Direction.abs_minimizingSign_mul_sub (direction : Direction) (value other : K) :
    |direction.minimizingSign * value - other| = |direction.minimizingSign * other - value| := by
  cases direction with
  | minimize => simpa [minimizingSign] using abs_sub_comm value other
  | maximize => rw [minimizingSign, neg_one_mul, neg_one_mul, neg_sub_left, neg_sub_left, add_comm]

namespace Workspace

/-- The stored bound is that of the search, in the direction of the problem. -/
theorem bound_integerSolution (workspace : Workspace K) {result : Search.Result K} {value : K}
    (atValue : result.bound = .at value) :
    (workspace.integerSolution result).bound =
      .at (workspace.program.direction.minimizingSign * value) := by
  unfold integerSolution
  dsimp only
  cases workspace.program.direction <;> split <;>
    simp [atValue, Direction.minimizingSign, Extended.negate]

end Workspace

/-! ## Snapshots -/

namespace Problem

open Search Workspace

variable {problem : Problem K} {steps : Nat} {timing : Timing} {config : BranchCutConfig K}
  {report : Report} {record : SolveRecord} {workspace next : Workspace K}

theorem BranchCutEnds.exists_result
    (ended : BranchCutEnds steps timing config workspace report record next)
    (decided : report.status = .optimal ∨ report.limit = some .gap) :
    ∃ result, searchTimed steps config.toOptions timing.search
        (nodeRelaxation config.toOptions timing) workspace.program workspace.integerColumns =
          some result ∧
      report.status = (resultRecord result).status ∧
      report.limit = (resultRecord result).limit ∧ record = resultRecord result ∧
      next.integer = workspace.integerSolution result := by
  cases ended with
  | skipped relaxation judged notOptimal =>
      change (withoutSearch relaxation).status = .optimal ∨
        (withoutSearch relaxation).limit = some .gap at decided
      unfold withoutSearch at decided
      split at decided
      · simp at decided
      · simp at decided
      · -- No return code of the simplex method means that a gap was reached.
        obtain limited : relaxation.limit = some .gap := by simpa using decided
        have meant := limit_of_verdict judged limited
        generalize (workspace.simplexTimed timing.simplex
          config.relaxation.toOptions).2.code = code at meant
        cases code <;> cases meant
  | called relaxation record next run judged optimal call settled =>
      change record.status = .optimal ∨ record.limit = some .gap at decided
      cases call with
      | refused code status refuses =>
          obtain ⟨-, ⟨rfl, -⟩ | ⟨rfl, -⟩⟩ := record_of_refuse refuses settled <;>
            simp at decided
      | searched result admits found =>
          obtain rfl := record_of_result (code_of_searchTimed found) rfl settled
          exact ⟨result, found, rfl, rfl, rfl, rfl⟩

theorem relativeGap_eq (incumbent bound : K) :
    relativeGap incumbent bound = |bound - incumbent| / max |incumbent| Scalar.epsilon := by
  simp [relativeGap]

/-- The incumbent of a result, with the point that it rounds and the bound that is stored. -/
theorem exists_rounded {options : Search.Options K} (positive : 0 < (Scalar.epsilon : K))
    {result : Search.Result K}
    (found : searchTimed steps options timing.search (nodeRelaxation options timing)
      workspace.program workspace.integerColumns = some result)
    (decided : (resultRecord result).status = .optimal ∨
      (resultRecord result).limit = some .gap) :
    ∃ best point bound, result.incumbent = some best ∧
      best.Rounds options workspace.program workspace.integerColumns point ∧
      (workspace.integerSolution result).bound = .at bound ∧
      ((resultRecord result).status = .optimal → bound = workspace.program.objective point) ∧
      ((resultRecord result).limit = some .gap →
        |bound - workspace.program.objective point| ≤
          options.gap * (|workspace.program.objective point| + Scalar.epsilon)) := by
  have rounding := rounds_of_runTimed
    (fun _ _ _ attains => objective_of_nodeRelaxation attains) rfl found
  rcases decided with optimal | limited
  · obtain ⟨ok, best, isBest⟩ := exists_incumbent_of_optimal optimal
    obtain ⟨point, rounds⟩ := rounding best isBest
    have stored := workspace.bound_integerSolution (bound_of_complete found ok isBest)
    rw [rounds.objective, Program.minimized, ← mul_assoc, Direction.minimizingSign_mul_self,
      one_mul] at stored
    refine ⟨best, point, _, isBest, rounds, stored, fun _ => rfl, fun limited => ?_⟩
    cases ok.symm.trans (code_of_gap limited)
  · have reached := code_of_gap limited
    obtain ⟨best, value, isBest, atValue, close⟩ := bound_of_close positive found reached
    obtain ⟨point, rounds⟩ := rounding best isBest
    refine ⟨best, point, _, isBest, rounds, workspace.bound_integerSolution atValue,
      fun optimal => ?_, fun _ => ?_⟩
    · cases reached.symm.trans (exists_incumbent_of_optimal optimal).1
    · rw [rounds.objective, Program.minimized, Direction.abs_minimizingSign_mul] at close
      rw [Direction.abs_minimizingSign_mul_sub]
      exact close

end Problem

open Problem Search Workspace

/-- After every history, a branch and cut that reports an optimum or a reached gap leaves a
snapshot whose point is the optimum of a relaxation with its integer columns rounded.  The gap of
an optimal snapshot is what lies between the objectives of these two points, relative to that of
the snapshot; a gap that was reached may exceed the configured one by this part, and by the ratio
of the sizes that the two gaps are relative to. -/
theorem History.gap_of_snapshot {events : List (Event K)} {problem : Problem K}
    (history : History events problem) (positive : 0 < (Scalar.epsilon : K)) {steps : Nat}
    {timing : Timing} {config : BranchCutConfig K} {solved : Solve K} {report : Report}
    (ends : solveTimed steps problem timing (.branchCut config) = some solved)
    (reported : solved.answer = .ok report)
    (decided : report.status = .optimal ∨ report.limit = some .gap) :
    ∃ (snapshot : Solution K) (point : List K) (gap : K),
      Solution.extract solved.problem .branchCut = .ok snapshot ∧ snapshot.gap = some gap ∧
      snapshot.columnPrimal = roundColumns problem.workspace.integerColumns point ∧
      snapshot.objective = problem.workspace.program.objective snapshot.columnPrimal ∧
      |snapshot.objective - problem.workspace.program.objective point| ≤
        config.toOptions.rounding *
          integerWeight problem.workspace.integerColumns problem.workspace.program.costCells ∧
      (report.status = .optimal →
        gap = |problem.workspace.program.objective point - snapshot.objective| /
          max |snapshot.objective| Scalar.epsilon) ∧
      (report.limit = some .gap →
        gap ≤ (|problem.workspace.program.objective point - snapshot.objective| +
            config.gap * (|problem.workspace.program.objective point| + Scalar.epsilon)) /
          max |snapshot.objective| Scalar.epsilon) := by
  obtain ⟨-, -, record, ended, recorded⟩ := branchCutEnds_of_solveTimed ends reported
  have wellFormed := solveTimed_wellFormed history.wellFormed ends
  obtain ⟨result, found, status, limit, rfl, stored⟩ := ended.exists_result decided
  rw [status, limit] at decided ⊢
  obtain ⟨best, point, bound, isBest, rounds, atBound, optimal, limited⟩ :=
    exists_rounded positive found decided
  have told : (resultRecord result).status.hasSolution = true := by
    rw [hasSolution_resultRecord, isBest]
    rfl
  have objective : (problem.workspace.integerSolution result).objective =
      problem.workspace.program.objective best.point := by
    simp only [integerSolution, isBest]
  have columnValues : (problem.workspace.integerSolution result).columnValues = best.point := by
    simp only [integerSolution, isBest]
  have extracted := extract_branchCut wellFormed recorded
  rw [stored] at extracted
  refine ⟨_, point, _, extracted, if_pos told, ?_⟩
  simp only [Solution.ofStored, objective, columnValues, atBound, Extended.toScalar,
    relativeGap_eq]
  refine ⟨rounds.rounded, trivial, rounds.abs_objective_sub_le, fun isOptimal => ?_,
    fun isLimited => ?_⟩
  · rw [optimal isOptimal]
  · apply div_le_div_of_nonneg_right _ (le_max_of_le_left (abs_nonneg _))
    have near := limited isLimited
    have apart := abs_sub_le bound (problem.workspace.program.objective point)
      (problem.workspace.program.objective best.point)
    change _ ≤ _ + config.toOptions.gap * _
    linarith

namespace Problem

/-- An integer column whose greatest value in the relaxation is a millionth. -/
def trickle : Problem ℚ :=
  { (empty : Problem ℚ) with
    workspace :=
      { (.empty : Workspace ℚ) with
        direction := .maximize
        rows := [⟨none, .upper 1, .ofCells [(0, 1000000)]⟩]
        columns := [⟨none, true, .lower 0, 1⟩]
        basic := .none 1 1
        interior := .none 1 1
        integer := .none 1 1 } }

theorem exists_history_trickle : ∃ events, History events trickle :=
  ⟨_, .returned (.edit (.setRowCoefficients 1 [1] [1000000]))
    (.returned (.edit (.setRowBounds 1 .upper 0 1))
      (.returned (.edit (.setObjectiveCoefficient 1 1))
        (.returned (.edit (.setDirection .maximize))
          (.returned (.edit (.setColumnBounds 1 .lower 0 0))
            (.returned (.edit (.setColumnKind 1 .integer))
              (.returned (.edit (.addColumns 1))
                (.returned (.edit (.addRows 1)) .create rfl) rfl) rfl) rfl) rfl) rfl) rfl)
    (by rfl)⟩

theorem exists_snapshot_trickle :
    ∃ report snapshot,
      branchCutSnapshot 5 trickle .still .standard = some (report, snapshot) ∧
      report.status = .optimal ∧ snapshot.gap = some (2 ^ 52 / 10 ^ 6) := by
  have computed : (branchCutSnapshot 5 trickle .still .standard).map (fun seen =>
      (seen.1.status, seen.2.gap)) = some (.optimal, some (2 ^ 52 / 10 ^ 6)) := by
    decide +kernel
  obtain ⟨⟨report, snapshot⟩, found, same⟩ := Option.map_eq_some_iff.mp computed
  obtain ⟨status, gap⟩ := Prod.mk.inj same
  exact ⟨report, snapshot, found, status, gap⟩

theorem gap_of_snapshot_trickle :
    ∃ (solved : Solve ℚ) (report : Report) (snapshot : Solution ℚ) (point : List ℚ),
      (∃ events, History events trickle) ∧ 0 < (Scalar.epsilon : ℚ) ∧
      solveTimed 5 trickle .still (.branchCut .standard) = some solved ∧
      solved.answer = .ok report ∧ report.status = .optimal ∧
      Solution.extract solved.problem .branchCut = .ok snapshot ∧
      snapshot.gap = some (|trickle.workspace.program.objective point - snapshot.objective| /
        max |snapshot.objective| Scalar.epsilon) := by
  have positive : 0 < (Scalar.epsilon : ℚ) := by decide +kernel
  obtain ⟨events, history⟩ := exists_history_trickle
  obtain ⟨report, _, found, status, -⟩ := exists_snapshot_trickle
  obtain ⟨solved, ends, reported, -⟩ := branchCutSnapshot_eq_some_iff.mp found
  obtain ⟨snapshot, point, gap, extracted, shown, -, -, -, optimal, -⟩ :=
    history.gap_of_snapshot positive ends reported (.inl status)
  exact ⟨solved, report, snapshot, point, ⟨events, history⟩, positive, ends, reported, status,
    extracted, shown.trans (congrArg some (optimal status))⟩

/-- A snapshot of an optimum whose gap is not zero. -/
theorem optimal_with_gap :
    ∃ (problem : Problem ℚ) (config : BranchCutConfig ℚ) (report : Report)
      (snapshot : Solution ℚ),
      (∃ events, History events problem) ∧ config.validate = .ok () ∧
      branchCutSnapshot 5 problem .still config = some (report, snapshot) ∧
      report.status = .optimal ∧ snapshot.gap ≠ some 0 := by
  obtain ⟨report, snapshot, found, status, gap⟩ := exists_snapshot_trickle
  refine ⟨trickle, .standard, report, snapshot, exists_history_trickle,
    Except.eq_ok (by decide +kernel), found, status, ?_⟩
  rw [gap]
  decide +kernel

end Problem

end LinearProgramming
