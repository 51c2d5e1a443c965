import Mathlib.Order.WellFounded
import LinearProgramming.Proofs.Simplex.Bland
import LinearProgramming.Proofs.Simplex.Soundness
import LinearProgramming.Proofs.Endings
import LinearProgramming.Proofs.InTime

/-!
# The simplex method ends

With exact comparisons no pricing rule and no ratio test chooses pivots forever.  The objective
never gets worse, and it takes finitely many values, one for each basis; so from some time on all
pivots are in rows at zero.  Then Bland's rule takes over, and it does not cycle.  Hence both
phases end, and a run that may make enough pivots in enough time is the same for all such limits.
-/

namespace LinearProgramming.Simplex

variable {K : Type} [ExactScalar K]

/-! ## No endless sequence of pivots -/

namespace Endless

variable {options : Options K} {columns : Nat} (endless : Endless options columns)
  {start : Tableau K} {goal : Equation K} (zero : options.ZeroTolerances)
  (basis : FeasibleBasis start goal (endless.tableau 0))

include zero basis

/-- A pivot raises the value of the objective, which is minus the right-hand side, unless it is
in a row at zero. -/
theorem rhs_objective_next (time : Nat) :
    (endless.tableau (time + 1)).objective.rhs ≤ (endless.tableau time).objective.rhs ∧
      ((endless.tableau time).objective.rhs ≤ (endless.tableau (time + 1)).objective.rhs →
        endless.DegenerateAt time) := by
  obtain ⟨chosen, improves⟩ := endless.exists_improves zero basis time
  have level := (endless.feasibleBasis zero basis time).nonnegative chosen
    (List.mem_of_getElem? improves.found)
  rw [tableau_next, improves.rhs_objective_pivot]
  constructor
  · have gain := mul_nonneg improves.improving.le (div_nonneg level improves.positive.le)
    linarith
  · intro stays current found
    obtain rfl : chosen = current := Option.some.inj (improves.found.symm.trans found)
    by_contra nonzero
    have gain := mul_pos improves.improving
      (div_pos (level.lt_of_ne (Ne.symm nonzero)) improves.positive)
    linarith

theorem antitone_rhs_objective :
    Antitone fun time => (endless.tableau time).objective.rhs :=
  antitone_nat_of_succ_le fun time => (endless.rhs_objective_next zero basis time).1

theorem finite_rhs_objective :
    (Set.range fun time => (endless.tableau time).objective.rhs).Finite := by
  have determined : Function.FactorsThrough (fun time => (endless.tableau time).objective.rhs)
      fun time => (endless.tableau time).basis :=
    fun first second same => (endless.feasibleBasis zero basis first).rhs_objective_eq
      (endless.feasibleBasis zero basis second) same
  obtain ⟨value, factors⟩ := (Function.factorsThrough_iff _).mp determined
  have bases : (Set.range fun time => (endless.tableau time).basis).Finite := by
    apply (Finset.range start.columns).powerset.finite_toSet.subset
    rintro - ⟨time, rfl⟩
    rw [Finset.mem_coe, Finset.mem_powerset,
      ← (endless.feasibleBasis zero basis time).equivalent.columns_eq]
    exact (endless.feasibleBasis zero basis time).toCanonical.basis_subset
  rw [factors, Set.range_comp]
  exact bases.image value

theorem exists_degenerate : ∃ start, ∀ time, (endless.drop start).DegenerateAt time := by
  obtain ⟨-, ⟨start, rfl⟩, least⟩ := Set.exists_min_image _ id
    (endless.finite_rhs_objective zero basis) (Set.range_nonempty _)
  refine ⟨start, fun time => (endless.rhs_objective_next zero basis (start + time)).2 ?_⟩
  exact (endless.antitone_rhs_objective zero basis (Nat.le_add_right start time)).trans
    (least _ ⟨_, rfl⟩)

/-- Bland's rule takes over in a sequence of pivots in rows at zero. -/
theorem bland_of_degenerate (degenerate : ∀ time, endless.DegenerateAt time) (time : Nat) :
    (endless.progress (degenerateStreak + time)).bland = true := by
  have counted : ∀ time, time ≤ (endless.progress time).degenerate := by
    intro time
    induction time with
    | zero => exact Nat.zero_le _
    | succ time inductionHypothesis =>
        obtain ⟨chosen, improves⟩ := endless.exists_improves zero basis time
        have found : (endless.progress time).tableau.rows[endless.row time]? = some chosen :=
          improves.found
        have level : isDegenerate options (endless.progress time).tableau
            (endless.row time) = true := by
          simp [isDegenerate, found, degenerate time chosen found, zero.bound]
        rw [endless.next, Progress.step, if_pos level]
        exact Nat.succ_le_succ inductionHypothesis
  exact decide_eq_true ((Nat.le_add_right _ _).trans (counted _))

end Endless

/-- From a feasible basis no rule chooses pivots forever. -/
theorem FeasibleBasis.not_endless {start : Tableau K} {goal : Equation K} {options : Options K}
    (zero : options.ZeroTolerances) {columns : Nat} (endless : Endless options columns)
    (basis : FeasibleBasis start goal (endless.tableau 0)) : False := by
  obtain ⟨time, degenerate⟩ := endless.exists_degenerate zero basis
  have late := (endless.drop time).bland_of_degenerate zero
    (endless.feasibleBasis zero basis time) degenerate
  exact ((endless.drop time).drop degenerateStreak).not_bland zero
    (endless.feasibleBasis zero basis (time + degenerateStreak))
    (fun later => degenerate (degenerateStreak + later)) late

def Follows (options : Options K) (columns : Nat) (next progress : Progress K) : Prop :=
  ∃ row column, Chosen options progress columns row column ∧
    next = progress.step options row column

theorem FeasibleBasis.acc {start : Tableau K} {goal : Equation K} {options : Options K}
    (zero : options.ZeroTolerances) (columns : Nat) {progress : Progress K}
    (basis : FeasibleBasis start goal progress.tableau) :
    Acc (Follows options columns) progress := by
  refine acc_iff_isEmpty_descending_chain.mpr ⟨?_⟩
  rintro ⟨sequence, rfl, follows⟩
  choose row column chosen next using follows
  exact FeasibleBasis.not_endless zero ⟨sequence, row, column, chosen, next⟩ basis

/-! ## Loops without limits -/

def Options.within (options : Options K) (iterations time : Int) : Options K :=
  { options with iterationLimit := iterations, timeLimit := time }

section Rounds

variable {options : Options K} {iterations time : Int} {clock : Clock} {columns : Nat}
  {watch : Tableau K → Option Limit} (below : clock.Below time) (remaining : Nat)
  {progress : Progress K}

omit [ExactScalar K] in
theorem outOfTime_within (below : clock.Below time) (options : Options K) (reading : Nat) :
    (options.within iterations time).outOfTime (clock reading) = false :=
  Options.outOfTime_of_below below reading

theorem enteringColumn_within (bland : Bool) (tableau : Tableau K) (limit : Nat) :
    enteringColumn (options.within iterations time) bland tableau limit =
      enteringColumn options bland tableau limit :=
  rfl

theorem leavingRow_within (bland : Bool) (tableau : Tableau K) (column : Nat) :
    leavingRow (options.within iterations time) bland tableau column =
      leavingRow options bland tableau column :=
  rfl

theorem step_within (row column : Nat) :
    progress.step (options.within iterations time) row column =
      progress.step options row column :=
  rfl

include below

theorem improve_of_no_column
    (missing : enteringColumn options progress.bland progress.tableau columns = none) :
    improve (options.within iterations time) clock columns watch (remaining + 1) progress =
      (progress, .optimal) := by
  simp only [improve, outOfTime_within below, Bool.false_eq_true, if_false,
    enteringColumn_within, missing]

theorem improve_of_no_row {column : Nat}
    (entering : enteringColumn options progress.bland progress.tableau columns = some column)
    (missing : leavingRow options progress.bland progress.tableau column = none) :
    improve (options.within iterations time) clock columns watch (remaining + 1) progress =
      (progress, .unbounded) := by
  simp only [improve, outOfTime_within below, Bool.false_eq_true, if_false,
    enteringColumn_within, entering, leavingRow_within, missing]

variable {row column : Nat} (choice : Chosen options progress columns row column)

include choice

theorem improve_of_watched {limit : Limit}
    (watched : watch (progress.step options row column).tableau = some limit) :
    improve (options.within iterations time) clock columns watch (remaining + 1) progress =
      (progress.step options row column, .stopped limit) := by
  simp only [improve, outOfTime_within below, Bool.false_eq_true, if_false,
    enteringColumn_within, choice.entering, leavingRow_within, choice.leaving, step_within, watched]

theorem improve_of_unwatched
    (unwatched : watch (progress.step options row column).tableau = none) :
    improve (options.within iterations time) clock columns watch (remaining + 1) progress =
      improve (options.within iterations time) clock columns watch remaining
        (progress.step options row column) := by
  simp only [improve, outOfTime_within below, Bool.false_eq_true, if_false,
    enteringColumn_within, choice.entering, leavingRow_within, choice.leaving, step_within,
    unwatched]

end Rounds

/-- All runs of a loop that may make enough pivots in enough time end alike, and only the watch
stops them. -/
structure Settles (options : Options K) (columns : Nat) (watch : Tableau K → Option Limit)
    (progress : Progress K) (bound : Nat) (result : Progress K × Ending) : Prop where
  improve_eq : ∀ {iterations time : Int} {clock : Clock} {remaining : Nat}, clock.Below time →
    bound ≤ remaining →
      improve (options.within iterations time) clock columns watch remaining progress = result
  watched : ∀ limit, result.2 = .stopped limit → watch result.1.tableau = some limit
  pivots_le : result.1.pivots ≤ progress.pivots + bound

variable {options : Options K} {columns : Nat} {watch : Tableau K → Option Limit}
  {progress : Progress K}

theorem Settles.of_round {result : Progress K × Ending}
    (round : ∀ {iterations time : Int} {clock : Clock}, clock.Below time → ∀ remaining,
      improve (options.within iterations time) clock columns watch (remaining + 1) progress =
        result)
    (watched : ∀ limit, result.2 = .stopped limit → watch result.1.tableau = some limit)
    (pivots : result.1.pivots ≤ progress.pivots + 1) :
    Settles options columns watch progress 1 result where
  improve_eq := by
    intro iterations time clock remaining below enough
    obtain ⟨rest, rfl⟩ := Nat.exists_eq_add_of_le' enough
    exact round below rest
  watched := watched
  pivots_le := pivots

theorem Settles.step {row column bound : Nat} {result : Progress K × Ending}
    (choice : Chosen options progress columns row column)
    (unwatched : watch (progress.step options row column).tableau = none)
    (settles : Settles options columns watch (progress.step options row column) bound result) :
    Settles options columns watch progress (bound + 1) result where
  improve_eq := by
    intro iterations time clock remaining below enough
    obtain ⟨rest, rfl⟩ := Nat.exists_eq_add_of_le' enough
    exact (improve_of_unwatched below (rest + bound) choice unwatched).trans
      (settles.improve_eq below (Nat.le_add_left _ _))
  watched := settles.watched
  pivots_le := by
    have counted := settles.pivots_le
    change result.1.pivots ≤ progress.pivots + 1 + bound at counted
    omega

/-- A loop that pivots through no endless sequence settles. -/
theorem exists_settles (accessible : Acc (Follows options columns) progress)
    (watch : Tableau K → Option Limit) :
    ∃ bound result, Settles options columns watch progress bound result := by
  -- Every round is the last one but for a pivot that nothing is watched at.
  induction accessible with
  | intro progress _ inductionHypothesis =>
      cases entering : enteringColumn options progress.bland progress.tableau columns with
      | none =>
          refine ⟨1, (progress, .optimal), .of_round
            (fun below remaining => improve_of_no_column below remaining entering) ?_
            (Nat.le_succ _)⟩
          rintro limit ⟨⟩
      | some column =>
          cases leaving : leavingRow options progress.bland progress.tableau column with
          | none =>
              refine ⟨1, (progress, .unbounded), .of_round
                (fun below remaining => improve_of_no_row below remaining entering leaving) ?_
                (Nat.le_succ _)⟩
              rintro limit ⟨⟩
          | some row =>
              have choice : Chosen options progress columns row column := ⟨entering, leaving⟩
              cases watched : watch (progress.step options row column).tableau with
              | none =>
                  obtain ⟨bound, result, settles⟩ :=
                    inductionHypothesis _ ⟨row, column, choice, rfl⟩
                  exact ⟨bound + 1, result, settles.step choice watched⟩
              | some limit =>
                  refine ⟨1, (progress.step options row column, .stopped limit), .of_round
                    (fun below remaining => improve_of_watched below remaining choice watched)
                    ?_ le_rfl⟩
                  intro other same
                  obtain rfl : limit = other := Ending.stopped.inj same
                  exact watched

/-! ## Runs without limits -/

section Phases

variable {start : Tableau K}

theorem Options.ZeroTolerances.within (zero : options.ZeroTolerances) (iterations time : Int) :
    (options.within iterations time).ZeroTolerances :=
  ⟨zero.bound, zero.reducedCost, zero.pivot⟩

/-- Phase one is the same under all limits that suffice for its loop, and none stops it. -/
theorem exists_findBasis_eq
    (accessible : Acc (Follows options start.columns) (phaseOneStart start)) :
    ∃ (bound : Nat) (result : Progress K × PhaseOneEnding),
      (∀ {iterations time : Int} {clock : Clock}, clock.Below time → bound ≤ iterations →
        findBasis (options.within iterations time) clock start = result) ∧
      (∀ limit, result.2 ≠ .stopped limit) ∧ result.1.pivots ≤ bound := by
  by_cases without : start.artificials = 0
  · refine ⟨0, (⟨start, 0, 0⟩, .feasible), fun _ _ => if_pos without, ?_, le_rfl⟩
    rintro limit ⟨⟩
  · obtain ⟨bound, ⟨final, ending⟩, settles⟩ := exists_settles accessible fun _ => none
    have finished : ∀ limit, ending ≠ .stopped limit := by
      intro limit stopped
      cases settles.watched limit stopped
    have counted : final.pivots ≤ bound := (Nat.zero_add bound).subst settles.pivots_le
    have runs {iterations time : Int} {clock : Clock} (below : clock.Below time)
        (enough : bound ≤ iterations) :
        improve (options.within iterations time) clock start.columns (fun _ => none)
          (options.within iterations time).pivotLimit (phaseOneStart start) = (final, ending) :=
      settles.improve_eq below (Int.ofNat_le.mp (enough.trans (Int.self_le_toNat iterations)))
    have standing := runs (Clock.still_below one_pos) le_rfl
    refine ⟨bound, phaseOne (options.within bound 1) .still start, ?_, ?_, ?_⟩
    · intro iterations time clock below enough
      exact (if_neg without).trans ((phaseOne_eq clock (runs below enough) finished).trans
        (phaseOne_eq .still standing finished).symm)
    · intro limit
      rw [phaseOne_eq .still standing finished]
      split <;> rintro ⟨⟩
    · rw [phaseOne_eq .still standing finished]
      split <;> exact counted

theorem phaseTwo_eq_of_settles {program : Program K} {form : StandardForm K} {bound : Nat}
    {result : Progress K × Ending}
    (settles : Settles options progress.tableau.artificialStart (passedLimit options program form)
      progress bound result)
    {iterations time : Int} {clock : Clock} (below : clock.Below time)
    (enough : (progress.pivots + bound : Nat) ≤ iterations) :
    phaseTwo (options.within iterations time) clock program form progress = result := by
  have remaining : bound ≤ iterations.toNat - progress.pivots := by omega
  exact settles.improve_eq below.next remaining

end Phases

def Unlimited (code : ReturnCode) : Prop :=
  code ≠ .iterationLimit ∧ code ≠ .timeLimit

instance (code : ReturnCode) : Decidable (Unlimited code) :=
  inferInstanceAs (Decidable (code ≠ .iterationLimit ∧ code ≠ .timeLimit))

theorem unlimited_finish {code : ReturnCode} (unlimited : Unlimited code) (program : Program K)
    (form : StandardForm K) (pivots : Nat) (progress : Progress K) (status : PointStatus) :
    Unlimited (finish options program form pivots progress code status).code := by
  dsimp only [finish, presolved]
  split
  · exact (by decide : Unlimited .noPrimalFeasible)
  · exact (by decide : Unlimited .noDualFeasible)
  · exact unlimited

theorem unlimited_of_passedLimit {program : Program K} {form : StandardForm K}
    {tableau : Tableau K} {limit : Limit}
    (passed : passedLimit options program form tableau = some limit) :
    Unlimited limit.returnCode := by
  unfold passedLimit at passed
  split at passed
  · dsimp only at passed
    split at passed <;> split at passed <;> cases passed <;> decide
  · cases passed

def Ending.verdict : Ending → ReturnCode × PointStatus
  | optimal => (.ok, .optimal)
  | unbounded => (.ok, .unbounded)
  | stopped limit => (limit.returnCode, .feasible)

section Solve

variable {program : Program K} (nonempty : ¬ program.columns.isEmpty = true)
  (consistent : ¬ (!program.boundsConsistent) = true) {clock : Clock}

include nonempty consistent

theorem solve_of_infeasible
    (found : findBasis options clock (startOf program) = (progress, .infeasible)) :
    solve options clock program =
      finish options program (.ofProgram program) progress.pivots progress .ok .noneFeasible := by
  rw [startOf] at found
  simp only [solve, if_neg nonempty, if_neg consistent, found]

theorem solve_of_feasible {final : Progress K} {ending : Ending}
    (found : findBasis options clock (startOf program) = (progress, .feasible))
    (continued : phaseTwo options clock program (.ofProgram program) progress = (final, ending)) :
    solve options clock program =
      finish options program (.ofProgram program) progress.pivots final ending.verdict.1
        ending.verdict.2 := by
  rw [startOf] at found
  cases ending <;>
    simp only [solve, if_neg nonempty, if_neg consistent, found, continued, Ending.verdict]

end Solve

/-- Both loops end, and the run is the same under all limits that suffice for them, unless a
limit of the objective stops it before. -/
structure Terminates (options : Options K) (program : Program K) : Prop where
  phaseOne : Acc (Follows options (startOf program).columns) (phaseOneStart (startOf program))
  phaseTwo : ∀ {iterations time : Int} {clock : Clock} {progress : Progress K},
    findBasis (options.within iterations time) clock (startOf program) = (progress, .feasible) →
      Acc (Follows options progress.tableau.artificialStart) progress
  unlimited : ∃ (bound : Nat) (run : Run K),
    (∀ {iterations time : Int} {clock : Clock}, clock.Below time → bound ≤ iterations →
      solve (options.within iterations time) clock program = run) ∧
    Unlimited run.code ∧ run.iterations ≤ bound

section Solve

variable {program : Program K}

theorem exists_solve_eq
    (phaseOne : Acc (Follows options (startOf program).columns) (phaseOneStart (startOf program)))
    (phaseTwo : ∀ {iterations time : Int} {clock : Clock} {progress : Progress K},
      findBasis (options.within iterations time) clock (startOf program) = (progress, .feasible) →
        Acc (Follows options progress.tableau.artificialStart) progress) :
    ∃ (bound : Nat) (run : Run K),
      (∀ {iterations time : Int} {clock : Clock}, clock.Below time → bound ≤ iterations →
        solve (options.within iterations time) clock program = run) ∧
      Unlimited run.code ∧ run.iterations ≤ bound := by
  by_cases nonempty : program.columns.isEmpty = true
  · exact ⟨0, reject .failed, fun _ _ => if_pos nonempty, (by decide : Unlimited .failed), le_rfl⟩
  by_cases consistent : (!program.boundsConsistent) = true
  · exact ⟨0, reject .incorrectBounds, fun _ _ => (if_neg nonempty).trans (if_pos consistent),
      (by decide : Unlimited .incorrectBounds), le_rfl⟩
  obtain ⟨first, ⟨progress, ending⟩, found, finished, counted⟩ := exists_findBasis_eq phaseOne
  cases ending with
  | stopped limit => exact absurd rfl (finished limit)
  | infeasible =>
      refine ⟨first, finish options program (.ofProgram program) progress.pivots progress .ok
        .noneFeasible, ?_, unlimited_finish (by decide) _ _ _ _ _, counted⟩
      intro iterations time clock below enough
      exact solve_of_infeasible nonempty consistent (found below enough)
  | feasible =>
      have accessible := phaseTwo (found (Clock.still_below one_pos) le_rfl)
      obtain ⟨second, ⟨final, ending⟩, settles⟩ :=
        exists_settles accessible (passedLimit options program (.ofProgram program))
      have total : final.pivots ≤ first + second :=
        settles.pivots_le.trans (Nat.add_le_add_right counted second)
      have unlimited : Unlimited ending.verdict.1 := by
        cases ending with
        | stopped limit => exact unlimited_of_passedLimit (settles.watched limit rfl)
        | _ => exact (by decide : Unlimited .ok)
      refine ⟨first + second, finish options program (.ofProgram program) progress.pivots final
        ending.verdict.1 ending.verdict.2, ?_, unlimited_finish unlimited _ _ _ _ _, total⟩
      intro iterations time clock below enough
      change progress.pivots ≤ first at counted
      exact solve_of_feasible nonempty consistent (found below (by omega))
        (phaseTwo_eq_of_settles settles below (by omega))

/-- With exact comparisons every run ends, whatever its rules of pricing and its ratio test. -/
theorem solve_terminates (priced : program.cost.length = program.columns.length)
    (zero : options.ZeroTolerances) : Terminates options program := by
  have startBasis := feasibleBasis_artificialObjective (canonical_startOf priced)
    (Tableau.nonNegative_ofStandardForm _)
  have phaseOne : Acc (Follows options (startOf program).columns)
      (phaseOneStart (startOf program)) :=
    FeasibleBasis.acc zero _ startBasis
  have phaseTwo {iterations time : Int} {clock : Clock} {progress : Progress K}
      (found : findBasis (options.within iterations time) clock (startOf program) =
        (progress, .feasible)) :
      Acc (Follows options progress.tableau.artificialStart) progress :=
    FeasibleBasis.acc zero _
      (findBasis_feasible priced (zero.within iterations time) found).toFeasibleBasis
  exact ⟨phaseOne, phaseTwo, exists_solve_eq phaseOne phaseTwo⟩

theorem solve_terminates_blend :
    Program.blend.cost.length = Program.blend.columns.length ∧
      (Options.exact : Options ℚ).ZeroTolerances ∧ Terminates Options.exact Program.blend :=
  ⟨rfl, Options.zeroTolerances_exact, solve_terminates rfl Options.zeroTolerances_exact⟩

end Solve

end LinearProgramming.Simplex
