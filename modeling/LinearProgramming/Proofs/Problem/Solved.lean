import LinearProgramming.Proofs.Problem.Checks
import LinearProgramming.Problem.Solve

/-!
# Solves in steps

What a solve does to a problem, write by write: it forgets the records, enters the solvers one
after the other, records what each of them found, and at the end either is solved or forgets
again.  A solve leaves the data as they were, refuses only with an error that tells why, and
leaves the records of a successful solve or none.
-/

namespace LinearProgramming

variable {K : Type} [Scalar K]

namespace Problem

open Stop Stepwise

/-! ## The steps of a solve -/

/-- The record that a return code and a stored status amount to. -/
def verdict (algorithm : Algorithm) (table : ReturnCode → Option (Meaning K)) (code : ReturnCode)
    (status : PointStatus) : Except (Failure K) SolveRecord := do
  settle (← interpret algorithm table code) status.code

/-- One run of a solver, and the record of what it found. -/
def solverSteps {R : Type} (algorithm : Algorithm) (table : ReturnCode → Option (Meaning K))
    (code : R → ReturnCode) (status : Workspace K → PointStatus)
    (call : Stepwise Halt (Workspace K) R) : Stepwise (Stop K) (Problem K) SolveRecord := do
  let run ← enter call
  let record ← inspect fun problem =>
    lift (verdict algorithm table (code run) (status problem.workspace))
  Stepwise.change fun problem => problem.setRecord algorithm record
  pure record

def simplexSteps (clock : Clock) (config : SimplexConfig K) :
    Stepwise (Stop K) (Problem K) SolveRecord :=
  solverSteps .simplex simplexMeaning (·.code) (·.basic.status)
    (Workspace.simplexSteps clock config.toOptions)

def interiorSteps : Stepwise (Stop K) (Problem K) SolveRecord :=
  solverSteps .interiorPoint interiorMeaning (·.code) (·.interior.status) Workspace.interiorSteps

def searchSteps (steps : Nat) (timing : Timing) (config : BranchCutConfig K) :
    Stepwise (Stop K) (Problem K) SolveRecord :=
  solverSteps .branchCut searchMeaning (·.code) (·.integer.status)
    (Workspace.integerSteps steps timing config.toOptions)

def branchCutReport (relaxation record : SolveRecord) (searchRan : Bool) : Report where
  algorithm := .branchCut
  status := record.status
  limit := record.limit
  relaxation := some relaxation.status
  searchRan

def branchCutSteps (steps : Nat) (timing : Timing) (config : BranchCutConfig K) :
    Stepwise (Stop K) (Problem K) Report := do
  let relaxation ← simplexSteps timing.simplex config.relaxation
  if relaxation.status = .optimal then
    let record ← searchSteps steps timing config
    pure (branchCutReport relaxation record true)
  else
    Stepwise.change fun problem => problem.setRecord .branchCut (withoutSearch relaxation)
    pure (branchCutReport relaxation (withoutSearch relaxation) false)

def checkIntegers (problem : Problem K) : Except (Stop K) Unit :=
  if problem.integerColumnCount = 0 then throw (.error .noIntegerColumns) else pure ()

def configuredSteps (steps : Nat) (timing : Timing) :
    SolverConfig K → Stepwise (Stop K) (Problem K) Report
  | .simplex config => do
      let record ← simplexSteps timing.simplex config
      pure (reportOf .simplex record)
  | .interior _ => do
      let record ← interiorSteps
      pure (reportOf .interiorPoint record)
  | .branchCut config => do
      inspect checkIntegers
      branchCutSteps steps timing config

/-- What follows a solver: a report leaves the problem solved, an error unsolved.  Nothing
follows a call that halts. -/
def conclusion : EStateM.Result (Stop K) (Problem K) Report →
    EStateM.Result (Stop K) (Problem K) Report
  | .ok report problem => .ok report { problem with state := .solved report.status }
  | .error (.error refusal) problem => .error (.error refusal) problem.forget
  | .error (.halt halted) problem => .error (.halt halted) problem
  | .error (.inexact number) problem => .error (.inexact number) problem

def concluded (solver : Stepwise (Stop K) (Problem K) Report) :
    Stepwise (Stop K) (Problem K) Report := fun problem => conclusion (solver.run problem)

def accept (config : SolverConfig K) : Except (Failure K) Unit :=
  config.validate.mapError fun error => .error (.config error)

def solveSteps (steps : Nat) (timing : Timing) (config : SolverConfig K) :
    Stepwise (Stop K) (Problem K) Report := do
  inspect fun _ => lift (accept config)
  Stepwise.change begin
  concluded (configuredSteps steps timing config)

/-! ## Steps and definition -/

/-- How an operation ends of which the definition gives a problem and a result.  One that is
not over after its steps leaves behind what it has done by then. -/
def answered {A : Type} (interrupted : Problem K) :
    Option (Problem K × Except (Failure K) A) → EStateM.Result (Stop K) (Problem K) A
  | none => .error (.halt .unfinished) interrupted
  | some (next, .ok value) => .ok value next
  | some (next, .error failure) => .error (ofFailure failure) next

variable {problem : Problem K}

omit [Scalar K] in
theorem eq_of_answered_ok {A : Type} {interrupted next : Problem K}
    {result : Option (Problem K × Except (Failure K) A)} {value : A}
    (ends : answered interrupted result = .ok value next) : result = some (next, .ok value) := by
  rcases result with _ | ⟨after, failure | value⟩ <;> cases ends
  rfl

omit [Scalar K] in
theorem eq_of_answered_error {A : Type} {interrupted next : Problem K}
    {result : Option (Problem K × Except (Failure K) A)} {stop : Stop K}
    (ends : answered interrupted result = .error stop next) (ended : stop ≠ .halt .unfinished) :
    ∃ failure, result = some (next, .error failure) ∧ ofFailure failure = stop := by
  rcases result with _ | ⟨after, failure | value⟩ <;> cases ends
  · exact absurd rfl ended
  · exact ⟨failure, rfl, rfl⟩

def recorded (problem : Problem K) (algorithm : Algorithm) (workspace : Workspace K) :
    Except (Failure K) SolveRecord → Problem K × Except (Failure K) SolveRecord
  | .error failure => ({ problem with workspace }, .error failure)
  | .ok record => (({ problem with workspace } : Problem K).setRecord algorithm record, .ok record)

omit [Scalar K] in
theorem run_solverSteps {R : Type} {algorithm : Algorithm}
    {table : ReturnCode → Option (Meaning K)} {code : R → ReturnCode}
    {status : Workspace K → PointStatus} {call : Stepwise Halt (Workspace K) R} {run : R}
    {workspace : Workspace K} (returned : call.run problem.workspace = .ok run workspace) :
    (solverSteps algorithm table code status call).run problem =
      answered problem (some (problem.recorded algorithm workspace
        (verdict algorithm table (code run) (status workspace)))) := by
  rw [solverSteps, run_enter_bind returned]
  cases judged : verdict algorithm table (code run) (status workspace) with
  | error failure =>
      refine run_bind_of_error ?_ _
      apply run_inspect_of_error
      exact congrArg lift judged
  | ok record =>
      refine run_bind_of_ok ?_ _
      apply run_inspect_of_ok
      exact congrArg lift judged

theorem runSimplex_eq (problem : Problem K) (clock : Clock) (config : SimplexConfig K) :
    ((problem.runSimplex clock config).1, (problem.runSimplex clock config).2.2) =
      problem.recorded .simplex (problem.workspace.simplexTimed clock config.toOptions).1
        (verdict .simplex simplexMeaning
          (problem.workspace.simplexTimed clock config.toOptions).2.code
          (problem.workspace.simplexTimed clock config.toOptions).1.basic.status) := by
  simp only [runSimplex, verdict]
  split
  · rename_i failure judged
    rw [judged]
    rfl
  · rename_i record judged
    rw [judged]
    rfl

theorem runInterior_eq (problem : Problem K) :
    (problem.runInterior.1, problem.runInterior.2.2) =
      problem.recorded .interiorPoint problem.workspace.interiorPoint.1
        (verdict .interiorPoint interiorMeaning problem.workspace.interiorPoint.2.code
          problem.workspace.interiorPoint.1.interior.status) := by
  simp only [runInterior, verdict]
  split
  · rename_i failure judged
    rw [judged]
    rfl
  · rename_i record judged
    rw [judged]
    rfl

theorem runSearch_eq (steps : Nat) (problem : Problem K) (timing : Timing)
    (config : BranchCutConfig K) :
    (runSearch steps problem timing config).map (fun search => (search.1, search.2.2)) =
      (problem.workspace.integerSearchTimed steps timing config.toOptions).map fun search =>
        problem.recorded .branchCut search.1
          (verdict .branchCut searchMeaning search.2.code search.1.integer.status) := by
  rw [runSearch]
  cases problem.workspace.integerSearchTimed steps timing config.toOptions with
  | none => rfl
  | some search =>
      simp only [Option.bind_eq_bind, Option.bind_some, Option.map_some, verdict]
      split
      · rename_i failure judged
        rw [judged]
        rfl
      · rename_i record judged
        rw [judged]
        rfl

theorem run_simplexSteps (inRange : problem.workspace.InRange) (clock : Clock)
    (config : SimplexConfig K) :
    (simplexSteps clock config).run problem =
      answered problem (some ((problem.runSimplex clock config).1,
        (problem.runSimplex clock config).2.2)) := by
  rw [runSimplex_eq]
  exact run_solverSteps (Workspace.run_simplexSteps inRange clock config.toOptions)

theorem run_interiorSteps (inRange : problem.workspace.InRange) :
    interiorSteps.run problem =
      answered problem (some (problem.runInterior.1, problem.runInterior.2.2)) := by
  rw [runInterior_eq]
  exact run_solverSteps (Workspace.run_interiorSteps inRange)

theorem run_searchSteps (inRange : problem.workspace.InRange) (steps : Nat) (timing : Timing)
    (config : BranchCutConfig K) :
    ∃ interrupted, (searchSteps steps timing config).run problem = answered interrupted
      ((runSearch steps problem timing config).map fun search => (search.1, search.2.2)) := by
  obtain ⟨interrupted, ends⟩ :=
    Workspace.run_integerSteps inRange steps timing config.toOptions
  rw [runSearch_eq]
  cases found : problem.workspace.integerSearchTimed steps timing config.toOptions with
  | none =>
      rw [found] at ends
      have stopped :
          (enter (Workspace.integerSteps steps timing config.toOptions)).run problem =
            .error (.halt .unfinished) { problem with workspace := interrupted } :=
        congrArg problem.entered ends
      exact ⟨_, run_bind_of_error stopped _⟩
  | some search =>
      rw [found] at ends
      exact ⟨problem, run_solverSteps ends⟩

end Problem

/-! ## What a solver leaves -/

structure Workspace.SameData (before after : Workspace K) : Prop where
  name : after.name = before.name
  direction : after.direction = before.direction
  constant : after.constant = before.constant
  rows : after.rows = before.rows
  columns : after.columns = before.columns

namespace Workspace

variable {first second third workspace : Workspace K}

omit [Scalar K] in
theorem SameData.refl (workspace : Workspace K) : SameData workspace workspace :=
  ⟨rfl, rfl, rfl, rfl, rfl⟩

theorem copy_sameData (workspace : Workspace K) : SameData workspace workspace.copy :=
  ⟨rfl, rfl, rfl, rfl, rfl⟩

omit [Scalar K] in
theorem SameData.trans (left : SameData first second) (right : SameData second third) :
    SameData first third where
  name := right.name.trans left.name
  direction := right.direction.trans left.direction
  constant := right.constant.trans left.constant
  rows := right.rows.trans left.rows
  columns := right.columns.trans left.columns

theorem simplexTimed_sameData (workspace : Workspace K) (clock : Clock)
    (options : Simplex.Options K) : SameData workspace (workspace.simplexTimed clock options).1 :=
  ⟨rfl, rfl, rfl, rfl, rfl⟩

theorem interiorPoint_sameData (workspace : Workspace K) :
    SameData workspace workspace.interiorPoint.1 :=
  ⟨rfl, rfl, rfl, rfl, rfl⟩

theorem integerSearchTimed_sameData {steps : Nat} {timing : Timing} {options : Search.Options K}
    {next : Workspace K} {run : IntegerRun K}
    (ends : workspace.integerSearchTimed steps timing options = some (next, run)) :
    SameData workspace next := by
  cases integerSearchTimed_eq_some_iff.mp ends with
  | refused | searched => exact ⟨rfl, rfl, rfl, rfl, rfl⟩

end Workspace

namespace Problem

variable {problem : Problem K}

section Records

omit [Scalar K]

theorem record_setRecord (problem : Problem K) (algorithm other : Algorithm)
    (record : SolveRecord) :
    (problem.setRecord algorithm record).record other =
      if other = algorithm then some record else problem.record other := by
  cases algorithm <;> cases other <;> rfl

theorem workspace_setRecord (problem : Problem K) (algorithm : Algorithm) (record : SolveRecord) :
    (problem.setRecord algorithm record).workspace = problem.workspace := by
  cases algorithm <;> rfl

theorem record_forget (problem : Problem K) (algorithm : Algorithm) :
    problem.forget.record algorithm = none := by
  cases algorithm <;> rfl

theorem record_begin (problem : Problem K) (algorithm : Algorithm) :
    problem.begin.record algorithm = none := by
  cases algorithm <;> rfl

theorem record_withState (problem : Problem K) (state : SolveState) (algorithm : Algorithm) :
    ({ problem with state } : Problem K).record algorithm = problem.record algorithm := by
  cases algorithm <;> rfl

end Records

section Verdicts

omit [Scalar K]

theorem exists_decode_status (status : PointStatus) :
    ∃ reported : SolutionStatus,
      (Failure.decode status.code : Except (Failure K) SolutionStatus) = .ok reported := by
  cases status <;> exact ⟨_, rfl⟩

theorem verdict_refuses {algorithm : Algorithm} {table : ReturnCode → Option (Meaning K)}
    (told : ∀ code error, table code = some (.fails error) → (Stop.error error).IsRefusal)
    (code : ReturnCode) (status : PointStatus) :
    Refuses (verdict algorithm table code status) := by
  apply Refuses.bind
  · rw [interpret]
    split
    · exact .error trivial
    · rename_i error meant
      exact .error (told code error meant)
    · exact .ok _
  · intro meaning _
    obtain ⟨reported, decoded⟩ := exists_decode_status (K := K) status
    rw [settle, decoded, Except.ok_bind]
    split <;> exact .ok _

theorem simplexMeaning_told (code : ReturnCode) (error : Error K)
    (meant : simplexMeaning code = some (.fails error)) : (Stop.error error).IsRefusal := by
  cases code <;> cases meant <;> trivial

theorem interiorMeaning_told (code : ReturnCode) (error : Error K)
    (meant : interiorMeaning code = some (.fails error)) : (Stop.error error).IsRefusal := by
  cases code <;> cases meant <;> trivial

theorem searchMeaning_told (code : ReturnCode) (error : Error K)
    (meant : searchMeaning code = some (.fails error)) : (Stop.error error).IsRefusal := by
  cases code <;> cases meant <;> trivial

end Verdicts

structure SolverRan (problem : Problem K) (algorithm : Algorithm) (after : Problem K)
    (result : Except (Failure K) SolveRecord) : Prop where
  data : problem.workspace.SameData after.workspace
  wellFormed : after.workspace.WellFormed
  refuses : Refuses result
  records : ∀ record, result = .ok record → ∀ other, after.record other =
    if other = algorithm then some record else problem.record other

omit [Scalar K] in
theorem ran_of_recorded {algorithm : Algorithm} {workspace : Workspace K} {after : Problem K}
    {judged result : Except (Failure K) SolveRecord}
    (ends : (after, result) = problem.recorded algorithm workspace judged)
    (data : problem.workspace.SameData workspace) (wellFormed : workspace.WellFormed)
    (refuses : Refuses judged) : SolverRan problem algorithm after result := by
  cases judged with
  | error failure =>
      obtain ⟨rfl, rfl⟩ := Prod.mk.inj ends
      exact ⟨data, wellFormed, refuses, nofun⟩
  | ok record =>
      obtain ⟨rfl, rfl⟩ := Prod.mk.inj ends
      have same := workspace_setRecord { problem with workspace } algorithm record
      refine ⟨?_, ?_, refuses, ?_⟩
      · rw [same]
        exact data
      · rw [same]
        exact wellFormed
      · rintro _ ⟨⟩ other
        rw [record_setRecord]
        cases other <;> rfl

theorem runSimplex_ran (wellFormed : problem.workspace.WellFormed) (clock : Clock)
    (config : SimplexConfig K) :
    SolverRan problem .simplex (problem.runSimplex clock config).1
      (problem.runSimplex clock config).2.2 :=
  ran_of_recorded (runSimplex_eq problem clock config) (Workspace.simplexTimed_sameData _ _ _)
    (wellFormed.simplexTimed clock config.toOptions) (verdict_refuses simplexMeaning_told _ _)

theorem runInterior_ran (wellFormed : problem.workspace.WellFormed) :
    SolverRan problem .interiorPoint problem.runInterior.1 problem.runInterior.2.2 :=
  ran_of_recorded (runInterior_eq problem) (Workspace.interiorPoint_sameData _)
    wellFormed.interiorPoint (verdict_refuses interiorMeaning_told _ _)

theorem runSearch_ran (wellFormed : problem.workspace.WellFormed) {steps : Nat} {timing : Timing}
    {config : BranchCutConfig K} {after : Problem K} {run : Workspace.IntegerRun K}
    {result : Except (Failure K) SolveRecord}
    (ends : runSearch steps problem timing config = some (after, run, result)) :
    SolverRan problem .branchCut after result := by
  have same := runSearch_eq steps problem timing config
  rw [ends] at same
  cases found : problem.workspace.integerSearchTimed steps timing config.toOptions with
  | none =>
      rw [found] at same
      cases same
  | some search =>
      rw [found] at same
      exact ran_of_recorded (Option.some.inj same) (Workspace.integerSearchTimed_sameData found)
        (wellFormed.integerSearchTimed found) (verdict_refuses searchMeaning_told _ _)

/-! ## Whole solves -/

end Problem

/-- The algorithms that a successful solve leaves a record of: its own, and the simplex method
below a branch and cut. -/
def SolverConfig.Leaves (config : SolverConfig K) (algorithm : Algorithm) : Prop :=
  algorithm = config.algorithm ∨ algorithm = .simplex ∧ config.algorithm = .branchCut

namespace Problem

open Stepwise

variable {problem : Problem K}

structure Configured (config : SolverConfig K) (problem after : Problem K)
    (answer : Except (Failure K) Report) : Prop where
  data : problem.workspace.SameData after.workspace
  wellFormed : after.workspace.WellFormed
  refuses : Refuses answer
  records : ∀ report, answer = .ok report → ∀ other,
    (after.record other).isSome ↔ config.Leaves other ∨ (problem.record other).isSome

omit [Scalar K] in
theorem SolverRan.configured {algorithm : Algorithm} {after : Problem K}
    {result : Except (Failure K) SolveRecord} (ran : SolverRan problem algorithm after result)
    {config : SolverConfig K} (leaves : ∀ other, config.Leaves other ↔ other = algorithm)
    (report : SolveRecord → Report) :
    Configured config problem after (result.map report) where
  data := ran.data
  wellFormed := ran.wellFormed
  refuses := ran.refuses.map report
  records := by
    intro _ reported other
    cases result with
    | error failure => cases reported
    | ok record =>
        rw [ran.records record rfl, leaves]
        by_cases same : other = algorithm <;> simp [same]

theorem run_branchCutSteps (wellFormed : problem.workspace.WellFormed) (steps : Nat)
    (timing : Timing) (config : BranchCutConfig K) :
    ∃ interrupted, (branchCutSteps steps timing config).run problem = answered interrupted
      ((runBranchCut steps problem timing config).map fun solve =>
        (solve.problem, solve.answer)) := by
  have first := run_simplexSteps wellFormed.toInRange timing.simplex config.relaxation
  have ran := runSimplex_ran wellFormed timing.simplex config.relaxation
  rw [runBranchCut]
  generalize problem.runSimplex timing.simplex config.relaxation = relaxed at first ran ⊢
  obtain ⟨after, run, relaxation⟩ := relaxed
  cases relaxation with
  | error failure => exact ⟨problem, run_bind_of_error first _⟩
  | ok relaxation =>
      rw [branchCutSteps, run_bind_of_ok first]
      by_cases optimal : relaxation.status = .optimal
      · simp only [if_pos optimal]
        obtain ⟨interrupted, searched⟩ :=
          run_searchSteps ran.wellFormed.toInRange steps timing config
        cases found : runSearch steps after timing config with
        | none =>
            rw [found] at searched
            refine ⟨interrupted, ?_⟩
            exact run_bind_of_error searched _
        | some search =>
            rw [found] at searched
            obtain ⟨last, searchRun, record⟩ := search
            cases record with
            | error failure => exact ⟨problem, run_bind_of_error searched _⟩
            | ok record => exact ⟨problem, run_bind_of_ok searched _⟩
      · simp only [if_neg optimal]
        exact ⟨problem, rfl⟩

omit [Scalar K] in
theorem leaves_branchCut (config : BranchCutConfig K) (other : Algorithm) :
    (SolverConfig.branchCut config).Leaves other ↔ other = .branchCut ∨ other = .simplex := by
  simp [SolverConfig.Leaves, SolverConfig.algorithm]

theorem runBranchCut_configured (wellFormed : problem.workspace.WellFormed) {steps : Nat}
    {timing : Timing} {config : BranchCutConfig K} {solve : Solve K}
    (ends : runBranchCut steps problem timing config = some solve) :
    Configured (.branchCut config) problem solve.problem solve.answer := by
  have ran := runSimplex_ran wellFormed timing.simplex config.relaxation
  rw [runBranchCut] at ends
  generalize problem.runSimplex timing.simplex config.relaxation = relaxed at ran ends
  obtain ⟨after, run, relaxation⟩ := relaxed
  cases relaxation with
  | error failure =>
      obtain rfl := Option.some.inj ends
      refine ⟨ran.data, ran.wellFormed, ?_, ?_⟩
      · rintro _ ⟨⟩
        exact ran.refuses failure rfl
      · rintro report ⟨⟩
  | ok relaxation =>
      have relaxed := ran.records relaxation rfl
      by_cases optimal : relaxation.status = .optimal
      · simp only [if_pos optimal] at ends
        obtain ⟨⟨last, searchRun, record⟩, found, ends⟩ := Option.bind_eq_some_iff.mp ends
        obtain rfl := Option.some.inj ends
        have searched := runSearch_ran ran.wellFormed found
        refine ⟨ran.data.trans searched.data, searched.wellFormed, searched.refuses.map _, ?_⟩
        intro report reported other
        cases record with
        | error failure => cases reported
        | ok record =>
            rw [searched.records record rfl, relaxed, leaves_branchCut]
            cases other <;> simp
      · simp only [if_neg optimal] at ends
        obtain rfl := Option.some.inj ends
        have same := workspace_setRecord after .branchCut (withoutSearch relaxation)
        refine ⟨?_, ?_, .ok _, ?_⟩
        · rw [same]
          exact ran.data
        · rw [same]
          exact ran.wellFormed
        · intro report reported other
          rw [record_setRecord, relaxed, leaves_branchCut]
          cases other <;> simp

theorem run_configuredSteps (wellFormed : problem.workspace.WellFormed) (steps : Nat)
    (timing : Timing) (config : SolverConfig K) :
    ∃ interrupted, (configuredSteps steps timing config).run problem = answered interrupted
      ((runSolver steps problem timing config).map fun solve => (solve.problem, solve.answer)) := by
  cases config with
  | simplex config =>
      have first := run_simplexSteps wellFormed.toInRange timing.simplex config
      rw [runSolver]
      generalize problem.runSimplex timing.simplex config = solved at first ⊢
      obtain ⟨after, run, record⟩ := solved
      cases record with
      | error failure => exact ⟨problem, run_bind_of_error first _⟩
      | ok record => exact ⟨problem, run_bind_of_ok first _⟩
  | interior config =>
      have first := run_interiorSteps wellFormed.toInRange
      rw [runSolver]
      generalize problem.runInterior = solved at first ⊢
      obtain ⟨after, run, record⟩ := solved
      cases record with
      | error failure => exact ⟨problem, run_bind_of_error first _⟩
      | ok record => exact ⟨problem, run_bind_of_ok first _⟩
  | branchCut config =>
      rw [runSolver, configuredSteps]
      by_cases none : problem.integerColumnCount = 0
      · rw [if_pos none]
        have refused : checkIntegers problem = .error (.error .noIntegerColumns) := if_pos none
        exact ⟨problem, run_bind_of_error (run_inspect_of_error refused) _⟩
      · rw [if_neg none]
        have admitted : checkIntegers problem = .ok () := if_neg none
        rw [run_bind_of_ok (run_inspect_of_ok admitted)]
        exact run_branchCutSteps wellFormed steps timing config

theorem runSolver_configured (wellFormed : problem.workspace.WellFormed) {steps : Nat}
    {timing : Timing} {config : SolverConfig K} {solve : Solve K}
    (ends : runSolver steps problem timing config = some solve) :
    Configured config problem solve.problem solve.answer := by
  cases config with
  | simplex config =>
      obtain rfl := Option.some.inj ends
      apply (runSimplex_ran wellFormed timing.simplex config).configured
      intro other
      simp [SolverConfig.Leaves, SolverConfig.algorithm]
  | interior config =>
      obtain rfl := Option.some.inj ends
      apply (runInterior_ran wellFormed).configured
      intro other
      simp [SolverConfig.Leaves, SolverConfig.algorithm]
  | branchCut config =>
      rw [runSolver] at ends
      split at ends
      · obtain rfl := Option.some.inj ends
        refine ⟨.refl _, wellFormed, .error trivial, ?_⟩
        rintro report ⟨⟩
      · exact runBranchCut_configured wellFormed ends

/-- What a solve leaves behind whose configuration is accepted. -/
structure Concluded (config : SolverConfig K) (problem after : Problem K)
    (answer : Except (Failure K) Report) : Prop where
  data : problem.workspace.SameData after.workspace
  wellFormed : after.workspace.WellFormed
  refuses : Refuses answer
  solved : ∀ report, answer = .ok report → after.state = .solved report.status ∧
    ∀ other, (after.record other).isSome ↔ config.Leaves other
  failed : ∀ failure, answer = .error failure → after.state = .unsolved ∧
    ∀ other, after.record other = none

theorem solveTimed_of_accepted {steps : Nat} {timing : Timing} {config : SolverConfig K}
    (accepted : accept config = .ok ()) :
    solveTimed steps problem timing config =
      (runSolver steps problem.begin timing config).map conclude := by
  rw [solveTimed]
  rw [accept] at accepted
  split
  · rename_i error refused
    rw [refused] at accepted
    cases accepted
  · rfl

theorem solveTimed_of_refused {steps : Nat} {timing : Timing} {config : SolverConfig K}
    {failure : Failure K} (refused : accept config = .error failure) :
    solveTimed steps problem timing config = some ⟨problem, .error failure, []⟩ := by
  rw [solveTimed]
  rw [accept] at refused
  split
  · rename_i error invalid
    rw [invalid] at refused
    cases refused
    rfl
  · rename_i valid
    rw [valid] at refused
    cases refused

theorem accept_refuses (config : SolverConfig K) : Refuses (accept config) := by
  intro failure refused
  rw [accept] at refused
  cases invalid : config.validate with
  | error error =>
      rw [invalid] at refused
      cases refused
      trivial
  | ok value =>
      rw [invalid] at refused
      cases refused

theorem solveTimed_concluded (wellFormed : problem.workspace.WellFormed) {steps : Nat}
    {timing : Timing} {config : SolverConfig K} {solve : Solve K}
    (accepted : accept config = .ok ())
    (ends : solveTimed steps problem timing config = some solve) :
    Concluded config problem solve.problem solve.answer := by
  rw [solveTimed_of_accepted accepted] at ends
  obtain ⟨ran, found, rfl⟩ := Option.map_eq_some_iff.mp ends
  have begun : problem.begin.workspace.WellFormed := wellFormed
  have configured := runSolver_configured begun found
  obtain ⟨after, answer, stages⟩ := ran
  cases answer with
  | error failure =>
      refine ⟨configured.data, configured.wellFormed, configured.refuses, ?_, ?_⟩
      · rintro report ⟨⟩
      · intro _ _
        exact ⟨rfl, record_forget after⟩
  | ok report =>
      refine ⟨configured.data, configured.wellFormed, configured.refuses, ?_, ?_⟩
      · rintro _ ⟨⟩
        refine ⟨rfl, fun other => ?_⟩
        have left := configured.records report rfl other
        rw [record_begin] at left
        change (Problem.record { after with state := .solved report.status } other).isSome ↔ _
        rw [record_withState]
        simpa using left
      · rintro failure ⟨⟩

theorem solveTimed_refuses (wellFormed : problem.workspace.WellFormed) {steps : Nat}
    {timing : Timing} {config : SolverConfig K} {solve : Solve K}
    (ends : solveTimed steps problem timing config = some solve) : Refuses solve.answer := by
  cases checked : accept config with
  | error failure =>
      rw [solveTimed_of_refused checked] at ends
      obtain rfl := Option.some.inj ends
      rintro _ ⟨⟩
      exact accept_refuses config failure checked
  | ok value => exact (solveTimed_concluded wellFormed checked ends).refuses

theorem solveTimed_wellFormed (wellFormed : problem.workspace.WellFormed) {steps : Nat}
    {timing : Timing} {config : SolverConfig K} {solve : Solve K}
    (ends : solveTimed steps problem timing config = some solve) :
    solve.problem.workspace.WellFormed := by
  cases checked : accept config with
  | error failure =>
      rw [solveTimed_of_refused checked] at ends
      obtain rfl := Option.some.inj ends
      exact wellFormed
  | ok value => exact (solveTimed_concluded wellFormed checked ends).wellFormed

theorem run_solveSteps (wellFormed : problem.workspace.WellFormed) (steps : Nat)
    (timing : Timing) (config : SolverConfig K) :
    ∃ interrupted, (solveSteps steps timing config).run problem = answered interrupted
      ((solveTimed steps problem timing config).map fun solve =>
        (solve.problem, solve.answer)) := by
  cases checked : accept config with
  | error failure =>
      rw [solveTimed_of_refused checked]
      refine ⟨problem, run_bind_of_error ?_ _⟩
      apply run_inspect_of_error
      exact congrArg Stop.lift checked
  | ok value =>
      have begun : problem.begin.workspace.WellFormed := wellFormed
      obtain ⟨interrupted, ends⟩ := run_configuredSteps begun steps timing config
      have accepted : (inspect fun _ : Problem K => Stop.lift (accept config)).run problem =
          .ok () problem := by
        apply run_inspect_of_ok
        exact congrArg Stop.lift checked
      rw [solveTimed_of_accepted checked, solveSteps, run_bind_of_ok accepted, run_change_bind]
      change ∃ interrupted, conclusion ((configuredSteps steps timing config).run problem.begin) = _
      rw [ends]
      cases found : runSolver steps problem.begin timing config with
      | none => exact ⟨interrupted, rfl⟩
      | some ran =>
          have configured := runSolver_configured begun found
          obtain ⟨after, answer, stages⟩ := ran
          cases answer with
          | ok report => exact ⟨problem, rfl⟩
          | error failure =>
              -- The steps would end at a misused call and forget nothing; no solver is misused.
              cases failure with
              | error refusal => exact ⟨problem, rfl⟩
              | misuse misused => exact (configured.refuses _ rfl).elim

end Problem

end LinearProgramming
