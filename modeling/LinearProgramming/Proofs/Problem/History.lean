import LinearProgramming.Proofs.ExactScalar
import LinearProgramming.Proofs.Problem.Access
import LinearProgramming.Proofs.Problem.Solved

/-!
# Problems through all operations

A history is a sequence of operations from an empty problem on, with what each of them
returned or why it stopped.  At the end of every history the workspace is well formed, no
operation with short lists stops for anything but a refusal, and an operation that stops leaves
the problem as it was, a solve but for its solution.
-/

namespace LinearProgramming

inductive Request (K : Type) where
  | edit (edit : Edit K)
  | inquire (inquiry : Inquiry)
  | solve (steps : Nat) (timing : Timing) (config : SolverConfig K)

inductive Return (K : Type) where
  | index (index : Option Nat)
  | reply (reply : Reply K)
  | report (report : Report)

variable {K : Type} [Scalar K]

namespace Edit

open Problem Stop

/-- A change that takes effect on the data: names are no data, and nothing is changed by
adding or deleting nothing. -/
def changesData : Edit K → Bool
  | setName _ => false
  | setRowName _ _ => false
  | setColumnName _ _ => false
  | addRows count => decide (count ≠ 0)
  | addColumns count => decide (count ≠ 0)
  | deleteRows rows => !rows.isEmpty
  | deleteColumns columns => !columns.isEmpty
  | _ => true

variable {problem : Problem K}

theorem changesData_of_plan {cast : Cast K} {edit : Edit K} {call : Option (Command K)}
    (planned : edit.plan cast problem = .ok call) :
    edit.changesData = (call.isSome && !edit.isName) := by
  cases plans_of_plan planned
  case addRows added | addColumns added => simp [changesData, isName, added]
  case deleteRows listed | deleteColumns listed => simp [changesData, isName, listed]
  all_goals rfl

structure Edited (edit : Edit K) (problem next : Problem K) : Prop where
  wellFormed : next.workspace.WellFormed
  changed : edit.changesData = true → next.state = .unsolved ∧ ∀ other, next.record other = none
  kept : edit.changesData = false → next.state = problem.state ∧
    ∀ other, next.record other = problem.record other

omit [Scalar K] in
theorem settle_eq_ok {edit : Edit K} {number : Option Int} {next : Problem K}
    {index : Option Nat} (settled : edit.settle problem number = .ok (next, index)) :
    next = if edit.isName then problem else problem.forget := by
  rw [settle] at settled
  split at settled
  · rename_i target adds
    split at settled
    · cases settled
    · cases settled
      have data : edit.isName = false := by cases edit <;> cases adds <;> rfl
      rw [data]
      rfl
  · cases settled
    rfl

/-- A change that is made has planned nothing, or a numbered call that went through. -/
theorem plan_of_run {edit : Edit K} {next : Problem K} {index : Option Nat}
    (ran : edit.run problem = .ok (next, index)) :
    (edit.plan .plain problem = .ok none ∧ next = problem) ∨
      ∃ command workspace number, edit.plan .plain problem = .ok (some command) ∧
        command.run problem.workspace = .ok (workspace, number) ∧
          next = if edit.isName then { problem with workspace }
            else ({ problem with workspace } : Problem K).forget := by
  have done : edit.plan .plain problem >>= edit.complete problem = .ok (next, index) := by
    rw [plan_complete, ran]
    rfl
  obtain ⟨call, planned, completed⟩ := Except.bind_eq_ok_iff.mp done
  cases call with
  | none =>
      cases completed
      exact .inl ⟨planned, rfl⟩
  | some command =>
      obtain ⟨⟨workspace, number⟩, called, settled⟩ := Except.bind_eq_ok_iff.mp completed
      exact .inr ⟨command, workspace, number, planned,
        Except.mapError_eq_ok_iff.mp (Except.mapError_eq_ok_iff.mp called), settle_eq_ok settled⟩

theorem run_edited (wellFormed : problem.workspace.WellFormed) {edit : Edit K}
    {next : Problem K} {index : Option Nat} (ran : edit.run problem = .ok (next, index)) :
    Edited edit problem next := by
  -- Whether the data change shows in the plan: in whether it has a call, and in which one.
  rcases plan_of_run ran with ⟨planned, rfl⟩ | ⟨command, workspace, number, planned, called, rfl⟩
  · refine ⟨wellFormed, ?_, fun _ => ⟨rfl, fun _ => rfl⟩⟩
    rw [changesData_of_plan planned]
    exact nofun
  · have changes := changesData_of_plan planned
    have kept := wellFormed.run called
    cases name : edit.isName with
    | true =>
        rw [name] at changes
        refine ⟨kept, ?_, fun _ => ⟨rfl, ?_⟩⟩
        · rw [changes]
          exact nofun
        · intro other
          cases other <;> rfl
    | false =>
        rw [name] at changes
        refine ⟨kept, fun _ => ⟨rfl, record_forget _⟩, ?_⟩
        rw [changes]
        exact nofun

end Edit

/-! ## Operations -/

namespace Request

open Problem Stop Stepwise

def steps (cast : Cast K) : Request K → Stepwise (Stop K) (Problem K) (Return K)
  | edit update => do
      let index ← update.steps cast
      pure (.index index)
  | inquire inquiry => do
      let reply ← inspect fun problem => inquiry.read cast problem
      pure (.reply reply)
  | solve steps timing config => do
      let report ← solveSteps steps timing config
      pure (.report report)

/-- An operation as it is defined: the problem it leaves behind, and its result.  A solve that
is not over after its steps has neither. -/
def respond (problem : Problem K) :
    Request K → Option (Problem K × Except (Failure K) (Return K))
  | edit update =>
      match update.run problem with
      | .error failure => some (problem, .error failure)
      | .ok (next, index) => some (next, .ok (.index index))
  | inquire inquiry => some (problem, (inquiry.answer problem).map .reply)
  | solve steps timing config =>
      (solveTimed steps problem timing config).map fun solve =>
        (solve.problem, solve.answer.map .report)

def Short : Request K → Prop
  | edit update => update.Short
  | _ => True

def isSolve : Request K → Bool
  | solve _ _ _ => true
  | _ => false

variable {problem next : Problem K}

theorem run_edit {update : Edit K} {cast : Cast K}
    (ends : (update.steps cast).run problem = whole problem (lift (update.run problem))) :
    ((edit update).steps cast).run problem =
      answered problem ((edit update).respond problem) := by
  rw [respond]
  cases ran : update.run problem with
  | error failure =>
      rw [ran] at ends
      exact run_bind_of_error ends _
  | ok result =>
      rw [ran] at ends
      exact run_bind_of_ok ends _

theorem run_inquire (wellFormed : problem.workspace.WellFormed) {cast : Cast K}
    (faithful : Faithful cast) (inquiry : Inquiry) :
    ((inquire inquiry).steps cast).run problem =
      answered problem ((inquire inquiry).respond problem) := by
  have same := (Inquiry.reads wellFormed faithful inquiry).same
  rw [respond]
  cases found : inquiry.answer problem with
  | error failure =>
      rw [found] at same
      refine run_bind_of_error ?_ _
      exact run_inspect_of_error same
  | ok reply =>
      rw [found] at same
      refine run_bind_of_ok ?_ _
      exact run_inspect_of_ok same

theorem run_solve (wellFormed : problem.workspace.WellFormed) (cast : Cast K) (steps : Nat)
    (timing : Timing) (config : SolverConfig K) :
    ∃ interrupted, ((solve steps timing config).steps cast).run problem =
      answered interrupted ((solve steps timing config).respond problem) := by
  obtain ⟨interrupted, ends⟩ := run_solveSteps wellFormed steps timing config
  rw [respond]
  cases found : solveTimed steps problem timing config with
  | none =>
      rw [found] at ends
      exact ⟨interrupted, run_bind_of_error ends _⟩
  | some solve =>
      rw [found] at ends
      obtain ⟨after, answer, stages⟩ := solve
      cases answer with
      | error failure => exact ⟨problem, run_bind_of_error ends _⟩
      | ok report => exact ⟨problem, run_bind_of_ok ends _⟩

/-- On a well-formed workspace every operation does, step by step, what its definition says. -/
theorem run_steps (wellFormed : problem.workspace.WellFormed) (request : Request K) :
    ∃ interrupted, (request.steps .plain).run problem =
      answered interrupted (request.respond problem) := by
  cases request with
  | edit update =>
      refine ⟨problem, run_edit ?_⟩
      rw [update.run_steps wellFormed, Edit.plan_complete]
  | inquire inquiry => exact ⟨problem, run_inquire wellFormed .plain inquiry⟩
  | solve steps timing config => exact run_solve wellFormed .plain steps timing config

theorem run_exact (wellFormed : problem.workspace.WellFormed) {request : Request K}
    (short : request.Short) :
    (request.steps .exact).run problem = (request.steps .plain).run problem := by
  cases request with
  | edit update =>
      have plain : (update.steps .plain).run problem =
          whole problem (lift (update.run problem)) := by
        rw [update.run_steps wellFormed, Edit.plan_complete]
      rw [run_edit (Edit.run_exact wellFormed short), run_edit plain]
  | inquire inquiry =>
      rw [run_inquire wellFormed .exact, run_inquire wellFormed .plain]
  | solve steps timing config => simp only [Request.steps]

theorem respond_solve {steps : Nat} {timing : Timing} {config : SolverConfig K}
    {result : Except (Failure K) (Return K)}
    (responds : (solve steps timing config).respond problem = some (next, result)) :
    ∃ solved, solveTimed steps problem timing config = some solved ∧ solved.problem = next ∧
      solved.answer.map .report = result := by
  obtain ⟨solved, found, ends⟩ := Option.map_eq_some_iff.mp responds
  cases ends
  exact ⟨solved, found, rfl, rfl⟩

/-- An operation with short lists is refused, if it is, for a reason. -/
theorem respond_refuses (wellFormed : problem.workspace.WellFormed) {request : Request K}
    (short : request.Short) {result : Except (Failure K) (Return K)}
    (responds : request.respond problem = some (next, result)) : Refuses result := by
  cases request with
  | edit update =>
      have refuses := Edit.run_refuses wellFormed short
      rw [respond] at responds
      split at responds
      · rename_i failure failed
        cases responds
        rintro _ ⟨⟩
        exact refuses failure failed
      · cases responds
        exact .ok _
  | inquire inquiry =>
      cases responds
      exact (Inquiry.reads wellFormed .plain inquiry).refuses.map _
  | solve steps timing config =>
      obtain ⟨solved, found, -, rfl⟩ := respond_solve responds
      exact (solveTimed_refuses wellFormed found).map _

theorem respond_of_returned (wellFormed : problem.workspace.WellFormed) {request : Request K}
    {value : Return K} (ends : (request.steps .plain).run problem = .ok value next) :
    request.respond problem = some (next, .ok value) := by
  obtain ⟨interrupted, same⟩ := request.run_steps wellFormed
  exact eq_of_answered_ok (same.symm.trans ends)

theorem respond_of_stopped (wellFormed : problem.workspace.WellFormed) {request : Request K}
    {stop : Stop K} (ends : (request.steps .plain).run problem = .error stop next)
    (ended : stop ≠ .halt .unfinished) :
    ∃ failure, request.respond problem = some (next, .error failure) ∧
      ofFailure failure = stop := by
  obtain ⟨interrupted, same⟩ := request.run_steps wellFormed
  exact eq_of_answered_error (same.symm.trans ends) ended

theorem respond_edit {update : Edit K} {result : Except (Failure K) (Return K)}
    (responds : (edit update).respond problem = some (next, result)) :
    (∃ index, result = .ok (.index index) ∧ update.run problem = .ok (next, index)) ∨
      (∃ failure, result = .error failure) ∧ next = problem := by
  rw [respond] at responds
  split at responds
  · cases responds
    exact .inr ⟨⟨_, rfl⟩, rfl⟩
  · rename_i after index ran
    cases responds
    exact .inl ⟨index, rfl, ran⟩

theorem respond_wellFormed (wellFormed : problem.workspace.WellFormed) {request : Request K}
    {result : Except (Failure K) (Return K)}
    (responds : request.respond problem = some (next, result)) : next.workspace.WellFormed := by
  cases request with
  | edit update =>
      rcases respond_edit responds with ⟨index, -, ran⟩ | ⟨-, rfl⟩
      · exact (Edit.run_edited wellFormed ran).wellFormed
      · exact wellFormed
  | inquire inquiry =>
      cases responds
      exact wellFormed
  | solve steps timing config =>
      obtain ⟨solved, found, rfl, -⟩ := respond_solve responds
      exact solveTimed_wellFormed wellFormed found

/-- An operation that stops leaves the problem as it was, unless it is a solve. -/
theorem eq_of_stopped (wellFormed : problem.workspace.WellFormed) {request : Request K}
    (solves : request.isSolve = false) {stop : Stop K}
    (ends : (request.steps .plain).run problem = .error stop next) : next = problem := by
  obtain ⟨interrupted, same⟩ := request.run_steps wellFormed
  have answer := same.symm.trans ends
  cases request with
  | edit update =>
      rw [respond] at answer
      split at answer
      · cases answer
        rfl
      · cases answer
  | inquire inquiry =>
      rw [respond] at answer
      cases found : inquiry.answer problem with
      | error failure =>
          rw [found] at answer
          cases answer
          rfl
      | ok reply =>
          rw [found] at answer
          cases answer
  | solve steps timing config => cases solves

theorem run_solve_of_invalid (steps : Nat) (timing : Timing) {config : SolverConfig K}
    {invalid : ConfigError K} (checked : config.validate = .error invalid) (cast : Cast K) :
    ((solve steps timing config).steps cast).run problem =
      .error (.error (.config invalid)) problem := by
  have refused : (inspect fun _ : Problem K => lift (accept config)).run problem =
      .error (.error (.config invalid)) problem := by
    apply run_inspect_of_error
    rw [accept, checked]
    rfl
  exact run_bind_of_error (run_bind_of_error refused _) _

theorem respond_invalid {steps : Nat} {timing : Timing} {config : SolverConfig K}
    {invalid : ConfigError K} (checked : config.validate = .error invalid)
    {result : Except (Failure K) (Return K)}
    (responds : (solve steps timing config).respond problem = some (next, result)) :
    next = problem ∧ result = .error (.error (.config invalid)) := by
  have refused : accept config = .error (.error (.config invalid)) := by
    rw [accept, checked]
    rfl
  obtain ⟨solved, found, rfl, rfl⟩ := respond_solve responds
  rw [solveTimed_of_refused refused] at found
  obtain rfl := Option.some.inj found
  exact ⟨rfl, rfl⟩

theorem exists_reported (wellFormed : problem.workspace.WellFormed) (steps : Nat)
    (timing : Timing) (config : SolverConfig K)
    (ended : (solveTimed steps problem timing config).any (fun solve => solve.answer.isOk)) :
    ∃ report next,
      ((solve steps timing config).steps .plain).run problem = .ok (.report report) next := by
  obtain ⟨interrupted, ends⟩ := run_solve wellFormed .plain steps timing config
  rw [respond] at ends
  cases found : solveTimed steps problem timing config with
  | none =>
      rw [found] at ended
      cases ended
  | some solved =>
      obtain ⟨next, answer, stages⟩ := solved
      rw [found] at ended ends
      cases answer with
      | error failure => cases ended
      | ok report => exact ⟨report, next, ends⟩

/-- A solve that ends keeps the data, and leaves no solution if it fails. -/
theorem respond_solve_concluded (wellFormed : problem.workspace.WellFormed) {steps : Nat}
    {timing : Timing} {config : SolverConfig K} (valid : config.validate = .ok ())
    {result : Except (Failure K) (Return K)}
    (responds : (solve steps timing config).respond problem = some (next, result)) :
    ∃ answer, Concluded config problem next answer ∧ answer.map .report = result := by
  have accepted : accept config = .ok () := by
    rw [accept, valid]
    rfl
  obtain ⟨solved, found, rfl, same⟩ := respond_solve responds
  exact ⟨solved.answer, solveTimed_concluded wellFormed accepted found, same⟩

end Request

/-! ## Histories -/

structure Event (K : Type) where
  request : Request K
  result : Except (Stop K) (Return K)

/-- The problems at the end of sequences of operations, which are listed from the last one on.
An operation that stops leaves behind what it has done by then; only a solve that is not over
has not ended.  A copy starts anew. -/
inductive History : List (Event K) → Problem K → Prop
  | create : History [] .empty
  | copy {events problem} : History events problem → History [] problem.copy
  | returned {events problem next} (request : Request K) {value} : History events problem →
      (request.steps .plain).run problem = .ok value next →
      History (⟨request, .ok value⟩ :: events) next
  | stopped {events problem next} (request : Request K) {stop} : History events problem →
      (request.steps .plain).run problem = .error stop next → stop ≠ .halt .unfinished →
      History (⟨request, .error stop⟩ :: events) next

namespace History

open Problem

variable {events : List (Event K)} {problem : Problem K}

theorem wellFormed (history : History events problem) : problem.workspace.WellFormed := by
  induction history with
  | create => exact Workspace.empty_wellFormed
  | copy _ inductionHypothesis => exact inductionHypothesis.copy
  | returned request _ ends inductionHypothesis =>
      exact Request.respond_wellFormed inductionHypothesis
        (Request.respond_of_returned inductionHypothesis ends)
  | stopped request _ ends ended inductionHypothesis =>
      obtain ⟨failure, responds, -⟩ := Request.respond_of_stopped inductionHypothesis ends ended
      exact Request.respond_wellFormed inductionHypothesis responds

theorem edited (history : History events problem) {edit : Edit K} {next : Problem K}
    {index : Option Nat} (ran : edit.run problem = .ok (next, index)) :
    History (⟨.edit edit, .ok (.index index)⟩ :: events) next := by
  obtain ⟨interrupted, same⟩ := (Request.edit edit).run_steps history.wellFormed
  rw [Request.respond, ran] at same
  exact .returned _ history same

theorem reported (history : History events problem) {steps : Nat} {timing : Timing}
    {config : SolverConfig K} {solved : Solve K} {report : Report}
    (ends : solveTimed steps problem timing config = some solved)
    (answered : solved.answer = .ok report) :
    History (⟨.solve steps timing config, .ok (.report report)⟩ :: events) solved.problem := by
  obtain ⟨interrupted, ran⟩ := Request.run_solve history.wellFormed .plain steps timing config
  obtain ⟨next, answer, stages⟩ := solved
  rw [Request.respond, ends] at ran
  cases answered
  exact .returned _ history ran

/-- After every history an operation with short lists passes every number on as it is, does
what its definition says, and stops only for an error, which is never that a number read back
from the workspace stands for nothing. -/
theorem stops_only_for_errors (history : History events problem) {request : Request K}
    (short : request.Short) :
    (request.steps .exact).run problem = (request.steps .plain).run problem ∧
      (∃ interrupted, (request.steps .exact).run problem =
        answered interrupted (request.respond problem)) ∧
      ∀ stop next, (request.steps .exact).run problem = .error stop next →
        stop ≠ .halt .unfinished →
        ∃ error, stop = .error error ∧ ∀ code, error ≠ .invalidCode code := by
  have wellFormed := history.wellFormed
  have exactly := Request.run_exact wellFormed short
  rw [exactly]
  refine ⟨rfl, request.run_steps wellFormed, ?_⟩
  intro stop next ends ended
  obtain ⟨failure, responds, rfl⟩ := Request.respond_of_stopped wellFormed ends ended
  exact (Request.respond_refuses wellFormed short responds failure rfl).exists_error

/-- A row over two columns, and new coefficients for it that list a column twice. -/
theorem stops_only_for_errors_pair :
    ∃ (problem : Problem ℚ) (request : Request ℚ), (∃ events, History events problem) ∧
      request = .edit (.setRowCoefficients 1 [2, 1, 2] [3, 4, 5]) ∧ request.Short ∧
      (request.steps .exact).run problem = (request.steps .plain).run problem ∧
      ∀ stop next, (request.steps .exact).run problem = .error stop next →
        stop ≠ .halt .unfinished →
        ∃ error, stop = .error error ∧ ∀ code, error ≠ .invalidCode code := by
  have grown := History.returned (.edit (.addRows 1)) (History.create (K := ℚ)) rfl
  have widened := History.returned (.edit (.addColumns 2)) grown rfl
  have short : (Request.edit (.setRowCoefficients 1 [2, 1, 2] [3, 4, 5]) : Request ℚ).Short := by
    change 3 < Word.values31
    decide
  obtain ⟨exactly, -, stops⟩ := widened.stops_only_for_errors short
  exact ⟨_, _, ⟨_, widened⟩, rfl, short, exactly, stops⟩

/-- After every history an operation that stops leaves the problem as it was, unless it is a
solve.  So does a solve with a configuration that is refused; any other solve keeps the data,
and if it stops, no algorithm has a solution. -/
theorem stops_unchanged (history : History events problem) :
    (∀ (request : Request K) stop next, request.isSolve = false →
      (request.steps .plain).run problem = .error stop next → next = problem) ∧
    ∀ steps timing (config : SolverConfig K),
      (∀ error, config.validate = .error error →
        ((Request.solve steps timing config).steps .plain).run problem =
          .error (.error (.config error)) problem) ∧
      (config.validate = .ok () →
        (∀ stop next, ((Request.solve steps timing config).steps .plain).run problem =
            .error stop next → stop ≠ .halt .unfinished →
          problem.workspace.SameData next.workspace ∧ next.state = .unsolved ∧
            ∀ algorithm, Solution.extract next algorithm =
              .error (.error (.solverNotRun algorithm))) ∧
        ∀ value next, ((Request.solve steps timing config).steps .plain).run problem =
            .ok value next → problem.workspace.SameData next.workspace) := by
  have wellFormed := history.wellFormed
  constructor
  · intro request stop next other ends
    exact Request.eq_of_stopped wellFormed other ends
  · intro steps timing config
    refine ⟨fun error invalid => Request.run_solve_of_invalid steps timing invalid .plain, ?_⟩
    intro valid
    constructor
    · intro stop next ends ended
      obtain ⟨failure, responds, -⟩ := Request.respond_of_stopped wellFormed ends ended
      obtain ⟨answer, concluded, same⟩ :=
        Request.respond_solve_concluded wellFormed valid responds
      cases answer with
      | ok report => cases same
      | error failure =>
          obtain ⟨unsolved, none⟩ := concluded.failed failure rfl
          exact ⟨concluded.data, unsolved, fun algorithm => extract_of_none (none algorithm)⟩
    · intro value next ends
      have responds := Request.respond_of_returned wellFormed ends
      obtain ⟨answer, concluded, -⟩ := Request.respond_solve_concluded wellFormed valid responds
      exact concluded.data

/-- A column that is solved, then changed under a number that is not there, and then solved by
a branch and cut with a negative gap. -/
theorem stops_unchanged_single :
    ∃ (problem : Problem ℚ) (config : SolverConfig ℚ),
      (∃ events, History events problem ∧ events.length = 2) ∧
      (∃ stop next, ((Request.edit (.setColumnKind 0 .binary)).steps .plain).run problem =
        .error stop next ∧ next = problem) ∧
      ∃ error, config.validate = .error error ∧
        ((Request.solve 0 .still config).steps .plain).run problem =
          .error (.error (.config error)) problem := by
  have grown := History.returned (.edit (.addColumns 1)) (History.create (K := ℚ)) rfl
  obtain ⟨report, problem, ends⟩ := Request.exists_reported grown.wellFormed 0 .still
    (.simplex .standard) (by decide +kernel)
  have solved := History.returned _ grown ends
  obtain ⟨others, solves⟩ := solved.stops_unchanged
  have refused : ∃ stop next,
      ((Request.edit (.setColumnKind 0 .binary)).steps .plain).run problem = .error stop next :=
    ⟨_, _, rfl⟩
  obtain ⟨stop, next, stopped⟩ := refused
  obtain ⟨error, invalid⟩ : ∃ error, (SolverConfig.branchCut
      { BranchCutConfig.standard with gap := -1 } : SolverConfig ℚ).validate = .error error :=
    Except.exists_error (by decide +kernel)
  exact ⟨problem, _, ⟨_, solved, rfl⟩, ⟨stop, next, stopped, others _ stop next rfl stopped⟩,
    error, invalid, (solves 0 .still _).1 error invalid⟩

end History

end LinearProgramming
