import LinearProgramming.Proofs.Problem.History

/-!
# Fresh solutions

A solve is in effect from its report on until the data change or the next solve is accepted.
At the end of every history the algorithms that have a solution are those that the solve in
effect leaves, and the problem is solved with the status of its report; without such a solve it
is unsolved and has no solution.
-/

namespace LinearProgramming

variable {K : Type} [Scalar K]

def Event.changesData (event : Event K) : Bool :=
  match event.request, event.result with
  | .edit update, .ok _ => update.changesData
  | _, _ => false

/-- A solve whose configuration was accepted, whatever came of it. -/
def Event.Solves (event : Event K) : Prop :=
  ∃ steps timing config, event.request = .solve steps timing config ∧ config.validate = .ok ()

theorem Event.not_solves_edit (update : Edit K) (result : Except (Stop K) (Return K)) :
    ¬ Event.Solves ⟨.edit update, result⟩ := by
  rintro ⟨_, _, _, ⟨⟩, -⟩

/-- The last solve that was accepted had this configuration and returned this report, and the
data did not change after it. -/
def InEffect (events : List (Event K)) (config : SolverConfig K) (report : Report) : Prop :=
  ∃ later earlier steps timing,
    events = later ++ ⟨.solve steps timing config, .ok (.report report)⟩ :: earlier ∧
      config.validate = .ok () ∧ ∀ event ∈ later, event.changesData = false ∧ ¬ event.Solves

namespace InEffect

variable {events : List (Event K)} {event : Event K} {config : SolverConfig K} {report : Report}

theorem not_nil : ¬ InEffect ([] : List (Event K)) config report := by
  rintro ⟨later, earlier, steps, timing, split, -⟩
  cases later <;> cases split

theorem cons_iff (keeps : event.changesData = false) (other : ¬ event.Solves) :
    InEffect (event :: events) config report ↔ InEffect events config report := by
  constructor
  · rintro ⟨later, earlier, steps, timing, split, valid, quiet⟩
    cases later with
    | nil =>
        obtain ⟨rfl, -⟩ := List.cons.inj split
        exact absurd ⟨steps, timing, config, rfl, valid⟩ other
    | cons first rest =>
        obtain ⟨-, split⟩ := List.cons.inj split
        exact ⟨rest, earlier, steps, timing, split, valid, (List.forall_mem_cons.mp quiet).2⟩
  · rintro ⟨later, earlier, steps, timing, rfl, valid, quiet⟩
    exact ⟨event :: later, earlier, steps, timing, rfl, valid,
      List.forall_mem_cons.mpr ⟨⟨keeps, other⟩, quiet⟩⟩

/-- No solve is in effect after a change of the data. -/
theorem not_cons_of_change (changes : event.changesData = true) :
    ¬ InEffect (event :: events) config report := by
  rintro ⟨later, earlier, steps, timing, split, valid, quiet⟩
  cases later with
  | nil =>
      obtain ⟨rfl, -⟩ := List.cons.inj split
      cases changes
  | cons first rest =>
      obtain ⟨rfl, -⟩ := List.cons.inj split
      have kept := (List.forall_mem_cons.mp quiet).1.1
      rw [changes] at kept
      cases kept

/-- After a solve that was accepted only this solve may be in effect. -/
theorem cons_solve_iff {steps : Nat} {timing : Timing} {solver : SolverConfig K}
    {result : Except (Stop K) (Return K)} (valid : solver.validate = .ok ()) :
    InEffect (⟨.solve steps timing solver, result⟩ :: events) config report ↔
      config = solver ∧ result = .ok (.report report) := by
  constructor
  · rintro ⟨later, earlier, _, _, split, -, quiet⟩
    cases later with
    | nil =>
        cases split
        exact ⟨rfl, rfl⟩
    | cons first rest =>
        obtain ⟨rfl, -⟩ := List.cons.inj split
        exact absurd ⟨steps, timing, solver, rfl, valid⟩ (List.forall_mem_cons.mp quiet).1.2
  · rintro ⟨rfl, rfl⟩
    exact ⟨[], events, steps, timing, rfl, valid, List.forall_mem_nil _⟩

end InEffect

inductive Remembers (events : List (Event K)) (problem : Problem K) : Prop
  | solved (config : SolverConfig K) (report : Report)
      (effect : ∀ other found, InEffect events other found ↔ other = config ∧ found = report)
      (state : problem.state = .solved report.status)
      (records : ∀ algorithm, (problem.record algorithm).isSome ↔ config.Leaves algorithm)
  | unsolved (effect : ∀ other found, ¬ InEffect events other found)
      (state : problem.state = .unsolved) (records : ∀ algorithm, problem.record algorithm = none)

namespace Remembers

open Problem Stop

variable {events : List (Event K)} {problem next : Problem K}

theorem of_kept (remembers : Remembers events problem) {event : Event K}
    (keeps : event.changesData = false) (other : ¬ event.Solves)
    (state : next.state = problem.state)
    (records : ∀ algorithm, next.record algorithm = problem.record algorithm) :
    Remembers (event :: events) next := by
  cases remembers with
  | solved config report effect solved left =>
      refine .solved config report ?_ (state.trans solved) ?_
      · intro other found
        rw [InEffect.cons_iff keeps ‹_›]
        exact effect other found
      · intro algorithm
        rw [records]
        exact left algorithm
  | unsolved effect unsolved left =>
      refine .unsolved ?_ (state.trans unsolved) ?_
      · intro other found
        rw [InEffect.cons_iff keeps ‹_›]
        exact effect other found
      · intro algorithm
        rw [records]
        exact left algorithm

theorem respond (remembers : Remembers events problem)
    (wellFormed : problem.workspace.WellFormed) {request : Request K}
    {result : Except (Failure K) (Return K)}
    (responds : request.respond problem = some (next, result)) :
    Remembers (⟨request, lift result⟩ :: events) next := by
  cases request with
  | edit update =>
      have other := Event.not_solves_edit update (lift result)
      rcases Request.respond_edit responds with ⟨index, rfl, ran⟩ | ⟨⟨failure, rfl⟩, rfl⟩
      · have edited := Edit.run_edited wellFormed ran
        cases changes : update.changesData with
        | true =>
            obtain ⟨state, records⟩ := edited.changed changes
            exact .unsolved (fun _ _ => InEffect.not_cons_of_change changes) state records
        | false =>
            obtain ⟨state, records⟩ := edited.kept changes
            exact remembers.of_kept changes other state records
      · exact remembers.of_kept rfl other rfl fun _ => rfl
  | inquire inquiry =>
      cases responds
      refine remembers.of_kept rfl ?_ rfl fun _ => rfl
      rintro ⟨_, _, _, ⟨⟩, -⟩
  | solve steps timing config =>
      cases checked : config.validate with
      | error invalid =>
          obtain ⟨rfl, rfl⟩ := Request.respond_invalid checked responds
          refine remembers.of_kept rfl ?_ rfl fun _ => rfl
          rintro ⟨_, _, _, ⟨⟩, valid⟩
          rw [checked] at valid
          cases valid
      | ok value =>
          -- From here on only this solve may be in effect, whatever was before it.
          obtain ⟨answer, concluded, rfl⟩ :=
            Request.respond_solve_concluded wellFormed checked responds
          cases answer with
          | error failure =>
              obtain ⟨state, records⟩ := concluded.failed failure rfl
              refine .unsolved ?_ state records
              intro other found effect
              cases ((InEffect.cons_solve_iff checked).mp effect).2
          | ok report =>
              obtain ⟨state, records⟩ := concluded.solved report rfl
              refine .solved config report ?_ state records
              intro other found
              rw [InEffect.cons_solve_iff checked]
              constructor
              · rintro ⟨rfl, same⟩
                cases same
                exact ⟨rfl, rfl⟩
              · rintro ⟨rfl, rfl⟩
                exact ⟨rfl, rfl⟩

end Remembers

theorem History.remembers {events : List (Event K)} {problem : Problem K}
    (history : History events problem) : Remembers events problem := by
  have none (algorithm : Algorithm) : (Problem.empty : Problem K).record algorithm = none := by
    cases algorithm <;> rfl
  induction history with
  | create => exact .unsolved (fun _ _ => InEffect.not_nil) rfl none
  | copy _ _ =>
      refine .unsolved (fun _ _ => InEffect.not_nil) rfl fun algorithm => ?_
      cases algorithm <;> rfl
  | returned request earlier ends inductionHypothesis =>
      have responds := Request.respond_of_returned earlier.wellFormed ends
      exact inductionHypothesis.respond earlier.wellFormed responds
  | stopped request earlier ends ended inductionHypothesis =>
      obtain ⟨failure, responds, rfl⟩ :=
        Request.respond_of_stopped earlier.wellFormed ends ended
      exact inductionHypothesis.respond earlier.wellFormed responds

/-- At the end of every history exactly those algorithms have a solution that the solve in
effect leaves, and the problem is solved exactly if there is such a solve, with the status of
its report. -/
theorem History.solution_fresh {events : List (Event K)} {problem : Problem K}
    (history : History events problem) :
    (∀ algorithm,
      ((∃ solution, Solution.extract problem algorithm = .ok solution) ↔
        ∃ config report, InEffect events config report ∧ config.Leaves algorithm) ∧
      ((¬ ∃ config report, InEffect events config report ∧ config.Leaves algorithm) →
        Solution.extract problem algorithm = .error (.error (.solverNotRun algorithm)))) ∧
    problem.state ≠ .solving ∧
    ∀ status, problem.state = .solved status ↔
      ∃ config report, InEffect events config report ∧ report.status = status := by
  have wellFormed := history.wellFormed
  cases history.remembers with
  | solved config report effect state records =>
      have leaves (algorithm : Algorithm) : config.Leaves algorithm ↔
          ∃ other found, InEffect events other found ∧ other.Leaves algorithm := by
        constructor
        · exact fun left => ⟨config, report, (effect _ _).mpr ⟨rfl, rfl⟩, left⟩
        · rintro ⟨other, found, inEffect, left⟩
          obtain ⟨rfl, rfl⟩ := (effect _ _).mp inEffect
          exact left
      refine ⟨fun algorithm => ⟨?_, ?_⟩, ?_, ?_⟩
      · rw [Problem.exists_extract_iff wellFormed, records, leaves]
      · intro stale
        rw [← leaves, ← records] at stale
        exact Problem.extract_of_none (by simpa using stale)
      · rw [state]
        exact nofun
      · intro status
        rw [state, SolveState.solved.injEq]
        constructor
        · exact fun same => ⟨config, report, (effect _ _).mpr ⟨rfl, rfl⟩, same⟩
        · rintro ⟨other, found, inEffect, same⟩
          obtain ⟨rfl, rfl⟩ := (effect _ _).mp inEffect
          exact same
  | unsolved effect state records =>
      refine ⟨fun algorithm => ⟨?_, fun _ => Problem.extract_of_none (records algorithm)⟩, ?_, ?_⟩
      · rw [Problem.exists_extract_iff wellFormed, records]
        simp [effect]
      · rw [state]
        exact nofun
      · intro status
        rw [state]
        simp [effect]

/-- A binary column, a branch and cut, a new name, nothing deleted and coefficients refused: the
branch and cut stays in effect, with its relaxation. -/
theorem History.solution_fresh_renamed :
    ∃ (events : List (Event ℚ)) (problem : Problem ℚ) (report : Report),
      History events problem ∧ events.length = 6 ∧
      InEffect events (.branchCut .standard) report ∧ problem.state = .solved report.status ∧
      (∃ solution, Solution.extract problem .branchCut = .ok solution) ∧
      ∃ solution, Solution.extract problem .simplex = .ok solution := by
  have grown := History.returned (.edit (.addColumns 1)) (History.create (K := ℚ)) rfl
  have binary := History.returned (.edit (.setColumnKind 1 .binary)) grown rfl
  obtain ⟨report, problem, ends⟩ := Request.exists_reported binary.wellFormed 5 .still
    (.branchCut .standard) (by decide +kernel)
  have solved := History.returned _ binary ends
  have renamed := History.returned (.edit (.setName none)) solved rfl
  have kept := History.returned (.edit (.deleteRows [])) renamed rfl
  have refused := History.stopped (.edit (.setRowCoefficients 1 [1] [])) kept rfl nofun
  have valid : (SolverConfig.branchCut .standard : SolverConfig ℚ).validate = .ok () :=
    Except.eq_ok (by decide +kernel)
  have answers : ∀ {events : List (Event ℚ)} {last : Problem ℚ}, History events last →
      InEffect events (.branchCut .standard) report → last.state = .solved report.status ∧
        (∃ solution, Solution.extract last .branchCut = .ok solution) ∧
        ∃ solution, Solution.extract last .simplex = .ok solution := by
    intro events last history effect
    obtain ⟨solutions, -, state⟩ := history.solution_fresh
    exact ⟨(state _).mpr ⟨_, _, effect, rfl⟩, (solutions _).1.mpr ⟨_, _, effect, .inl rfl⟩,
      (solutions _).1.mpr ⟨_, _, effect, .inr ⟨rfl, rfl⟩⟩⟩
  refine ⟨_, _, report, refused, rfl, ?effect, answers refused ?effect⟩
  rw [InEffect.cons_iff rfl (Event.not_solves_edit _ _),
    InEffect.cons_iff rfl (Event.not_solves_edit _ _),
    InEffect.cons_iff rfl (Event.not_solves_edit _ _), InEffect.cons_solve_iff valid]
  exact ⟨rfl, rfl⟩

end LinearProgramming
