import LinearProgramming.Proofs.Problem.History

/-!
# Beside a history

What callers have asked for can be followed beside a problem, by a value that every change updates
when it returns.  If the value says something true of the empty problem, and of the data alone, and
every change that is made keeps it true, then it is true after every history: nothing else that
happens to a problem changes its data.
-/

namespace LinearProgramming

variable {K : Type} [Scalar K] {A : Type}

omit [Scalar K] in
def Request.updates (update : Edit K → A → A) (value : A) : Request K → A
  | edit change => update change value
  | _ => value

/-- A value that is followed through a sequence of operations: a change that returns updates it. -/
inductive Follows (start : A) (update : Edit K → A → A) : List (Event K) → Problem K → A → Prop
  | create : Follows start update [] .empty start
  | copy {events problem value} : Follows start update events problem value →
      Follows start update [] problem.copy value
  | returned {events problem next value} (request : Request K) {answer} :
      Follows start update events problem value →
      (request.steps .plain).run problem = .ok answer next →
      Follows start update (⟨request, .ok answer⟩ :: events) next (request.updates update value)
  | stopped {events problem next value} (request : Request K) {stop} :
      Follows start update events problem value →
      (request.steps .plain).run problem = .error stop next → stop ≠ .halt .unfinished →
      Follows start update (⟨request, .error stop⟩ :: events) next value

variable {start value : A} {update : Edit K → A → A} {events : List (Event K)}
  {problem next : Problem K}

theorem Follows.history (follows : Follows start update events problem value) :
    History events problem := by
  induction follows with
  | create => exact .create
  | copy _ inductionHypothesis => exact .copy inductionHypothesis
  | returned request _ ends inductionHypothesis => exact .returned request inductionHypothesis ends
  | stopped request _ ends ended inductionHypothesis =>
      exact .stopped request inductionHypothesis ends ended

theorem History.exists_follows (history : History events problem) (start : A)
    (update : Edit K → A → A) : ∃ value, Follows start update events problem value := by
  induction history with
  | create => exact ⟨start, .create⟩
  | copy _ inductionHypothesis =>
      obtain ⟨value, follows⟩ := inductionHypothesis
      exact ⟨value, follows.copy⟩
  | returned request _ ends inductionHypothesis =>
      obtain ⟨value, follows⟩ := inductionHypothesis
      exact ⟨_, follows.returned request ends⟩
  | stopped request _ ends ended inductionHypothesis =>
      obtain ⟨value, follows⟩ := inductionHypothesis
      exact ⟨value, follows.stopped request ends ended⟩

structure Kept (update : Edit K → A → A) (holds : Workspace K → A → Prop) : Prop where
  sameData : ∀ before after value, Workspace.SameData before after → holds before value →
    holds after value
  edited : ∀ problem next (edit : Edit K) index value, problem.workspace.WellFormed →
    edit.run problem = .ok (next, index) → holds problem.workspace value →
      holds next.workspace (update edit value)

variable {holds : Workspace K → A → Prop} (kept : Kept update holds)

include kept

theorem Kept.returned (wellFormed : problem.workspace.WellFormed) {request : Request K}
    {answer : Return K} (ends : (request.steps .plain).run problem = .ok answer next)
    (held : holds problem.workspace value) :
    holds next.workspace (request.updates update value) := by
  have responds := Request.respond_of_returned wellFormed ends
  cases request with
  | edit change =>
      rcases Request.respond_edit responds with ⟨index, -, ran⟩ | ⟨⟨failure, failed⟩, -⟩
      · exact kept.edited problem next change index value wellFormed ran held
      · cases failed
  | inquire inquiry =>
      rw [Request.respond] at responds
      cases answered : inquiry.answer problem with
      | error failure =>
          rw [answered] at responds
          cases responds
      | ok reply =>
          rw [answered] at responds
          cases responds
          exact held
  | solve steps timing config =>
      cases checked : config.validate with
      | error invalid => cases (Request.respond_invalid checked responds).2
      | ok valid =>
          obtain ⟨answer, concluded, -⟩ :=
            Request.respond_solve_concluded wellFormed checked responds
          exact kept.sameData _ _ value concluded.data held

theorem Kept.stopped (wellFormed : problem.workspace.WellFormed) {request : Request K}
    {stop : Stop K} (ends : (request.steps .plain).run problem = .error stop next)
    (ended : stop ≠ .halt .unfinished) (held : holds problem.workspace value) :
    holds next.workspace value := by
  cases request with
  | edit change => rwa [Request.eq_of_stopped wellFormed rfl ends]
  | inquire inquiry => rwa [Request.eq_of_stopped wellFormed rfl ends]
  | solve steps timing config =>
      obtain ⟨failure, responds, -⟩ := Request.respond_of_stopped wellFormed ends ended
      cases checked : config.validate with
      | error invalid => rwa [(Request.respond_invalid checked responds).1]
      | ok valid =>
          obtain ⟨answer, concluded, -⟩ :=
            Request.respond_solve_concluded wellFormed checked responds
          exact kept.sameData _ _ value concluded.data held

/-- What is kept holds after every history. -/
theorem Kept.follows (begins : holds .empty start)
    (follows : Follows start update events problem value) : holds problem.workspace value := by
  induction follows with
  | create => exact begins
  | copy _ inductionHypothesis =>
      exact kept.sameData _ _ _ (Workspace.copy_sameData _) inductionHypothesis
  | returned request earlier ends inductionHypothesis =>
      exact kept.returned earlier.history.wellFormed ends inductionHypothesis
  | stopped request earlier ends ended inductionHypothesis =>
      exact kept.stopped earlier.history.wellFormed ends ended inductionHypothesis

end LinearProgramming
