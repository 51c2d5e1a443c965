import Mathlib.Data.List.Forall2

/-!
# Changes in steps

A call may stop between two steps of what it does.  A `Stepwise` program gives the data as
they are then, so what was written before the stop stays written.  `whole` is how a program
ends that changes everything or nothing: it gives the data after the change, or the data as
they were before.
-/

namespace LinearProgramming

/-! ## Results that may be an error -/

namespace Except

variable {E A B : Type}

@[simp]
theorem ok_bind (value : A) (next : A → Except E B) : (Except.ok value >>= next) = next value :=
  rfl

@[simp]
theorem error_bind (error : E) (next : A → Except E B) :
    (Except.error error >>= next) = Except.error error := rfl

theorem mapError_bind {F : Type} (change : E → F) (result : Except E A)
    (next : A → Except E B) :
    (result >>= next).mapError change =
      result.mapError change >>= fun value => (next value).mapError change := by
  cases result <;> rfl

theorem bind_eq_ok_iff {result : Except E A} {next : A → Except E B} {value : B} :
    (result >>= next) = .ok value ↔ ∃ first, result = .ok first ∧ next first = .ok value := by
  cases result with
  | error error => simp
  | ok first => simp

theorem mapM_eq_ok_iff {test : A → Except E B} {items : List A} {values : List B} :
    items.mapM test = .ok values ↔
      List.Forall₂ (fun item value => test item = .ok value) items values := by
  induction items generalizing values with
  | nil => cases values <;> simp [pure, Except.pure]
  | cons item items inductionHypothesis =>
      rw [List.mapM_cons, bind_eq_ok_iff, List.forall₂_cons_left_iff]
      simp only [bind_eq_ok_iff, inductionHypothesis, pure, Except.pure, Except.ok.injEq]
      constructor
      · rintro ⟨value, first, rest, others, rfl⟩
        exact ⟨value, rest, first, others, rfl⟩
      · rintro ⟨value, rest, first, others, rfl⟩
        exact ⟨value, first, rest, others, rfl⟩

theorem exists_of_mem_mapM {test : A → Except E B} {items : List A} {values : List B}
    (found : items.mapM test = .ok values) {value : B} (member : value ∈ values) :
    ∃ item, test item = .ok value := by
  have related := mapM_eq_ok_iff.mp found
  induction related with
  | nil => cases member
  | cons first _ inductionHypothesis =>
      rcases List.mem_cons.mp member with rfl | inside
      · exact ⟨_, first⟩
      · exact inductionHypothesis (mapM_eq_ok_iff.mpr ‹_›) inside

theorem mapError_eq_ok_iff {F : Type} {change : E → F} {result : Except E A} {value : A} :
    result.mapError change = .ok value ↔ result = .ok value := by
  cases result <;> simp [Except.mapError]

@[simp]
theorem toOption_eq_some_iff {result : Except E A} {value : A} :
    result.toOption = some value ↔ result = .ok value := by
  cases result <;> simp [Except.toOption]

theorem exists_error {result : Except E A} (fails : result.isOk = false) :
    ∃ error, result = .error error := by
  cases result with
  | error error => exact ⟨error, rfl⟩
  | ok value => cases fails

theorem exists_ok {result : Except E A} (holds : result.isOk = true) :
    ∃ value, result = .ok value := by
  cases result with
  | error error => cases holds
  | ok value => exact ⟨value, rfl⟩

theorem eq_ok {result : Except E Unit} (holds : result.isOk = true) : result = .ok () := by
  cases result with
  | error error => cases holds
  | ok value => rfl

end Except

abbrev Stepwise (E S A : Type) : Type := EStateM E S A

namespace Stepwise

variable {E S A B : Type}

def inspect (test : S → Except E A) : Stepwise E S A := do
  MonadExcept.ofExcept (test (← get))

def observe (look : S → A) : Stepwise E S A := inspect fun state => pure (look state)

def change (update : S → S) : Stepwise E S Unit := modify update

/-- The end of a change that happens as a whole or not at all. -/
def whole (state : S) : Except E (S × A) → EStateM.Result E S A
  | .ok (next, value) => .ok value next
  | .error stop => .error stop state

theorem run_bind (program : Stepwise E S A) (next : A → Stepwise E S B) (state : S) :
    (program >>= next).run state =
      match program.run state with
      | .ok value after => (next value).run after
      | .error stop after => .error stop after := rfl

theorem run_bind_of_ok {program : Stepwise E S A} {state after : S} {value : A}
    (ends : program.run state = .ok value after) (next : A → Stepwise E S B) :
    (program >>= next).run state = (next value).run after := by
  rw [run_bind, ends]

theorem run_bind_of_error {program : Stepwise E S A} {state after : S} {stop : E}
    (ends : program.run state = .error stop after) (next : A → Stepwise E S B) :
    (program >>= next).run state = .error stop after := by
  rw [run_bind, ends]

@[simp]
theorem run_change_bind (update : S → S) (next : Unit → Stepwise E S B) (state : S) :
    (change update >>= next).run state = (next ()).run (update state) := rfl

theorem run_inspect_of_ok {test : S → Except E A} {state : S} {value : A}
    (found : test state = .ok value) : (inspect test).run state = .ok value state := by
  change (MonadExcept.ofExcept (test state) : Stepwise E S A).run state = _
  rw [found]
  rfl

theorem run_inspect_of_error {test : S → Except E A} {state : S} {stop : E}
    (found : test state = .error stop) : (inspect test).run state = .error stop state := by
  change (MonadExcept.ofExcept (test state) : Stepwise E S A).run state = _
  rw [found]
  rfl

theorem run_inspect (test : S → Except E A) (state : S) :
    (inspect test).run state = whole state ((test state).map (state, ·)) := by
  cases found : test state with
  | error stop => exact run_inspect_of_error found
  | ok value => exact run_inspect_of_ok found

@[simp]
theorem run_observe_bind (look : S → A) (next : A → Stepwise E S B) (state : S) :
    (observe look >>= next).run state = (next (look state)).run state := rfl

theorem run_inspect_bind {test : S → Except E A} {next : A → Stepwise E S B} {state : S}
    {rest : A → Except E (S × B)}
    (ends : ∀ value, test state = .ok value → (next value).run state = whole state (rest value)) :
    (inspect test >>= next).run state = whole state (test state >>= rest) := by
  cases found : test state with
  | error stop =>
      exact run_bind_of_error (run_inspect_of_error found) next
  | ok value => exact (run_bind_of_ok (run_inspect_of_ok found) next).trans (ends value found)

/-- A loop over steps that go through as long as an invariant holds is a fold. -/
theorem run_forM (Keeps : S → Prop) (update : S → A → S) {step : A → Stepwise E S Unit}
    {items : List A}
    (goes : ∀ item ∈ items, ∀ state, Keeps state →
      (step item).run state = .ok () (update state item))
    (keeps : ∀ item ∈ items, ∀ state, Keeps state → Keeps (update state item))
    {state : S} (holds : Keeps state) :
    (items.forM step).run state = .ok () (items.foldl update state) := by
  induction items generalizing state with
  | nil => rfl
  | cons item items inductionHypothesis =>
      obtain ⟨first, rest⟩ := List.forall_mem_cons.mp goes
      obtain ⟨keepsFirst, keepsRest⟩ := List.forall_mem_cons.mp keeps
      exact (run_bind_of_ok (first state holds) _).trans
        (inductionHypothesis rest keepsRest (keepsFirst state holds))

end Stepwise

end LinearProgramming
