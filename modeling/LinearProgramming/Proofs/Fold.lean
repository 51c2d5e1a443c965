/-!
# Folds that keep the better of two values

The choice rules of the solvers run through a list and keep one of its values: a
later value replaces the current one, or does not.  What is chosen is a value of the
list that is as good as all others.
-/

namespace LinearProgramming

/-- A step of a fold that keeps the better of two values. -/
structure Prefers {A : Type} (step : Option A → A → Option A) (good : A → A → Prop) : Prop where
  first : ∀ value, step none value = some value
  next : ∀ current value, step (some current) value = some value ∧ good value current ∨
    step (some current) value = some current ∧ good current value
  refl : ∀ value, good value value
  trans : ∀ {first second third}, good first second → good second third → good first third

namespace Prefers

variable {A : Type} {step : Option A → A → Option A} {good : A → A → Prop}

theorem of_choice (first : ∀ value, step none value = some value)
    (next : ∀ current value,
      step (some current) value = some value ∨ step (some current) value = some current) :
    Prefers step fun _ _ => True where
  first := first
  next := by simpa using next
  refl _ := trivial
  trans _ _ := trivial

theorem foldl_some (prefers : Prefers step good) (values : List A) (start : A) :
    ∃ best, values.foldl step (some start) = some best ∧
      (best = start ∨ best ∈ values) ∧ good best start ∧ ∀ value ∈ values, good best value := by
  induction values generalizing start with
  | nil => exact ⟨start, rfl, .inl rfl, prefers.refl start, by simp⟩
  | cons value values inductionHypothesis =>
      rw [List.foldl_cons]
      rcases prefers.next start value with ⟨taken, better⟩ | ⟨kept, better⟩
      · obtain ⟨best, found, origin, goodStart, goodRest⟩ := inductionHypothesis value
        refine ⟨best, by rw [taken, found], .inr ?_, prefers.trans goodStart better, ?_⟩
        · exact List.mem_cons.mpr origin
        · exact List.forall_mem_cons.mpr ⟨goodStart, goodRest⟩
      · obtain ⟨best, found, origin, goodStart, goodRest⟩ := inductionHypothesis start
        refine ⟨best, by rw [kept, found], origin.imp_right (List.mem_cons_of_mem _), goodStart, ?_⟩
        exact List.forall_mem_cons.mpr ⟨prefers.trans goodStart better, goodRest⟩

theorem foldl_eq_none_iff (prefers : Prefers step good) (values : List A) :
    values.foldl step none = none ↔ values = [] := by
  cases values with
  | nil => simp
  | cons value values =>
      obtain ⟨best, found, -⟩ := prefers.foldl_some values value
      simp [prefers.first, found]

theorem foldl_eq_some (prefers : Prefers step good) {values : List A} {best : A}
    (found : values.foldl step none = some best) :
    best ∈ values ∧ ∀ value ∈ values, good best value := by
  cases values with
  | nil => simp at found
  | cons value values =>
      rw [List.foldl_cons, prefers.first] at found
      obtain ⟨best', found', origin, goodStart, goodRest⟩ := prefers.foldl_some values value
      obtain rfl : best' = best := Option.some.inj (found'.symm.trans found)
      exact ⟨List.mem_cons.mpr origin, List.forall_mem_cons.mpr ⟨goodStart, goodRest⟩⟩

end Prefers

end LinearProgramming
