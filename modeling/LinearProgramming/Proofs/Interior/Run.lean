import LinearProgramming.Interior.Solve

/-!
# Runs that come to the iteration

A run that is not decided before it starts iterating ends as its iteration does.  What holds of the
starting iterate and is kept by every step holds where the iteration ends, and an optimal end is one
whose merit was finite and below the tolerance.
-/

namespace LinearProgramming

variable {K : Type} [Scalar K]

def Program.equalityForm (program : Program K) : Interior.EqualityForm K :=
  .ofStandardForm (.ofProgram program)

namespace Interior

/-- How the iteration of a run ends, if the run comes to it. -/
def iteration? (program : Program K) : Option (Final K) :=
  if program.rows.isEmpty || program.columns.isEmpty || !program.boundsConsistent then none
  else if program.equalityForm.rows.isEmpty then none
  else
    (startingIterate program.equalityForm).map
      (iterateFrom program.equalityForm maxIterations 0 ⟨none, 0⟩)

theorem solve_of_iteration? {program : Program K} {final : Final K}
    (entered : iteration? program = some final) :
    (solve program).toOutcome = final.outcome (.ofProgram program) program := by
  unfold iteration? at entered
  split at entered
  · cases entered
  rename_i accepted
  split at entered
  · cases entered
  rename_i constrained
  obtain ⟨start, starts, rfl⟩ := Option.map_eq_some_iff.mp entered
  unfold solve
  rw [if_neg accepted]
  dsimp only
  rw [Program.equalityForm] at constrained starts
  rw [if_neg constrained, starts]
  rfl

theorem code_solve_eq_ok_iff {program : Program K} {final : Final K}
    (entered : iteration? program = some final) :
    (solve program).code = .ok ↔ final.ending = .optimal := by
  have code := congrArg Outcome.code (solve_of_iteration? entered)
  change (solve program).code = _ at code
  rw [code]
  unfold Final.outcome
  dsimp only
  split <;> rename_i ended <;> simp [ended]

theorem status_of_optimal {program : Program K} {final : Final K}
    (entered : iteration? program = some final) (ended : final.ending = .optimal) :
    (solve program).status = .optimal := by
  refine (congrArg Outcome.status (solve_of_iteration? entered)).trans ?_
  rw [Final.outcome, ended]

theorem Final.eq_recover_of_point {form : StandardForm K} {program : Program K} {final : Final K}
    {point : Point K} (given : (final.outcome form program).point = some point) :
    point = recover form program final.iterate := by
  unfold outcome at given
  dsimp only at given
  split at given
  · exact (Option.some.inj given).symm
  · cases given
  · cases given
  · cases given
  · cases given
  · exact (Option.some.inj given).symm

theorem exists_start_of_iteration? {program : Program K} {final : Final K}
    (entered : iteration? program = some final) :
    program.equalityForm.rows ≠ [] ∧
      ∃ start, startingIterate program.equalityForm = some start ∧
        iterateFrom program.equalityForm maxIterations 0 ⟨none, 0⟩ start = final := by
  unfold iteration? at entered
  split at entered
  · cases entered
  split at entered
  · cases entered
  rename_i constrained
  exact ⟨mt List.isEmpty_iff.mpr constrained, Option.map_eq_some_iff.mp entered⟩

variable {form : EqualityForm K}

/-- The iteration ends where it is, or goes on from the next iterate. -/
theorem iterateFrom_succ_cases (form : EqualityForm K) (remaining iteration : Nat)
    (record : Record K) (iterate : Iterate K) :
    (iterateFrom form (remaining + 1) iteration record iterate).iterations = iteration ∨
      ∃ point, linearize form iterate = some point ∧
        iterateFrom form (remaining + 1) iteration record iterate =
          iterateFrom form remaining (iteration + 1) (record.add (merit form iterate))
            (nextIterate form point) := by
  generalize limit : remaining + 1 = count
  fun_cases iterateFrom form count iteration record iterate with
  | case7 =>
      cases limit
      exact .inr ⟨_, ‹linearize form iterate = some _›, rfl⟩
  | _ => exact .inl rfl

theorem iterateFrom_induction {motive : Nat → Iterate K → Prop}
    (next : ∀ {iteration : Nat} {iterate : Iterate K} {point : Linearization K},
      motive iteration iterate → linearize form iterate = some point →
        motive (iteration + 1) (nextIterate form point))
    (remaining : Nat) {iteration : Nat} (record : Record K) {iterate : Iterate K}
    (holds : motive iteration iterate) :
    motive (iterateFrom form remaining iteration record iterate).iterations
      (iterateFrom form remaining iteration record iterate).iterate := by
  fun_induction iterateFrom form remaining iteration record iterate with
  | case7 remaining iteration record iterate _ _ _ _ _ _ point linearized inductionHypothesis =>
      exact inductionHypothesis (next holds linearized)
  | _ => exact holds

theorem merit_of_optimal {remaining iteration : Nat} {record : Record K} {iterate : Iterate K}
    (ended : (iterateFrom form remaining iteration record iterate).ending = .optimal) :
    Scalar.isFinite
        (merit form (iterateFrom form remaining iteration record iterate).iterate) = true ∧
      merit form (iterateFrom form remaining iteration record iterate).iterate < tolerance := by
  fun_induction iterateFrom form remaining iteration record iterate with
  | case3 _ _ _ iterate current _ finite small =>
      exact ⟨by simpa using finite, small⟩
  | case7 _ _ _ _ _ _ _ _ _ _ _ _ inductionHypothesis => exact inductionHypothesis ended
  | _ => cases ended

end Interior

end LinearProgramming
