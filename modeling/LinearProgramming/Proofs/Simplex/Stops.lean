import LinearProgramming.Proofs.Endings
import LinearProgramming.Proofs.Feasibility

/-!
# Runs that a limit stops

A phase makes no more pivots than remain, and the limit that it names is one that it met: no
pivot remained, the clock had passed the time limit, or `watch` objected to its last tableau.  The
point of a run is read off that tableau, so a run keeps the limits it is given and names an
objective limit only with a point that is beyond it.
-/

namespace LinearProgramming.Simplex

variable {K : Type} [Scalar K] {options : Options K} {clock : Clock}

/-! ## One phase -/

inductive Pivots (options : Options K) (columns : Nat) : Nat → Progress K → Progress K → Prop
  | refl (progress : Progress K) : Pivots options columns 0 progress progress
  | cons {made row column : Nat} {progress final : Progress K}
      (entering : enteringColumn options progress.bland progress.tableau columns = some column)
      (leaving : leavingRow options progress.bland progress.tableau column = some row)
      (rest : Pivots options columns made (progress.step options row column) final) :
      Pivots options columns (made + 1) progress final

theorem Pivots.pivots_eq {columns made : Nat} {progress final : Progress K}
    (pivots : Pivots options columns made progress final) :
    final.pivots = progress.pivots + made := by
  induction pivots with
  | refl progress => rfl
  | cons entering leaving rest inductionHypothesis =>
      rw [inductionHypothesis, Progress.step, Nat.add_assoc, Nat.add_comm 1]

/-- A limit that a phase has met where it ends, if `allowed` is how many pivots its counter may
show. -/
inductive Met (options : Options K) (clock : Clock) (watch : Tableau K → Option Limit)
    (allowed : Nat) (final : Progress K) : Limit → Prop
  | iterations (spent : final.pivots = allowed) : Met options clock watch allowed final .iterations
  | time (late : options.outOfTime (clock final.pivots) = true) :
      Met options clock watch allowed final .time
  | watched {limit : Limit} (seen : watch final.tableau = some limit) :
      Met options clock watch allowed final limit

section Improve

variable {columns : Nat} {watch : Tableau K → Option Limit}

theorem exists_pivots_of_improve (remaining : Nat) (progress : Progress K) :
    ∃ made ≤ remaining, Pivots options columns made progress
      (improve options clock columns watch remaining progress).1 := by
  fun_induction improve options clock columns watch remaining progress with
  | case5 remaining progress _ column entering row leaving next limit _ =>
      -- A limit of the objective is seen after a pivot, which counts all the same.
      exact ⟨1, Nat.le_add_left 1 remaining, .cons entering leaving (.refl next)⟩
  | case6 remaining progress _ column entering row leaving next _ inductionHypothesis =>
      obtain ⟨made, few, pivots⟩ := inductionHypothesis
      exact ⟨made + 1, Nat.add_le_add_right few 1, .cons entering leaving pivots⟩
  | _ => exact ⟨0, Nat.zero_le _, .refl _⟩

theorem pivots_improve_le (remaining : Nat) (progress : Progress K) :
    (improve options clock columns watch remaining progress).1.pivots ≤
      progress.pivots + remaining := by
  obtain ⟨made, few, pivots⟩ : ∃ made ≤ remaining, Pivots options columns made progress
      (improve options clock columns watch remaining progress).1 :=
    exists_pivots_of_improve remaining progress
  rw [pivots.pivots_eq]
  exact Nat.add_le_add_left few _

/-- A phase names only a limit that it met. -/
theorem met_of_improve {remaining : Nat} {progress final : Progress K} {limit : Limit}
    (stopped : improve options clock columns watch remaining progress = (final, .stopped limit)) :
    Met options clock watch (progress.pivots + remaining) final limit := by
  fun_induction improve options clock columns watch remaining progress with
  | case1 progress =>
      cases stopped
      exact .iterations rfl
  | case2 remaining progress late =>
      cases stopped
      exact .time late
  | case5 remaining progress _ column _ row _ next found seen =>
      obtain ⟨same, ending⟩ := Prod.mk.inj stopped
      cases ending
      exact same ▸ .watched seen
  | case6 remaining progress _ column _ row _ next _ inductionHypothesis =>
      have met := inductionHypothesis stopped
      rwa [show next.pivots = progress.pivots + 1 from rfl, Nat.add_assoc,
        Nat.add_comm 1] at met
  | _ => simp at stopped

end Improve

/-! ## Both phases -/

theorem pivots_findBasis_le (start : Tableau K) :
    (findBasis options clock start).1.pivots ≤ options.pivotLimit := by
  unfold findBasis
  split
  · exact Nat.zero_le _
  · have few : (improve options clock start.columns (fun _ => none) options.pivotLimit
        ⟨{ start with objective := artificialObjective start }, 0, 0⟩).1.pivots ≤
          0 + options.pivotLimit := pivots_improve_le _ _
    rw [Nat.zero_add] at few
    unfold phaseOne
    dsimp only
    split <;> exact few

/-- Phase one watches nothing, so only the pivots or the time can run out. -/
theorem met_of_findBasis {start : Tableau K} {final : Progress K} {limit : Limit}
    (stopped : findBasis options clock start = (final, .stopped limit)) :
    Met options clock (fun _ => none) options.pivotLimit final limit := by
  unfold findBasis at stopped
  split at stopped
  · cases stopped
  -- The loop may stop at a limit; what follows it only tells feasible from infeasible.
  unfold phaseOne at stopped
  dsimp only at stopped
  split at stopped
  · rename_i reached ended
    cases stopped
    have met := met_of_improve (Prod.ext rfl ended)
    rw [Nat.zero_add] at met
    cases met with
    | iterations spent => exact .iterations spent
    | time late => exact .time late
    | watched seen => cases seen
  · have ending := (Prod.mk.inj stopped).2
    split at ending <;> cases ending

section PhaseTwo

variable {program : Program K} {form : StandardForm K} {progress : Progress K}
  (few : progress.pivots ≤ options.pivotLimit)

include few

theorem pivots_phaseTwo_le :
    (phaseTwo options clock program form progress).1.pivots ≤ options.pivotLimit := by
  have most : (phaseTwo options clock program form progress).1.pivots ≤
      progress.pivots + (options.pivotLimit - progress.pivots) := pivots_improve_le _ _
  rwa [Nat.add_sub_cancel' few] at most

theorem met_of_phaseTwo {final : Progress K} {limit : Limit}
    (stopped : phaseTwo options clock program form progress = (final, .stopped limit)) :
    Met options clock.next (passedLimit options program form) options.pivotLimit final limit := by
  have met := met_of_improve stopped
  rwa [Nat.add_sub_cancel' few] at met

end PhaseTwo

/-! ## The limits of a run -/

inductive Passed (options : Options K) (direction : Direction) (objective : K) : Limit → Prop
  | below (minimizes : direction = .minimize) (low : objective < options.objectiveLower) :
      Passed options direction objective .objectiveBelow
  | above (maximizes : direction = .maximize) (high : options.objectiveUpper < objective) :
      Passed options direction objective .objectiveAbove

theorem passed_of_passedLimit {program : Program K} {form : StandardForm K} {tableau : Tableau K}
    {limit : Limit} (found : passedLimit options program form tableau = some limit) :
    Passed options program.direction (program.objective (form.columns tableau.values)) limit := by
  unfold passedLimit at found
  split at found
  · dsimp only at found
    split at found <;> rename_i direction <;> split at found <;> rename_i beyond <;> cases found
    · exact .below direction beyond
    · exact .above direction beyond
  · cases found

inductive Told (options : Options K) (clock : Clock) (direction : Direction) (pivots : Nat) :
    ReturnCode → PointStatus → Option (Point K) → Prop
  | rejected {code : ReturnCode} (rejection : code = .failed ∨ code = .incorrectBounds) :
      Told options clock direction pivots code .undefined none
  | found {status : PointStatus} (point : Point K)
      (decides : status = .optimal ∨ status = .noneFeasible ∨ status = .unbounded) :
      Told options clock direction pivots .ok status (some point)
  | presolved {code : ReturnCode} (point : Point K) (presolves : options.presolves = true)
      (decides : code = .noPrimalFeasible ∨ code = .noDualFeasible) :
      Told options clock direction pivots code .undefined (some point)
  | spent {status : PointStatus} (point : Point K)
      (phase : status = .feasible ∨ status = .infeasible) (all : pivots = options.pivotLimit) :
      Told options clock direction pivots .iterationLimit status (some point)
  | late {status : PointStatus} (point : Point K) (reading : Nat)
      (phase : status = .feasible ∨ status = .infeasible)
      (passed : options.outOfTime (clock reading) = true) :
      Told options clock direction pivots .timeLimit status (some point)
  | passed {limit : Limit} {point : Point K}
      (beyond : Passed options direction point.objective limit) :
      Told options clock direction pivots limit.returnCode .feasible (some point)

theorem told_presolved {status : PointStatus} (direction : Direction) (pivots : Nat)
    (decides : status = .optimal ∨ status = .noneFeasible ∨ status = .unbounded)
    (point : Point K) :
    Told options clock direction pivots (presolved options .ok status).1
      (presolved options .ok status).2 (some point) := by
  unfold presolved
  cases presolves : options.presolves
  · exact .found point decides
  · rcases decides with rfl | rfl | rfl
    · exact .found point (.inl rfl)
    · exact .presolved point presolves (.inl rfl)
    · exact .presolved point presolves (.inr rfl)

theorem told_phaseOne {direction : Direction} {final : Progress K} {limit : Limit}
    (met : Met options clock (fun _ => none) options.pivotLimit final limit) (point : Point K) :
    Told options clock direction final.pivots limit.returnCode .infeasible (some point) := by
  cases met with
  | iterations spent => exact .spent point (.inr rfl) spent
  | time late => exact .late point final.pivots (.inr rfl) late
  | watched seen => cases seen

/-- The point that is reported has the very objective that `passedLimit` compared. -/
theorem told_phaseTwo {program : Program K} {form : StandardForm K} {final : Progress K}
    {limit : Limit}
    (met : Met options clock.next (passedLimit options program form) options.pivotLimit final
      limit)
    (multipliers : List K) :
    Told options clock program.direction final.pivots limit.returnCode .feasible
      (some (form.recover program final.tableau.values multipliers)) := by
  cases met with
  | iterations spent => exact .spent _ (.inl rfl) spent
  | time late => exact .late _ (final.pivots + 1) (.inl rfl) late
  | watched seen => exact .passed (passed_of_passedLimit seen)

theorem solve_told (options : Options K) (clock : Clock) (program : Program K) :
    Told options clock program.direction (solve options clock program).iterations
      (solve options clock program).code (solve options clock program).status
      (solve options clock program).point := by
  unfold solve
  split
  · exact .rejected (.inl rfl)
  split
  · exact .rejected (.inr rfl)
  dsimp only [finish]
  have few : (findBasis options clock
      (Tableau.ofStandardForm (StandardForm.ofProgram program))).1.pivots ≤ options.pivotLimit :=
    pivots_findBasis_le _
  split
  · exact told_presolved _ _ (.inr (.inl rfl)) _
  · rename_i limit stopped
    rw [presolved_limit]
    exact told_phaseOne (met_of_findBasis (Prod.ext rfl stopped)) _
  · split
    · exact told_presolved _ _ (.inl rfl) _
    · exact told_presolved _ _ (.inr (.inr rfl)) _
    · rename_i limit stopped
      rw [presolved_limit]
      exact told_phaseTwo (met_of_phaseTwo few (Prod.ext rfl stopped)) _

theorem iterations_solve_le (options : Options K) (clock : Clock) (program : Program K) :
    (solve options clock program).iterations ≤ options.pivotLimit := by
  unfold solve
  split
  · exact Nat.zero_le _
  split
  · exact Nat.zero_le _
  dsimp only [finish]
  have few : (findBasis options clock
      (Tableau.ofStandardForm (StandardForm.ofProgram program))).1.pivots ≤ options.pivotLimit :=
    pivots_findBasis_le _
  split
  · exact few
  · exact few
  · have all : (phaseTwo options clock program (StandardForm.ofProgram program)
        (findBasis options clock
          (Tableau.ofStandardForm (StandardForm.ofProgram program))).1).1.pivots ≤
            options.pivotLimit := pivots_phaseTwo_le few
    split <;> exact all

/-- A run that keeps to its limits and names none that it did not meet. -/
structure KeepsLimits (options : Options K) (clock : Clock) (direction : Direction)
    (run : Run K) : Prop where
  /-- A negative limit allows as many pivots as a limit of zero. -/
  iterations_le : (run.iterations : Int) ≤ max options.iterationLimit 0
  iterations_eq (stopped : run.code = .iterationLimit) :
    (run.iterations : Int) = max options.iterationLimit 0
  late (stopped : run.code = .timeLimit) : ∃ reading, options.timeLimit ≤ clock reading
  above (stopped : run.code = .objectiveAboveLimit) :
    direction = .maximize ∧ run.status = .feasible ∧
      ∃ point, run.point = some point ∧ options.objectiveUpper < point.objective
  below (stopped : run.code = .objectiveBelowLimit) :
    direction = .minimize ∧ run.status = .feasible ∧
      ∃ point, run.point = some point ∧ point.objective < options.objectiveLower
  early (stopped : run.code = .iterationLimit ∨ run.code = .timeLimit) :
    run.status = .feasible ∨ run.status = .infeasible
  presolved (decides : run.code = .noPrimalFeasible ∨ run.code = .noDualFeasible) :
    options.presolves = true ∧ run.status = .undefined
  rejected (rejection : run.code = .failed ∨ run.code = .incorrectBounds) : run.point = none
  /-- Beside the codes above there is only `ok`. -/
  found : run.code ∈ [.iterationLimit, .timeLimit, .objectiveAboveLimit, .objectiveBelowLimit,
      .noPrimalFeasible, .noDualFeasible, .failed, .incorrectBounds] ∨
    run.code = .ok ∧
      (run.status = .optimal ∨ run.status = .noneFeasible ∨ run.status = .unbounded)

theorem Told.keepsLimits {direction : Direction} {run : Run K}
    (told : Told options clock direction run.iterations run.code run.status run.point)
    (few : run.iterations ≤ options.pivotLimit) : KeepsLimits options clock direction run := by
  have limit : (options.pivotLimit : Int) = max options.iterationLimit 0 := Int.toNat_eq_max _
  obtain ⟨⟨code, status, point, iterations⟩, rows, first⟩ := run
  have most : (iterations : Int) ≤ max options.iterationLimit 0 := limit ▸ Int.ofNat_le.mpr few
  dsimp only at told
  cases told with
  | rejected rejection =>
      rcases rejection with rfl | rfl <;> constructor <;> simp [most]
  | found point decides => constructor <;> simp [most, decides]
  | presolved point presolves decides =>
      rcases decides with rfl | rfl <;> constructor <;> simp [most, presolves]
  | spent point phase all => constructor <;> simp [phase, all, limit]
  | late point reading phase passed =>
      have reached : ∃ reading, options.timeLimit ≤ clock reading :=
        ⟨reading, of_decide_eq_true passed⟩
      constructor <;> simp [most, phase, reached]
  | passed beyond =>
      cases beyond with
      | below minimizes low => constructor <;> simp [most, minimizes, low, Limit.returnCode]
      | above maximizes high => constructor <;> simp [most, maximizes, high, Limit.returnCode]

/-- Every run keeps to its limits, whatever its parameters, its clock and its program. -/
theorem keepsLimits_solve (options : Options K) (clock : Clock) (program : Program K) :
    KeepsLimits options clock program.direction (solve options clock program) :=
  (solve_told options clock program).keepsLimits (iterations_solve_le options clock program)

/-- The upper objective limit stops the run in phase two, after its last pivot. -/
example :
    let options : Options ℚ := { Options.standard with objectiveUpper := 15 }
    let run := solve options .still Program.blend
    (run.code, run.status, run.iterations, run.point.map (·.objective)) =
      (.objectiveAboveLimit, .feasible, 5, some 24) := by
  decide +kernel

end LinearProgramming.Simplex
