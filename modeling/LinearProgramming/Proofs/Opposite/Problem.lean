import Mathlib.Algebra.Order.Group.MinMax
import LinearProgramming.Proofs.Opposite.Search
import LinearProgramming.Proofs.Problem.Independence

/-!
# Solves of opposite problems

Two problems are opposed if one has the data of the opposite program, whatever they have stored and
whatever their names are.  Solved in time, with the objective limits negated and exchanged, they
come to the same report, but for the names of the objective limits.  The solutions show the same
values; objective and duals are negated.  Only a branch and cut that does not search is another
matter: its snapshot shows the values of an earlier search, which the opposed problem need not have.
-/

namespace LinearProgramming

/-! ## Opposed problems -/

namespace Problem

variable {K : Type} [Scalar K] {problem : Problem K}

theorem run_setDirection (direction : Direction) :
    (Edit.setDirection direction).run problem =
      .ok (({ problem with
        workspace := ({ problem.workspace with direction } : Workspace K).discard } :
          Problem K).forget, none) := by
  cases direction <;> rfl

theorem run_setObjectiveConstant (constant : K) :
    (Edit.setObjectiveConstant constant).run problem =
      .ok (({ problem with
        workspace := ({ problem.workspace with constant } : Workspace K).discard } :
          Problem K).forget, none) := rfl

theorem run_setObjectiveCoefficient (wellFormed : problem.workspace.WellFormed) {position : Nat}
    (inside : position < problem.workspace.columns.length) (cost : K) :
    (Edit.setObjectiveCoefficient (position + 1) cost).run problem =
      .ok (({ problem with
        workspace := (problem.workspace.modifyColumn position
          fun current => { current with cost }).discard } : Problem K).forget, none) := by
  have narrow : Slots.narrow (position + 1 : Nat) = (position + 1 : Nat) :=
    Slots.narrow_of_lt (lt_values31_of_le (Nat.le_trans inside wellFormed.columnLimit))
  have checked : problem.checkColumn (position + 1) = .ok () := by
    rw [checkColumn, columnCount_eq wellFormed.columnLimit, if_pos ⟨Nat.succ_pos _, inside⟩]
    rfl
  have found : problem.workspace.columnPosition (position + 1 : Nat) = .ok position :=
    Workspace.columnPosition_eq_ok_iff.mpr ⟨by omega, by omega⟩
  have numbered : ((position + 1 : Nat) : Int) ≠ 0 := by omega
  rw [Edit.run, setObjectiveCoefficient, checked, narrow, Workspace.setObjective, if_neg numbered,
    found]
  rfl

end Problem

variable {K : Type} [ExactScalar K]

def negatedCosts (count : Nat) (columns : List (WorkColumn K)) : List (WorkColumn K) :=
  columns.mapIdx fun index column =>
    if index < count then { column with cost := -column.cost } else column

theorem negatedCosts_zero (columns : List (WorkColumn K)) : negatedCosts 0 columns = columns := by
  apply List.ext_getElem <;> simp [negatedCosts]

theorem negatedCosts_length (columns : List (WorkColumn K)) :
    negatedCosts columns.length columns =
      columns.map fun column => { column with cost := -column.cost } := by
  apply List.ext_getElem
  · simp [negatedCosts]
  · intro index _ inside
    have inside : index < columns.length := by simpa using inside
    simp [negatedCosts, inside]

theorem modify_negatedCosts {columns : List (WorkColumn K)} {count : Nat}
    (inside : count < columns.length) :
    (negatedCosts count columns).modify count
        (fun current => { current with cost := -columns[count].cost }) =
      negatedCosts (count + 1) columns := by
  apply List.ext_getElem
  · simp [negatedCosts]
  · intro index _ within
    simp only [negatedCosts, List.getElem_modify, List.getElem_mapIdx]
    rcases Nat.lt_trichotomy index count with less | rfl | greater
    · simp [less, Nat.lt_succ_of_lt less, Nat.ne_of_gt less]
    · simp
    · simp [Nat.not_lt_of_gt greater, Nat.ne_of_lt greater, Nat.not_lt.mpr greater]

theorem History.exists_negatedCosts {events : List (Event K)} {problem : Problem K}
    (history : History events problem)
    (unsolved : problem.workspace.discard = problem.workspace) {count : Nat}
    (limit : count ≤ problem.workspace.columns.length) :
    ∃ others other, History others other ∧ other.workspace.discard = other.workspace ∧
      other.workspace.direction = problem.workspace.direction ∧
      other.workspace.constant = problem.workspace.constant ∧
      other.workspace.rows = problem.workspace.rows ∧
      other.workspace.columns = negatedCosts count problem.workspace.columns := by
  induction count with
  | zero => exact ⟨events, problem, history, unsolved, rfl, rfl, rfl, (negatedCosts_zero _).symm⟩
  | succ count inductionHypothesis =>
      obtain ⟨others, other, otherHistory, -, direction, constant, rows, columns⟩ :=
        inductionHypothesis (Nat.le_of_succ_le limit)
      have inside : count < other.workspace.columns.length := by
        rw [columns]
        simpa [negatedCosts] using limit
      have ran := Problem.run_setObjectiveCoefficient otherHistory.wellFormed inside
        (-problem.workspace.columns[count].cost)
      refine ⟨_, _, otherHistory.edited ran, rfl, direction, constant, rows, ?_⟩
      refine Eq.trans ?_ (modify_negatedCosts limit)
      exact congrArg (List.modify · count _) columns

/-- Every problem has an opposed one, with no more stored than on a fresh copy: its direction is
turned around, its constant is negated, and then its coefficients are, one by one. -/
theorem History.exists_opposed {events : List (Event K)} {problem : Problem K}
    (history : History events problem) :
    ∃ others other, History others other ∧ problem.workspace.Opposed other.workspace ∧
      other.workspace.integer = problem.copy.workspace.integer.opposite := by
  have turned := history.edited
    (Problem.run_setDirection problem.workspace.direction.opposite)
  have negated := turned.edited (Problem.run_setObjectiveConstant (-problem.workspace.constant))
  obtain ⟨others, other, otherHistory, unsolved, direction, constant, rows, columns⟩ :=
    negated.exists_negatedCosts rfl (Nat.le_refl _)
  rw [negatedCosts_length] at columns
  change other.workspace.columns = problem.workspace.columns.map _ at columns
  have opposed : problem.copy.workspace.Opposed other.workspace := by
    refine ⟨?_, ?_⟩
    · rw [Workspace.program, Workspace.program, Program.opposite, direction, constant, rows,
        columns]
      simp only [Problem.copy, Workspace.copy, Workspace.discard, List.map_map, Function.comp_def]
      rfl
    · rw [columns, List.map_map]
      rfl
  exact ⟨others, other, otherHistory, ⟨opposed.program, opposed.integral⟩,
    opposed.integer_of_unsolved rfl unsolved⟩

/-! ## Reports and settings -/

def LimitReached.opposite : LimitReached → LimitReached
  | objectiveLower => objectiveUpper
  | objectiveUpper => objectiveLower
  | limit => limit

def SolveRecord.opposite (record : SolveRecord) : SolveRecord where
  status := record.status
  limit := record.limit.map LimitReached.opposite

def Report.opposite (report : Report) : Report :=
  { report with limit := report.limit.map LimitReached.opposite }

/-- The settings with the objective limits negated and exchanged. -/
def SimplexConfig.opposite (config : SimplexConfig K) : SimplexConfig K :=
  { config with
    objectiveLower := config.objectiveUpper.map (-·)
    objectiveUpper := config.objectiveLower.map (-·) }

def BranchCutConfig.opposite (config : BranchCutConfig K) : BranchCutConfig K :=
  { config with relaxation := config.relaxation.opposite }

def SolverConfig.opposite : SolverConfig K → SolverConfig K
  | simplex config => simplex config.opposite
  | interior config => interior config
  | branchCut config => branchCut config.opposite

def Solution.opposite (solution : Solution K) : Solution K :=
  { solution with
    objective := -solution.objective
    rowDual := solution.rowDual.map (List.map (-·))
    columnDual := solution.columnDual.map (List.map (-·))
    limit := solution.limit.map LimitReached.opposite }

theorem SimplexConfig.toOptions_opposite (config : SimplexConfig K) :
    config.opposite.toOptions = config.toOptions.opposite := by
  have lower : config.opposite.toOptions.objectiveLower = -config.toOptions.objectiveUpper := by
    rcases upper : config.objectiveUpper with _ | value
    · simp [toOptions, opposite, upper]
    · simp [toOptions, opposite, upper, max_neg_neg]
  have upper : config.opposite.toOptions.objectiveUpper = -config.toOptions.objectiveLower := by
    rcases lower : config.objectiveLower with _ | value
    · simp [toOptions, opposite, lower]
    · have negated := min_neg_neg value (-Scalar.largest)
      rw [neg_neg] at negated
      simp [toOptions, opposite, lower, negated]
  rw [Simplex.Options.opposite, ← lower, ← upper]
  rfl

theorem checkObjectiveLimits_opposite (lower upper : Option K) {checked : Unit} :
    checkObjectiveLimits (upper.map (-·)) (lower.map (-·)) = .ok checked ↔
      checkObjectiveLimits lower upper = .ok checked := by
  cases lower with
  | none => cases upper <;> simp [checkObjectiveLimits]
  | some least =>
      cases upper with
      | none => simp [checkObjectiveLimits]
      | some greatest =>
          simp only [checkObjectiveLimits, Option.map_some, Option.any_some, neg_lt_neg_iff,
            LawfulScalar.isNaN_eq]
          by_cases crossed : greatest < least <;> simp [crossed]

theorem SimplexConfig.validate_opposite (config : SimplexConfig K) {checked : Unit} :
    config.opposite.validate = .ok checked ↔ config.validate = .ok checked := by
  by_cases none : config.iterationLimit = some 0 <;>
    simp only [validate, opposite, none, if_true, if_false, Except.bind_eq_ok_iff,
      checkObjectiveLimits_opposite]

theorem BranchCutConfig.validate_opposite (config : BranchCutConfig K) {checked : Unit} :
    config.opposite.validate = .ok checked ↔ config.validate = .ok checked := by
  simp only [validate, Except.bind_eq_ok_iff, opposite, SimplexConfig.validate_opposite]
  rfl

theorem SolverConfig.validate_opposite (config : SolverConfig K) {checked : Unit} :
    config.opposite.validate = .ok checked ↔ config.validate = .ok checked := by
  cases config with
  | simplex config => exact config.validate_opposite
  | interior config => rfl
  | branchCut config => exact config.validate_opposite

/-! ## Verdicts -/

namespace Problem

section Verdicts

omit [ExactScalar K]

theorem simplexVerdict_opposite (code : ReturnCode) (status : PointStatus) :
    (verdict .simplex simplexMeaning code.opposite status : Except (Failure K) SolveRecord) =
      (verdict .simplex simplexMeaning code status).map SolveRecord.opposite := by
  cases code <;> cases status <;> rfl

theorem map_verdict_opposite {algorithm : Algorithm} {table : ReturnCode → Option (Meaning K)}
    {code : ReturnCode} (plain : ∀ limit, table code = some (.limit limit) → limit.opposite = limit)
    (status : PointStatus) :
    (verdict algorithm table code status).map SolveRecord.opposite =
      verdict algorithm table code status := by
  cases settled : verdict algorithm table code status with
  | error failure => rfl
  | ok record =>
      obtain ⟨status, limit⟩ := record
      cases limit with
      | none => rfl
      | some limit =>
          have same := plain limit (limit_of_verdict settled rfl)
          simp only [Except.map, SolveRecord.opposite, Option.map_some, same]

theorem interiorVerdict_opposite (code : ReturnCode) (status : PointStatus) :
    (verdict .interiorPoint interiorMeaning code status : Except (Failure K) SolveRecord).map
        SolveRecord.opposite =
      verdict .interiorPoint interiorMeaning code status := by
  refine map_verdict_opposite (fun limit meant => ?_) status
  cases code <;> cases meant
  rfl

theorem searchVerdict_opposite (code : ReturnCode) (status : PointStatus) :
    (verdict .branchCut searchMeaning code status : Except (Failure K) SolveRecord).map
        SolveRecord.opposite =
      verdict .branchCut searchMeaning code status := by
  refine map_verdict_opposite (fun limit meant => ?_) status
  cases code <;> cases meant <;> rfl

end Verdicts

end Problem

namespace Workspace.Opposed

variable {first second : Workspace K} (opposed : Opposed first second) {clock otherClock : Clock}

include opposed

section Simplex

variable {config : SimplexConfig K} (below : clock.Below config.toOptions.timeLimit)
  (otherBelow : otherClock.Below config.toOptions.timeLimit)

include below otherBelow

theorem simplexVerdict_eq :
    second.simplexVerdict otherClock config.opposite =
      (first.simplexVerdict clock config).map SolveRecord.opposite := by
  have run := opposed.simplexRun_eq below otherBelow
  have code : (second.simplexTimed otherClock config.toOptions.opposite).2.code =
      (first.simplexTimed clock config.toOptions).2.code.opposite := congrArg (·.code) run
  have status : (second.simplexTimed otherClock config.toOptions.opposite).1.basic.status =
      (first.simplexTimed clock config.toOptions).1.basic.status := congrArg (·.status) run
  rw [simplexVerdict, simplexVerdict, config.toOptions_opposite, code, status]
  exact Problem.simplexVerdict_opposite _ _

theorem basicPoint_eq {record : SolveRecord}
    (settled : first.simplexVerdict clock config = .ok record) :
    (second.simplexTimed otherClock config.opposite.toOptions).1.basic.point =
      (first.simplexTimed clock config.toOptions).1.basic.point.opposite := by
  obtain ⟨point, found⟩ := exists_point_of_simplexVerdict settled
  have foundAgain : (second.simplexTimed otherClock config.opposite.toOptions).2.point =
      some point.opposite := by
    rw [config.toOptions_opposite, opposed.simplexRun_eq below otherBelow]
    exact congrArg (Option.map Point.opposite) found
  change (second.simplexTimed otherClock config.opposite.toOptions).2.point.getD _ =
    ((first.simplexTimed clock config.toOptions).2.point.getD _).opposite
  rw [found, foundAgain]
  rfl

end Simplex

theorem interiorVerdict_eq :
    second.interiorVerdict = first.interiorVerdict.map SolveRecord.opposite := by
  refine Eq.trans ?_ (Problem.interiorVerdict_opposite _ _).symm
  simp only [interiorVerdict, interiorPoint, LinearSolution.store, opposed.program,
    Interior.solve_opposite]
  rfl

theorem interiorPoint_eq (current : first.InteriorCurrent)
    (otherCurrent : second.InteriorCurrent) :
    second.interiorPoint.1.interior.point = first.interiorPoint.1.interior.point.opposite := by
  rw [current.point_eq, otherCurrent.point_eq, opposed.program, Interior.solve_opposite,
    opposed.length_rows, opposed.length_columns]
  change ((Interior.solve first.program).point.map Point.opposite).getD _ = _
  cases (Interior.solve first.program).point with
  | some point => rfl
  | none => exact (LinearSolution.opposite_none _ _).symm

end Workspace.Opposed

/-! ## Searches -/

namespace Workspace

variable {first second : Workspace K}

/-- How the integer solutions compare that opposed workspaces are left with under a record, given
how many searches were counted and what was stored before: either both have searched and store
opposite solutions, or neither has and both kept the values they had. -/
inductive StoresOppose (searches : Nat) (first second : IntegerSolution K) (record : SolveRecord)
    (next again : Workspace K) : Prop
  | searched (counted : next.counters.searches = searches + 1)
      (opposite : again.integer = next.integer.opposite)
  | kept (counted : next.counters.searches = searches)
      (bare : record.status.hasSolution = false)
      (keeps : first.SameValues next.integer) (keepsAgain : second.SameValues again.integer)

structure CallsOppose (first second : Workspace K) (call again : Workspace K × IntegerRun K) :
    Prop where
  verdict : again.1.searchVerdict again.2 = call.1.searchVerdict call.2
  basic : call.1.basic = first.basic
  basicAgain : again.1.basic = second.basic
  integer : ∀ record, call.1.searchVerdict call.2 = .ok record →
    StoresOppose first.counters.searches first.integer second.integer record call.1 again.1

theorem Opposed.integerSearchTimed (opposed : Opposed first second)
    (status : second.basic.status = first.basic.status) {timing other : Timing}
    {options : Search.Options K} (inTime : timing.SearchesBelow options.timeLimit)
    (otherInTime : other.SearchesBelow options.timeLimit) (steps : Nat) :
    Option.Rel (CallsOppose first second) (first.integerSearchTimed steps timing options)
      (second.integerSearchTimed steps other options) := by
  have admission := opposed.admission_eq inTime otherInTime status
  cases admitted : first.admission timing.root options with
  | refuse code status =>
      rw [integerSearchTimed_of_refuse admitted,
        integerSearchTimed_of_refuse (admission.trans admitted)]
      refine .some ⟨searchVerdict_of_refuse admitted _ _, rfl, rfl, fun record settled => ?_⟩
      refine .kept rfl ?_ ⟨rfl, rfl, rfl⟩ ⟨rfl, rfl, rfl⟩
      obtain ⟨-, ⟨rfl, -⟩ | ⟨rfl, -⟩⟩ := record_of_refuse admitted settled <;> rfl
  | search =>
      rw [integerSearchTimed_of_search admitted,
        integerSearchTimed_of_search (admission.trans admitted),
        opposed.searchTimed_eq inTime otherInTime steps]
      cases Search.searchTimed steps options timing.search (Search.nodeRelaxation options timing)
        first.program first.integerColumns with
      | none => exact .none
      | some result =>
          have stored := opposed.integerSolution_eq result
          refine .some ⟨?_, rfl, rfl, fun _ _ => .searched rfl stored⟩
          change Problem.verdict .branchCut searchMeaning result.code
            (second.integerSolution result).status = _
          rw [stored]
          rfl

end Workspace

/-! ## Outlines -/

section Relations

variable {A B C D : Type} {related : A → B → Prop} {first : Option A} {second : Option B}

theorem map_eq_of_rel {read : A → C} {readAgain : B → C}
    (ends : Option.Rel related first second)
    (same : ∀ value again, related value again → readAgain again = read value) :
    second.map readAgain = first.map read := by
  cases ends with
  | none => rfl
  | some holds => exact congrArg some (same _ _ holds)

theorem rel_map {change : A → C} {changeAgain : B → D} {next : C → D → Prop}
    (ends : Option.Rel related first second)
    (step : ∀ value again, related value again → next (change value) (changeAgain again)) :
    Option.Rel next (first.map change) (second.map changeAgain) := by
  cases ends with
  | none => exact .none
  | some holds => exact .some (step _ _ holds)

end Relations

namespace Outline

open Problem Workspace

structure Oppose (searches : Nat) (stored otherStored : IntegerSolution K)
    (first second : Outline K) : Prop where
  answer : second.answer = first.answer.map Report.opposite
  records : second.records = fun algorithm =>
    (first.records algorithm).map SolveRecord.opposite
  basic : (first.records .simplex).isSome →
    second.workspace.basic.point = first.workspace.basic.point.opposite
  interior : (first.records .interiorPoint).isSome →
    second.workspace.interior.point = first.workspace.interior.point.opposite
  integer : ∀ record, first.records .branchCut = some record →
    StoresOppose searches stored otherStored record first.workspace second.workspace

variable {searches : Nat} {stored otherStored : IntegerSolution K} {first second : Workspace K}

theorem oppose_failed (failure : Failure K) :
    Oppose searches stored otherStored (failed first failure) (failed second failure) :=
  ⟨rfl, rfl, nofun, nofun, nofun⟩

theorem oppose_ofVerdict {algorithm : Algorithm} (linear : algorithm ≠ .branchCut)
    (judged : Except (Failure K) SolveRecord)
    (basic : algorithm = .simplex → ∀ record, judged = .ok record →
      second.basic.point = first.basic.point.opposite)
    (interior : algorithm = .interiorPoint → ∀ record, judged = .ok record →
      second.interior.point = first.interior.point.opposite) :
    Oppose searches stored otherStored (ofVerdict first algorithm judged)
      (ofVerdict second algorithm (judged.map SolveRecord.opposite)) := by
  cases judged with
  | error failure => exact oppose_failed failure
  | ok record =>
      cases algorithm with
      | simplex =>
          refine ⟨rfl, ?_, fun _ => basic rfl record rfl, nofun, nofun⟩
          funext algorithm
          cases algorithm <;> rfl
      | interiorPoint =>
          refine ⟨rfl, ?_, nofun, fun _ => interior rfl record rfl, nofun⟩
          funext algorithm
          cases algorithm <;> rfl
      | branchCut => exact absurd rfl linear

omit [ExactScalar K] in
theorem branchCutRecords_opposite (relaxation record : SolveRecord) :
    branchCutRecords relaxation.opposite record.opposite = fun algorithm =>
      (branchCutRecords relaxation record algorithm).map SolveRecord.opposite := by
  funext algorithm
  cases algorithm <;> rfl

theorem oppose_ofSearch {relaxation : SolveRecord} {call again : Workspace K × IntegerRun K}
    (calls : CallsOppose first second call again)
    (basic : second.basic.point = first.basic.point.opposite) :
    Oppose first.counters.searches first.integer second.integer
      (ofSearch relaxation call.1 (call.1.searchVerdict call.2))
      (ofSearch relaxation.opposite again.1 (again.1.searchVerdict again.2)) := by
  have verdict : again.1.searchVerdict again.2 =
      (call.1.searchVerdict call.2).map SolveRecord.opposite :=
    calls.verdict.trans
      (Problem.searchVerdict_opposite call.2.code call.1.integer.status).symm
  have points : again.1.basic.point = call.1.basic.point.opposite := by
    rw [calls.basic, calls.basicAgain, basic]
  rw [verdict]
  cases settled : call.1.searchVerdict call.2 with
  | error failure => exact oppose_failed failure
  | ok record =>
      refine ⟨rfl, branchCutRecords_opposite relaxation record, fun _ => points, nofun, ?_⟩
      rintro _ ⟨⟩
      exact calls.integer record settled

theorem oppose_ofRelaxation {steps : Nat} {timing otherTiming : Timing} {config : BranchCutConfig K}
    (opposed : first.Opposed second) (status : second.basic.status = first.basic.status)
    (inTime : timing.SearchesBelow config.toOptions.timeLimit)
    (otherInTime : otherTiming.SearchesBelow config.toOptions.timeLimit)
    (judged : Except (Failure K) SolveRecord)
    (basic : ∀ record, judged = .ok record → second.basic.point = first.basic.point.opposite) :
    Option.Rel (Oppose first.counters.searches first.integer second.integer)
      (ofRelaxation steps timing config first judged)
      (ofRelaxation steps otherTiming config.opposite second
        (judged.map SolveRecord.opposite)) := by
  cases judged with
  | error failure => exact .some (oppose_failed failure)
  | ok relaxation =>
      change Option.Rel _ (if relaxation.status = .optimal then _ else _)
        (if relaxation.status = .optimal then _ else _)
      split
      · have calls := opposed.integerSearchTimed status inTime otherInTime steps
        change Option.Rel _
          ((first.integerSearchTimed steps timing config.toOptions).map _)
          ((second.integerSearchTimed steps otherTiming config.toOptions).map _)
        exact rel_map calls fun _ _ calls => oppose_ofSearch calls (basic relaxation rfl)
      · have skipped : withoutSearch relaxation.opposite = (withoutSearch relaxation).opposite := by
          cases status : relaxation.status <;>
            simp [withoutSearch, SolveRecord.opposite, status]
        refine .some ⟨?_, ?_, fun _ => basic relaxation rfl, nofun, ?_⟩
        · rw [skipped]
          rfl
        · rw [skipped]
          exact branchCutRecords_opposite relaxation (withoutSearch relaxation)
        · rintro _ ⟨⟩
          exact .kept rfl (hasSolution_withoutSearch relaxation) ⟨rfl, rfl, rfl⟩ ⟨rfl, rfl, rfl⟩

end Outline

/-- In time, the outlines of solves of opposed workspaces are opposite, if the stored interior
points are current. -/
theorem Workspace.Opposed.outline {first second : Workspace K} (opposed : Opposed first second)
    (current : first.InteriorCurrent) (otherCurrent : second.InteriorCurrent) (steps : Nat)
    {timing other : Timing} {config : SolverConfig K} (inTime : config.InTime timing)
    (otherInTime : config.opposite.InTime other) :
    Option.Rel (Outline.Oppose first.counters.searches first.integer second.integer)
      (first.outline steps timing config) (second.outline steps other config.opposite) := by
  cases config with
  | simplex config =>
      have verdict := opposed.simplexVerdict_eq inTime otherInTime
      rw [SolverConfig.opposite, Workspace.outline, Workspace.outline, verdict]
      refine .some (Outline.oppose_ofVerdict ?_ _ ?_ ?_)
      · decide
      · intro _ record settled
        exact opposed.basicPoint_eq inTime otherInTime settled
      · rintro ⟨⟩
  | interior config =>
      rw [SolverConfig.opposite, Workspace.outline, Workspace.outline, opposed.interiorVerdict_eq]
      refine .some (Outline.oppose_ofVerdict ?_ _ ?_ ?_)
      · decide
      · rintro ⟨⟩
      · intro _ record _
        exact opposed.interiorPoint_eq current otherCurrent
  | branchCut config =>
      have count : second.integerCount = first.integerCount := by
        rw [integerCount, integerCount, opposed.integerColumns_eq]
      have verdict : second.relaxationVerdict other config.opposite =
          (first.relaxationVerdict timing config).map SolveRecord.opposite :=
        opposed.simplexVerdict_eq inTime.1 otherInTime.1
      have status : (second.relaxed other config.opposite).basic.status =
          (first.relaxed timing config).basic.status := by
        have run := opposed.simplexRun_eq inTime.1 otherInTime.1
        rw [← config.relaxation.toOptions_opposite] at run
        exact congrArg (·.status) run
      rw [SolverConfig.opposite, Workspace.outline, Workspace.outline, count, verdict]
      split
      · exact .some (Outline.oppose_failed _)
      · have relaxed :
            Opposed (first.relaxed timing config) (second.relaxed other config.opposite) :=
          ⟨opposed.program, opposed.integral⟩
        refine Outline.oppose_ofRelaxation relaxed status inTime.2 otherInTime.2 _ ?_
        intro record settled
        exact opposed.basicPoint_eq inTime.1 otherInTime.1 settled

/-! ## Whole solves -/

open Problem Workspace

theorem Solution.ofStored_opposite (record : SolveRecord) (stored : IntegerSolution K) :
    Solution.ofStored record.opposite stored.opposite =
      (Solution.ofStored record stored).opposite := by
  have gap : relativeGap (-stored.objective) stored.bound.negate.toScalar =
      relativeGap stored.objective stored.bound.toScalar := by
    have apart : -stored.bound.toScalar - -stored.objective =
        -(stored.bound.toScalar - stored.objective) := by ring
    simp only [relativeGap, Extended.toScalar_negate, apart, LawfulScalar.absolute_eq, abs_neg]
  simp only [Solution.ofStored, IntegerSolution.opposite, gap]
  rfl

/-- Without a gap, snapshots are told apart by their values alone. -/
theorem Solution.ofStored_eq_iff {record : SolveRecord} (bare : record.status.hasSolution = false)
    {first second : IntegerSolution K} :
    Solution.ofStored record second = Solution.ofStored record first ↔
      first.SameValues second := by
  constructor
  · intro same
    exact ⟨congrArg (·.objective) same, congrArg (·.rowPrimal) same, congrArg (·.columnPrimal) same⟩
  · intro same
    simp [Solution.ofStored, bare, same.objective, same.rowValues, same.columnValues]

structure Solution.Shows (snapshot : Solution K) (stored : IntegerSolution K) : Prop where
  objective : snapshot.objective = stored.objective
  rowPrimal : snapshot.rowPrimal = stored.rowValues
  columnPrimal : snapshot.columnPrimal = stored.columnValues

/-- How the snapshots of branch and cuts of opposed problems compare, given whether the first has
searched and what was stored before them. -/
structure Solution.Mirrors (searched : Prop) (stored otherStored : IntegerSolution K)
    (snapshot mirrored : Solution K) : Prop where
  status : mirrored.status = snapshot.status
  limit : mirrored.limit = snapshot.limit.map LimitReached.opposite
  gap : mirrored.gap = snapshot.gap
  opposite : mirrored = snapshot.opposite ↔ searched ∨ stored.opposite.SameValues otherStored
  kept : ¬searched → snapshot.Shows stored ∧ mirrored.Shows otherStored

theorem Workspace.StoresOppose.mirrors {searches : Nat} {stored otherStored : IntegerSolution K}
    {record : SolveRecord} {next again : Workspace K}
    (stores : StoresOppose searches stored otherStored record next again) :
    Solution.Mirrors (next.counters.searches = searches + 1) stored otherStored
      (.ofStored record next.integer) (.ofStored record.opposite again.integer) := by
  cases stores with
  | searched counted opposite =>
      rw [opposite, Solution.ofStored_opposite]
      exact ⟨rfl, rfl, rfl, iff_of_true rfl (.inl counted),
        fun unsearched => absurd counted unsearched⟩
  | kept counted bare keeps keepsAgain =>
      have unsearched : ¬next.counters.searches = searches + 1 := by omega
      have gap : (Solution.ofStored record.opposite again.integer).gap =
          (Solution.ofStored record next.integer).gap := by
        simp [Solution.ofStored, SolveRecord.opposite, bare]
      refine ⟨rfl, rfl, gap, ?_, fun _ => ⟨⟨keeps.objective, keeps.rowValues, keeps.columnValues⟩,
        keepsAgain.objective, keepsAgain.rowValues, keepsAgain.columnValues⟩⟩
      have bareAgain : record.opposite.status.hasSolution = false := bare
      rw [or_iff_right unsearched, ← Solution.ofStored_opposite,
        Solution.ofStored_eq_iff bareAgain]
      simp only [IntegerSolution.sameValues_iff, IntegerSolution.opposite, keeps.objective,
        keeps.rowValues, keeps.columnValues, keepsAgain.objective, keepsAgain.rowValues,
        keepsAgain.columnValues]

namespace Problem

section Extraction

variable {searches : Nat} {stored otherStored : IntegerSolution K} {solved again : Solve K}
  (oppose : solved.outline.Oppose searches stored otherStored again.outline)

include oppose

theorem record_opposite (algorithm : Algorithm) :
    again.problem.record algorithm =
      (solved.problem.record algorithm).map SolveRecord.opposite :=
  congrFun oppose.records algorithm

theorem extract_opposite_of_none {algorithm : Algorithm}
    (missing : solved.problem.record algorithm = none) :
    Solution.extract again.problem algorithm =
      (Solution.extract solved.problem algorithm).map Solution.opposite := by
  have records := record_opposite oppose algorithm
  rw [missing] at records
  rw [extract_of_none missing, extract_of_none records]
  rfl

variable (wellFormed : solved.problem.workspace.WellFormed)
  (otherWellFormed : again.problem.workspace.WellFormed)

include wellFormed otherWellFormed

theorem extract_opposite {algorithm : Algorithm} (linear : algorithm ≠ .branchCut) :
    Solution.extract again.problem algorithm =
      (Solution.extract solved.problem algorithm).map Solution.opposite := by
  cases found : solved.problem.record algorithm with
  | none => exact extract_opposite_of_none oppose found
  | some record =>
      have isSome := Option.isSome_of_eq_some found
      have records := record_opposite oppose algorithm
      rw [found] at records
      cases algorithm with
      | simplex =>
          have point : again.problem.workspace.basic.point =
            solved.problem.workspace.basic.point.opposite := oppose.basic isSome
          rw [extract_simplex wellFormed found, extract_simplex otherWellFormed records, point]
          rfl
      | interiorPoint =>
          have point : again.problem.workspace.interior.point =
            solved.problem.workspace.interior.point.opposite := oppose.interior isSome
          rw [extract_interior wellFormed found, extract_interior otherWellFormed records, point]
          rfl
      | branchCut => exact absurd rfl linear

theorem exists_mirrored {snapshot : Solution K}
    (extracted : Solution.extract solved.problem .branchCut = .ok snapshot) :
    ∃ mirrored, Solution.extract again.problem .branchCut = .ok mirrored ∧
      Solution.Mirrors (solved.problem.counters.searches = searches + 1) stored otherStored
        snapshot mirrored := by
  cases found : solved.problem.record .branchCut with
  | none =>
      rw [extract_of_none found] at extracted
      cases extracted
  | some record =>
      have records := record_opposite oppose .branchCut
      rw [found] at records
      rw [extract_branchCut wellFormed found] at extracted
      obtain rfl := Except.ok.inj extracted
      exact ⟨_, extract_branchCut otherWellFormed records, (oppose.integer record found).mirrors⟩

end Extraction

end Problem

/-- Every problem has an opposed one.  Opposed problems that are solved in time, the second with the
objective limits negated and exchanged, both end or do not, and the answers are the same but for
the names of the objective limits.  The solutions of simplex and interior-point runs show the same
values, and negated objectives and duals.  So do the snapshots of a branch and cut that has
searched.  If it has not, each shows what its own problem had stored before. -/
theorem History.solve_opposed {events : List (Event K)} {problem : Problem K}
    (history : History events problem) {timing otherTiming : Timing} {config : SolverConfig K}
    (valid : config.validate = .ok ()) (inTime : config.InTime timing)
    (otherInTime : config.opposite.InTime otherTiming) :
    config.opposite.validate = .ok () ∧
    (∃ others other, History others other ∧ problem.workspace.Opposed other.workspace) ∧
    ∀ others other, History others other → problem.workspace.Opposed other.workspace →
      (∀ steps, (solveTimed steps other otherTiming config.opposite).map (·.answer) =
        (solveTimed steps problem timing config).map fun solved =>
          solved.answer.map Report.opposite) ∧
      ∀ steps budget solved again, solveTimed steps problem timing config = some solved →
        solveTimed budget other otherTiming config.opposite = some again →
        again.answer = solved.answer.map Report.opposite ∧
        (∀ algorithm, algorithm ≠ .branchCut ∨ solved.problem.record algorithm = none →
          Solution.extract again.problem algorithm =
            (Solution.extract solved.problem algorithm).map Solution.opposite) ∧
        ∀ snapshot, Solution.extract solved.problem .branchCut = .ok snapshot →
          ∃ mirrored, Solution.extract again.problem .branchCut = .ok mirrored ∧
            Solution.Mirrors
              (solved.problem.counters.searches = problem.counters.searches + 1)
              problem.workspace.integer other.workspace.integer snapshot mirrored := by
  have otherValid := config.validate_opposite.mpr valid
  obtain ⟨others, other, otherHistory, opposed, -⟩ := history.exists_opposed
  refine ⟨otherValid, ⟨others, other, otherHistory, opposed⟩,
    fun others other otherHistory opposed => ?_⟩
  have oppose (steps : Nat) := opposed.outline
    (stable_interiorCurrent.history history) (stable_interiorCurrent.history otherHistory)
    steps inTime otherInTime
  simp only [← outline_solveTimed _ _ _ valid, ← outline_solveTimed _ _ _ otherValid] at oppose
  refine ⟨fun steps => ?_, fun steps budget solved again ends endsAgain => ?_⟩
  · have told := map_eq_of_rel (oppose steps) fun _ _ oppose => oppose.answer
    simpa only [Option.map_map, Function.comp_def, Solve.outline] using told
  · have related := oppose (max steps budget)
    rw [solveTimed_of_le (Nat.le_max_left steps budget) ends,
      solveTimed_of_le (Nat.le_max_right steps budget) endsAgain] at related
    cases related with
    | some related =>
        have wellFormed := solveTimed_wellFormed history.wellFormed ends
        have otherWellFormed := solveTimed_wellFormed otherHistory.wellFormed endsAgain
        refine ⟨related.answer, fun algorithm known => ?_, fun snapshot =>
          exists_mirrored related wellFormed otherWellFormed⟩
        rcases known with linear | missing
        · exact extract_opposite related wellFormed otherWellFormed linear
        · exact extract_opposite_of_none related missing

/-! ### A switch and its opposite -/

namespace Problem

/-- An integer column between 0 and 1 that costs -1. -/
def loweredSwitch : Problem ℚ :=
  { (empty : Problem ℚ) with
    workspace :=
      { (.empty : Workspace ℚ) with
        columns := [⟨none, true, .double 0 1, -1⟩]
        basic := .none 0 1
        interior := .none 0 1
        integer := .none 0 1 } }

theorem exists_history_loweredSwitch : ∃ events, History events loweredSwitch :=
  ⟨_, .returned (.edit (.setObjectiveCoefficient 1 (-1)))
    (.returned (.edit (.setColumnKind 1 .binary))
      (.returned (.edit (.addColumns 1)) .create rfl) rfl) rfl⟩

theorem opposed_switch : switch.workspace.Opposed loweredSwitch.workspace where
  program := by
    rw [Program.opposite]
    congr 1
  integral := rfl

def modest : SolverConfig ℚ :=
  .simplex { SimplexConfig.standard with objectiveUpper := some (1 / 2) }

theorem exists_report_modest :
    ∃ solved, solveTimed 0 switch .still modest = some solved ∧
      solved.answer = .ok ⟨.simplex, .feasible, some .objectiveUpper, none, false⟩ := by
  have computed : (solveTimed 0 switch .still modest).map (·.answer.toOption) =
      some (some ⟨.simplex, .feasible, some .objectiveUpper, none, false⟩) := by
    decide +kernel
  obtain ⟨solved, ends, read⟩ := Option.map_eq_some_iff.mp computed
  exact ⟨solved, ends, Except.toOption_eq_some_iff.mp read⟩

end Problem

/-- The switch stops above an upper limit, and its opposite below a lower one.  Searched, both have
the same optimum at opposite objectives. -/
theorem History.solve_opposed_switch :
    ((∃ events, History events switch) ∧ (∃ events, History events loweredSwitch) ∧
      switch.workspace.Opposed loweredSwitch.workspace) ∧
    (∃ (solved again : Solve ℚ) (report : Report) (solution : Solution ℚ),
      modest.validate = .ok () ∧ modest.InTime .still ∧ modest.opposite.InTime .still ∧
      solveTimed 0 switch .still modest = some solved ∧
      solveTimed 0 loweredSwitch .still modest.opposite = some again ∧
      solved.answer = .ok report ∧ report.limit = some .objectiveUpper ∧
      again.answer = .ok report.opposite ∧ report.opposite.limit = some .objectiveLower ∧
      Solution.extract solved.problem .simplex = .ok solution ∧
      Solution.extract again.problem .simplex = .ok solution.opposite) ∧
    ∃ (solved again : Solve ℚ) (snapshot : Solution ℚ),
      (SolverConfig.branchCut .standard : SolverConfig ℚ).validate = .ok () ∧
      (SolverConfig.branchCut .standard : SolverConfig ℚ).InTime .still ∧
      solveTimed 5 switch .still (.branchCut .standard) = some solved ∧
      solveTimed 5 loweredSwitch .still (SolverConfig.opposite (.branchCut .standard)) =
        some again ∧
      solved.answer = .ok ⟨.branchCut, .optimal, none, some .optimal, true⟩ ∧
      solved.problem.counters.searches = switch.counters.searches + 1 ∧
      Solution.extract solved.problem .branchCut = .ok snapshot ∧ snapshot.objective = 1 ∧
      Solution.extract again.problem .branchCut = .ok snapshot.opposite := by
  obtain ⟨events, history⟩ := exists_history_switch
  obtain ⟨others, otherHistory⟩ := exists_history_loweredSwitch
  refine ⟨⟨⟨events, history⟩, ⟨others, otherHistory⟩, opposed_switch⟩, ?_, ?_⟩
  · have valid : modest.validate = .ok () := Except.eq_ok (by decide +kernel)
    have inTime : modest.InTime .still := Clock.still_below (by decide)
    have otherInTime : modest.opposite.InTime .still := Clock.still_below (by decide)
    obtain ⟨solved, ends, reported⟩ := exists_report_modest
    obtain ⟨-, -, opposite⟩ := history.solve_opposed valid inTime otherInTime
    obtain ⟨answers, opposite⟩ := opposite others loweredSwitch otherHistory opposed_switch
    have answer := answers 0
    rw [ends] at answer
    obtain ⟨again, endsAgain, -⟩ := Option.map_eq_some_iff.mp answer
    obtain ⟨answered, extracts, -⟩ := opposite 0 0 solved again ends endsAgain
    obtain ⟨record, -, -, -, recorded⟩ := simplex_of_reported ends reported
    have extracted := extract_simplex (solveTimed_wellFormed history.wellFormed ends) recorded
    have extractedAgain := extracts .simplex (.inl nofun)
    rw [extracted] at extractedAgain
    rw [reported] at answered
    exact ⟨solved, again, _, _, valid, inTime, otherInTime, ends, endsAgain, reported, rfl,
      answered, rfl, extracted, extractedAgain⟩
  · obtain ⟨solved, snapshot, ends, reported, counted, extracted, objective⟩ :=
      exists_report_switch
    have valid : (SolverConfig.branchCut .standard : SolverConfig ℚ).validate = .ok () :=
      (outline_of_reported ends reported).1
    have inTime : (SolverConfig.branchCut .standard : SolverConfig ℚ).InTime .still :=
      BranchCutConfig.inTime_still rfl rfl
    obtain ⟨-, -, opposite⟩ := history.solve_opposed valid inTime inTime
    obtain ⟨answers, opposite⟩ := opposite others loweredSwitch otherHistory opposed_switch
    have answer := answers 5
    rw [ends] at answer
    obtain ⟨again, endsAgain, -⟩ := Option.map_eq_some_iff.mp answer
    obtain ⟨-, -, mirrors⟩ := opposite 5 5 solved again ends endsAgain
    obtain ⟨mirrored, extractedAgain, mirrors⟩ := mirrors snapshot extracted
    rw [mirrors.opposite.mpr (.inl counted)] at extractedAgain
    exact ⟨solved, again, snapshot, valid, inTime, ends, endsAgain, reported, counted, extracted,
      objective, extractedAgain⟩

/-- The switch that was searched before, and its opposite that was not: a branch and cut of each
that does not search reports the same, but the objectives that it shows are 1 and 0. -/
theorem History.snapshot_not_opposed :
    ∃ (events others : List (Event ℚ)) (problem other : Problem ℚ) (report : Report)
      (snapshot mirrored : Solution ℚ),
      History events problem ∧ History others other ∧
      problem.workspace.Opposed other.workspace ∧
      (SolverConfig.branchCut hurried).validate = .ok () ∧
      (SolverConfig.branchCut hurried).InTime .still ∧
      (SolverConfig.branchCut hurried).opposite.InTime .still ∧
      branchCutSnapshot 5 problem .still hurried = some (report, snapshot) ∧
      branchCutSnapshot 5 other .still hurried.opposite = some (report.opposite, mirrored) ∧
      report.searchRan = false ∧ mirrored.objective ≠ -snapshot.objective := by
  obtain ⟨problem, snapshot, -, ⟨⟨events, history⟩, same⟩, found, -, one, -⟩ :=
    exists_snapshots_switch
  obtain ⟨others, otherHistory⟩ := exists_history_loweredSwitch
  have computed : (branchCutSnapshot 5 loweredSwitch .still hurried.opposite).map (fun seen =>
      (seen.1, seen.2.objective)) =
      some (⟨.branchCut, .undefined, some .iterations, some .feasible, false⟩, 0) := by
    decide +kernel
  obtain ⟨⟨report, mirrored⟩, foundAgain, read⟩ := Option.map_eq_some_iff.mp computed
  obtain ⟨rfl, zero⟩ := Prod.mk.inj read
  have opposed : problem.workspace.Opposed loweredSwitch.workspace := by
    refine ⟨?_, ?_⟩
    · rw [same.program_eq]
      exact opposed_switch.program
    · rw [same.columns]
      exact opposed_switch.integral
  refine ⟨events, others, problem, loweredSwitch, _, snapshot, mirrored, history, otherHistory,
    opposed, Except.eq_ok (by decide +kernel), inTime_hurried, inTime_hurried, found, foundAgain,
    rfl, ?_⟩
  rw [one, zero]
  decide

end LinearProgramming
