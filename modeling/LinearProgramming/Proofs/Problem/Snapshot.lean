import LinearProgramming.Proofs.InTime
import LinearProgramming.Proofs.Problem.BranchCut

/-!
# The same solve anew

In time, a branch and cut of a fresh copy ends as that of the problem itself, whatever the problem
has stored: with the same report and the same record.  The stored values are another matter.
Only a search that ends replaces them, so a snapshot taken after any other branch and cut shows
the values of an earlier search.
-/

namespace LinearProgramming

variable {K : Type} [Scalar K]

theorem Search.searchTimed_in_time {options : Search.Options K} {timing other : Timing}
    (inTime : timing.SearchesBelow options.timeLimit)
    (otherInTime : other.SearchesBelow options.timeLimit) (steps : Nat) (program : Program K)
    (integer : List Nat) :
    searchTimed steps options other.search (nodeRelaxation options other) program integer =
      searchTimed steps options timing.search (nodeRelaxation options timing) program integer := by
  have nodes : nodeRelaxation options other = nodeRelaxation options timing := by
    funext solved program
    have relaxed : Simplex.solve options.nodeOptions (other.node solved) program =
        Simplex.solve options.nodeOptions (timing.node solved) program :=
      Simplex.solve_in_time (otherInTime.node solved) (inTime.node solved) _
    simp only [nodeRelaxation, relaxed]
  rw [nodes]
  exact runTimed_in_time otherInTime.search inTime.search _ _ _ _ _

/-! ## Workspaces with the same data -/

namespace Workspace

variable {first second next : Workspace K} {timing other : Timing}

section Data

variable (same : SameData first second)

include same

omit [Scalar K] in
theorem SameData.program_eq : second.program = first.program := by
  simp only [program, same.direction, same.constant, same.rows, same.columns]

omit [Scalar K] in
theorem SameData.integerColumns_eq : second.integerColumns = first.integerColumns := by
  simp only [integerColumns, same.columns]

theorem SameData.integerSolution_eq (result : Search.Result K) :
    second.integerSolution result = first.integerSolution result := by
  simp only [integerSolution, same.program_eq, same.rows, same.columns]

theorem SameData.simplexRun_eq {clock otherClock : Clock} {options : Simplex.Options K}
    (below : clock.Below options.timeLimit) (otherBelow : otherClock.Below options.timeLimit) :
    (second.simplexTimed otherClock options).2 = (first.simplexTimed clock options).2 := by
  simp only [simplexTimed, same.program_eq]
  exact Simplex.solve_in_time otherBelow below _

end Data

structure Alike (first second : Workspace K) : Prop extends SameData first second where
  status : second.basic.status = first.basic.status

theorem SameData.relaxed (same : SameData first second) {config : BranchCutConfig K}
    (below : timing.simplex.Below config.relaxation.toOptions.timeLimit)
    (otherBelow : other.simplex.Below config.relaxation.toOptions.timeLimit) :
    Alike (first.relaxed timing config) (second.relaxed other config) ∧
      second.relaxationVerdict other config = first.relaxationVerdict timing config := by
  have run := same.simplexRun_eq below otherBelow
  have status : (second.relaxed other config).basic.status =
      (first.relaxed timing config).basic.status :=
    congrArg (·.status) run
  refine ⟨⟨⟨same.name, same.direction, same.constant, same.rows, same.columns⟩, status⟩, ?_⟩
  simp only [relaxationVerdict, run, status]

section Search

variable {options : Search.Options K} (alike : Alike first second)
  (inTime : timing.SearchesBelow options.timeLimit)
  (otherInTime : other.SearchesBelow options.timeLimit)

include alike inTime otherInTime

theorem Alike.admission_eq :
    second.admission other.root options = first.admission timing.root options := by
  have relaxed : Simplex.solve options.nodeOptions other.root first.program =
      Simplex.solve options.nodeOptions timing.root first.program :=
    Simplex.solve_in_time otherInTime.root inTime.root _
  have whole : second.integerBoundsWhole = first.integerBoundsWhole := by
    simp only [integerBoundsWhole, alike.columns]
  unfold admission admissionBy
  dsimp only
  rw [alike.program_eq, whole, alike.status, relaxed]

theorem Alike.searchTimed_eq (steps : Nat) :
    Search.searchTimed steps options other.search (Search.nodeRelaxation options other)
        second.program second.integerColumns =
      Search.searchTimed steps options timing.search (Search.nodeRelaxation options timing)
        first.program first.integerColumns := by
  rw [alike.program_eq, alike.integerColumns_eq]
  exact Search.searchTimed_in_time inTime otherInTime _ _ _

end Search

end Workspace

/-! ## Stored values -/

@[mk_iff]
structure IntegerSolution.SameValues (first second : IntegerSolution K) : Prop where
  objective : second.objective = first.objective
  rowValues : second.rowValues = first.rowValues
  columnValues : second.columnValues = first.columnValues

namespace Workspace

variable {first second next : Workspace K} {timing other : Timing} {steps : Nat}

/-- How the values compare that the same solve leaves behind in two workspaces, under a record:
either both searched and stored the same solution, or neither did and both kept their values. -/
inductive Stores (record : SolveRecord) (first second next again : Workspace K) : Prop
  | searched (counted : next.counters.searches = first.counters.searches + 1)
      (same : again.integer = next.integer)
  | kept (counted : next.counters.searches = first.counters.searches)
      (bare : record.status.hasSolution = false)
      (keeps : first.integer.SameValues next.integer)
      (keepsAgain : second.integer.SameValues again.integer)

variable {record : SolveRecord}

theorem SearchCall.again {options : Search.Options K} {run : IntegerRun K}
    (call : SearchCall steps first timing options next run) (alike : Alike first second)
    (inTime : timing.SearchesBelow options.timeLimit)
    (otherInTime : other.SearchesBelow options.timeLimit)
    (settled : next.searchVerdict run = .ok record) :
    ∃ again, SearchCall steps second other options again run ∧
      again.searchVerdict run = .ok record ∧ Stores record first second next again := by
  have admission := alike.admission_eq inTime otherInTime
  cases call with
  | refused code status refuses =>
      refine ⟨_, .refused code status (admission.trans refuses),
        (searchVerdict_of_refuse refuses _ _).trans settled,
        .kept rfl ?_ ⟨rfl, rfl, rfl⟩ ⟨rfl, rfl, rfl⟩⟩
      obtain ⟨-, ⟨rfl, -⟩ | ⟨rfl, -⟩⟩ := record_of_refuse refuses settled <;> rfl
  | searched result admits found =>
      have same := alike.integerSolution_eq result
      refine ⟨_, .searched result (admission.trans admits)
        ((alike.searchTimed_eq inTime otherInTime steps).trans found), ?_, .searched rfl same⟩
      simp only [searchVerdict, same]
      exact settled

end Workspace

open Workspace Problem

omit [Scalar K] in
theorem Problem.hasSolution_withoutSearch (relaxation : SolveRecord) :
    (withoutSearch relaxation).status.hasSolution = false := by
  unfold withoutSearch
  split <;> rfl

theorem Problem.BranchCutEnds.again {steps : Nat} {timing other : Timing}
    {config : BranchCutConfig K} {first second next : Workspace K} {report : Report}
    {record : SolveRecord} (ended : BranchCutEnds steps timing config first report record next)
    (same : first.SameData second) (inTime : (SolverConfig.branchCut config).InTime timing)
    (otherInTime : (SolverConfig.branchCut config).InTime other) :
    ∃ again, BranchCutEnds steps other config second report record again ∧
      Stores record first second next again := by
  obtain ⟨alike, verdict⟩ := same.relaxed inTime.1 otherInTime.1
  cases ended with
  | skipped relaxation judged notOptimal =>
      exact ⟨_, .skipped relaxation (verdict.trans judged) notOptimal,
        .kept rfl (hasSolution_withoutSearch relaxation) ⟨rfl, rfl, rfl⟩ ⟨rfl, rfl, rfl⟩⟩
  | called relaxation record next run judged optimal call settled =>
      obtain ⟨again, called, resettled, stores⟩ :=
        call.again alike inTime.2 otherInTime.2 settled
      refine ⟨again, .called relaxation record again run (verdict.trans judged) optimal called
        resettled, ?_⟩
      -- The relaxation stores no integer solution and enters no search.
      cases stores with
      | searched counted same => exact .searched counted same
      | kept counted bare keeps keepsAgain => exact .kept counted bare keeps keepsAgain

/-- After every history, in time, a branch and cut that reports would report the same on a fresh
copy, and the two snapshots agree in status, limit and gap.  They are the same if the solve has
searched.  If it has not, its snapshot shows the values that were stored before it and that of the
copy shows zeros. -/
theorem History.snapshot_anew {events : List (Event K)} {problem : Problem K}
    (history : History events problem) {steps : Nat} {timing other : Timing}
    {config : BranchCutConfig K} (inTime : (SolverConfig.branchCut config).InTime timing)
    (otherInTime : (SolverConfig.branchCut config).InTime other) {solved : Solve K}
    (ends : solveTimed steps problem timing (.branchCut config) = some solved) {report : Report}
    (reported : solved.answer = .ok report) :
    ∃ again snapshot fresh,
      solveTimed steps problem.copy other (.branchCut config) = some again ∧
      again.answer = .ok report ∧
      Solution.extract solved.problem .branchCut = .ok snapshot ∧
      Solution.extract again.problem .branchCut = .ok fresh ∧
      snapshot.status = fresh.status ∧ snapshot.limit = fresh.limit ∧
      snapshot.gap = fresh.gap ∧
      ((solved.problem.counters.searches = problem.counters.searches + 1 ∧ snapshot = fresh) ∨
        solved.problem.counters.searches = problem.counters.searches ∧
          (snapshot.objective = problem.workspace.integer.objective ∧
            snapshot.rowPrimal = problem.workspace.integer.rowValues ∧
            snapshot.columnPrimal = problem.workspace.integer.columnValues) ∧
          fresh.objective = 0 ∧
          fresh.rowPrimal = Dense.zeros problem.workspace.rows.length ∧
          fresh.columnPrimal = Dense.zeros problem.workspace.columns.length) := by
  obtain ⟨valid, integers, record, ended, recorded⟩ := branchCutEnds_of_solveTimed ends reported
  obtain ⟨left, endedAgain, stores⟩ :=
    ended.again (copy_sameData problem.workspace) inTime otherInTime
  have integersAgain : problem.copy.integerColumnCount ≠ 0 := integers
  obtain ⟨again, endsAgain, reportedAgain, rfl, recordedAgain⟩ :=
    solveTimed_of_branchCutEnds valid integersAgain endedAgain
  have wellFormed := solveTimed_wellFormed history.wellFormed ends
  have wellFormedAgain := solveTimed_wellFormed history.copy.wellFormed endsAgain
  refine ⟨again, _, _, endsAgain, reportedAgain, extract_branchCut wellFormed recorded,
    extract_branchCut wellFormedAgain recordedAgain, rfl, rfl, ?_, ?_⟩
  · cases stores with
    | searched _ same => rw [same]
    | kept _ bare => simp [Solution.ofStored, bare]
  · cases stores with
    | searched counted same => exact .inl ⟨counted, by rw [same]⟩
    | kept counted _ keeps keepsAgain =>
        exact .inr ⟨counted, ⟨keeps.objective, keeps.rowValues, keeps.columnValues⟩,
          keepsAgain.objective, keepsAgain.rowValues, keepsAgain.columnValues⟩

/-! ## A snapshot with values of another solve -/

namespace Problem

def switch : Problem ℚ := growing (.double 0 1)

theorem exists_history_switch : ∃ events, History events switch :=
  ⟨_, .returned (.edit (.setObjectiveCoefficient 1 1))
    (.returned (.edit (.setDirection .maximize))
      (.returned (.edit (.setColumnKind 1 .binary))
        (.returned (.edit (.addColumns 1)) .create rfl) rfl) rfl) rfl⟩

theorem exists_report_switch :
    ∃ solved solution, solveTimed 5 switch .still (.branchCut .standard) = some solved ∧
      solved.answer = .ok ⟨.branchCut, .optimal, none, some .optimal, true⟩ ∧
      solved.problem.counters.searches = 1 ∧
      Solution.extract solved.problem .branchCut = .ok solution ∧ solution.objective = 1 := by
  have computed : (solveTimed 5 switch .still (.branchCut .standard)).map (fun solved =>
      (solved.answer.toOption, solved.problem.counters.searches,
        (Solution.extract solved.problem .branchCut).toOption.map (·.objective))) =
      some (some ⟨.branchCut, .optimal, none, some .optimal, true⟩, 1, some 1) := by
    decide +kernel
  obtain ⟨solved, ends, read⟩ := Option.map_eq_some_iff.mp computed
  obtain ⟨answered, read⟩ := Prod.mk.inj read
  obtain ⟨counted, read⟩ := Prod.mk.inj read
  obtain ⟨solution, extracted, objective⟩ := Option.map_eq_some_iff.mp read
  exact ⟨solved, solution, ends, Except.toOption_eq_some_iff.mp answered, counted,
    Except.toOption_eq_some_iff.mp extracted, objective⟩

/-- The relaxation may make one pivot, which is not enough to see its optimum. -/
def hurried : BranchCutConfig ℚ :=
  { BranchCutConfig.standard with
    relaxation := { SimplexConfig.standard with iterationLimit := some 1 } }

theorem inTime_hurried : (SolverConfig.branchCut hurried).InTime .still :=
  ⟨Clock.still_below (by decide), Timing.still_searchesBelow (by decide)⟩

/-- The switch is searched, and then solved in a hurry, as is a copy of it. -/
theorem exists_snapshots_switch :
    ∃ (problem : Problem ℚ) (snapshot fresh : Solution ℚ),
      ((∃ events, History events problem) ∧ switch.workspace.SameData problem.workspace) ∧
      branchCutSnapshot 5 problem .still hurried =
        some (⟨.branchCut, .undefined, some .iterations, some .feasible, false⟩, snapshot) ∧
      branchCutSnapshot 5 problem.copy .still hurried =
        some (⟨.branchCut, .undefined, some .iterations, some .feasible, false⟩, fresh) ∧
      snapshot.objective = 1 ∧ fresh.objective = 0 := by
  have computed : (solveTimed 5 switch .still (.branchCut .standard)).map (fun first =>
      (first.answer.isOk,
        (branchCutSnapshot 5 first.problem .still hurried).map fun seen =>
          (seen.1, seen.2.objective),
        (branchCutSnapshot 5 first.problem.copy .still hurried).map fun seen =>
          (seen.1, seen.2.objective))) =
      some (true, some (⟨.branchCut, .undefined, some .iterations, some .feasible, false⟩, 1),
        some (⟨.branchCut, .undefined, some .iterations, some .feasible, false⟩, 0)) := by
    decide +kernel
  obtain ⟨first, ends, read⟩ := Option.map_eq_some_iff.mp computed
  obtain ⟨answers, read⟩ := Prod.mk.inj read
  obtain ⟨seen, seenAnew⟩ := Prod.mk.inj read
  obtain ⟨⟨report, snapshot⟩, found, same⟩ := Option.map_eq_some_iff.mp seen
  obtain ⟨rfl, objective⟩ := Prod.mk.inj same
  obtain ⟨⟨report, fresh⟩, foundAnew, sameAnew⟩ := Option.map_eq_some_iff.mp seenAnew
  obtain ⟨rfl, objectiveAnew⟩ := Prod.mk.inj sameAnew
  obtain ⟨answered, reported⟩ := Except.exists_ok answers
  obtain ⟨events, history⟩ := exists_history_switch
  have accepted : accept (SolverConfig.branchCut .standard : SolverConfig ℚ) = .ok () :=
    Except.mapError_eq_ok_iff.mpr (outline_of_reported ends reported).1
  have data := (solveTimed_concluded history.wellFormed accepted ends).data
  exact ⟨first.problem, snapshot, fresh, ⟨⟨_, history.reported ends reported⟩, data⟩, found,
    foundAnew, objective, objectiveAnew⟩

theorem snapshot_anew_switch :
    ∃ (problem : Problem ℚ) (solved again : Solve ℚ) (snapshot fresh : Solution ℚ),
      (∃ events, History events problem) ∧ (SolverConfig.branchCut hurried).InTime .still ∧
      solveTimed 5 problem .still (.branchCut hurried) = some solved ∧
      solveTimed 5 problem.copy .still (.branchCut hurried) = some again ∧
      (∃ report, solved.answer = .ok report ∧ again.answer = .ok report) ∧
      Solution.extract solved.problem .branchCut = .ok snapshot ∧
      Solution.extract again.problem .branchCut = .ok fresh ∧
      snapshot.status = fresh.status ∧ snapshot.limit = fresh.limit ∧
      snapshot.gap = fresh.gap := by
  obtain ⟨problem, snapshot, fresh, ⟨⟨events, history⟩, -⟩, found, -⟩ := exists_snapshots_switch
  obtain ⟨solved, ends, reported, -⟩ := branchCutSnapshot_eq_some_iff.mp found
  obtain ⟨again, shown, anew, endsAgain, reportedAgain, extracted, extractedAgain, status, limit,
    gap, -⟩ := history.snapshot_anew inTime_hurried inTime_hurried ends reported
  exact ⟨problem, solved, again, shown, anew, ⟨events, history⟩, inTime_hurried, ends, endsAgain,
    ⟨_, reported, reportedAgain⟩, extracted, extractedAgain, status, limit, gap⟩

/-- A branch and cut that does not search shows the objective of an earlier search, and a fresh
copy of the problem shows zero. -/
theorem snapshot_of_earlier_search :
    ∃ (problem : Problem ℚ) (config : BranchCutConfig ℚ) (report : Report)
      (snapshot fresh : Solution ℚ),
      (∃ events, History events problem) ∧ (SolverConfig.branchCut config).InTime .still ∧
      branchCutSnapshot 5 problem .still config = some (report, snapshot) ∧
      branchCutSnapshot 5 problem.copy .still config = some (report, fresh) ∧
      report.searchRan = false ∧ snapshot.objective ≠ fresh.objective := by
  obtain ⟨problem, snapshot, fresh, ⟨history, -⟩, found, foundAnew, one, zero⟩ :=
    exists_snapshots_switch
  refine ⟨problem, hurried, _, snapshot, fresh, history, inTime_hurried, found, foundAnew, rfl, ?_⟩
  rw [one, zero]
  exact one_ne_zero

end Problem

end LinearProgramming
