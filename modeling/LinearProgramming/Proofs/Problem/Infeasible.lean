import LinearProgramming.Proofs.Problem.BranchCut

/-!
# What an infeasible branch and cut has seen

A branch and cut that reports an infeasible problem has split or dropped every node that it took
up.  It drops a node when the relaxation of the node has no optimum, whatever the reason, so the
report is wrong about exactly those integral points that lie in dropped nodes.
-/

namespace LinearProgramming

namespace Workspace

variable {K : Type} [Scalar K]

/-- The steps of the search of a workspace but for the last one. -/
def searchMoves (steps : Nat) (workspace : Workspace K) (timing : Timing)
    (options : Search.Options K) : List (Search.Move K) :=
  Search.moves options (Search.nodeRelaxation options timing) workspace.program
    workspace.integerColumns steps timing.search (.start workspace.program)

end Workspace

theorem BranchCutConfig.presolves_toOptions {K : Type} [Scalar K] (config : BranchCutConfig K) :
    config.toOptions.presolves = config.presolve := by
  cases presolve : config.presolve <;>
    simp [toOptions, Search.Options.presolves, switchParameter, presolve]

namespace Problem

open Search Workspace

section Barren

variable {K : Type} [Scalar K] {problem : Problem K} {steps : Nat} {timing : Timing}
  {config : BranchCutConfig K} {solved : Solve K} {report : Report}

/-- An infeasible problem is told by a relaxation that presolving solves, or by a search that
ends without an incumbent. -/
theorem presolved_or_barren
    (ends : solveTimed steps problem timing (.branchCut config) = some solved)
    (reported : solved.answer = .ok report) (ran : report.searchRan = true)
    (infeasible : report.status = .infeasible) :
    (config.presolve = true ∧
        (Simplex.solve config.toOptions.nodeOptions timing.root problem.workspace.program).status =
          .noneFeasible) ∨
      ∃ result, searchTimed steps config.toOptions timing.search
          (nodeRelaxation config.toOptions timing) problem.workspace.program
          problem.workspace.integerColumns = some result ∧
        result.code = .ok ∧ result.incumbent = none := by
  obtain ⟨-, -, record, ended, -⟩ := branchCutEnds_of_solveTimed ends reported
  generalize solved.problem.workspace = left at ended
  cases ended with
  | skipped => cases ran
  | called relaxation record next run _ _ call settled =>
      change record.status = .infeasible at infeasible
      cases call with
      | refused code status refuses =>
          left
          obtain ⟨presolves, ⟨-, told⟩ | ⟨rfl, -⟩⟩ := record_of_refuse refuses settled
          · exact ⟨config.presolves_toOptions ▸ presolves, told⟩
          · cases infeasible
      | searched result admits found =>
          right
          obtain rfl := record_of_result (code_of_searchTimed found) rfl settled
          exact ⟨result, found, eq_none_of_infeasible infeasible⟩

end Barren

variable {K : Type} [ExactScalar K] {problem : Problem K} {steps : Nat} {timing : Timing}
  {config : BranchCutConfig K} {solved : Solve K} {report : Report}

/-- A branch and cut that calls its search and reports an infeasible problem was either told so by
the relaxation that presolving solves, or its search split every node that it took up or dropped
it in time, for a relaxation of any status but an optimum.  Every integral point of the problem
lies in a node that was dropped. -/
theorem drops_of_infeasible
    (ends : solveTimed steps problem timing (.branchCut config) = some solved)
    (reported : solved.answer = .ok report) (ran : report.searchRan = true)
    (infeasible : report.status = .infeasible) :
    (config.presolve = true ∧
        (Simplex.solve config.toOptions.nodeOptions timing.root problem.workspace.program).status =
          .noneFeasible) ∨
      (∀ move ∈ problem.workspace.searchMoves steps timing config.toOptions, ∃ node,
        move.Splits config.toOptions (nodeRelaxation config.toOptions timing)
            problem.workspace.program problem.workspace.integerColumns node ∨
          move.Drops config.toOptions (nodeRelaxation config.toOptions timing)
              problem.workspace.program node ∧
            (move.relaxed (nodeRelaxation config.toOptions timing) problem.workspace.program
              node).status ≠ .optimal) ∧
      ∀ values,
        problem.workspace.program.IntegerFeasible problem.workspace.integerColumns values →
        ∃ move ∈ problem.workspace.searchMoves steps timing config.toOptions, ∃ node,
          move.Drops config.toOptions (nodeRelaxation config.toOptions timing)
              problem.workspace.program node ∧
            (node.program problem.workspace.program).Feasible values := by
  refine (presolved_or_barren ends reported ran infeasible).imp_right ?_
  rintro ⟨result, found, ok, barren⟩
  constructor
  · intro move member
    obtain ⟨node, splits | drops⟩ := splits_or_drops found barren member
    · exact ⟨node, .inl splits⟩
    · exact ⟨node, .inr ⟨drops, drops.status_ne_optimal⟩⟩
  · intro values feasible
    exact exists_drops found ok barren feasible
      ⟨_, List.mem_singleton_self _, feasible.toFeasible⟩

def ray : Problem ℚ := growing (.lower 0)

theorem exists_history_ray : ∃ events, History events ray :=
  ⟨_, .returned (.edit (.setObjectiveCoefficient 1 1))
    (.returned (.edit (.setDirection .maximize))
      (.returned (.edit (.setColumnKind 1 .integer))
        (.returned (.edit (.setColumnBounds 1 .lower 0 0))
          (.returned (.edit (.addColumns 1)) .create rfl) rfl) rfl) rfl) rfl⟩

/-- Reduced costs up to 2 count as none, so that the relaxation of the ray ends at zero. -/
def looseDuals : BranchCutConfig ℚ :=
  { BranchCutConfig.standard with
    relaxation := { SimplexConfig.standard with dualTolerance := 2 } }

theorem validate_looseDuals : looseDuals.validate = .ok () :=
  Except.eq_ok (by decide +kernel)

theorem exists_report_ray :
    ∃ solved report, solveTimed 5 ray .still (.branchCut looseDuals) = some solved ∧
      solved.answer = .ok report ∧ report.searchRan = true ∧ report.status = .infeasible := by
  have ended : (branchCutSnapshot 5 ray .still looseDuals).map (·.1) =
      some ⟨.branchCut, .infeasible, none, some .optimal, true⟩ := by
    decide +kernel
  obtain ⟨⟨report, snapshot⟩, found, rfl⟩ := Option.map_eq_some_iff.mp ended
  obtain ⟨solved, ends, answered, -⟩ := branchCutSnapshot_eq_some_iff.mp found
  exact ⟨solved, _, ends, answered, rfl, rfl⟩

theorem integerFeasible_ray :
    ray.workspace.program.IntegerFeasible ray.workspace.integerColumns [0] where
  columns := .cons ((Bound.contains_lower _ _).mpr le_rfl) .nil
  rows _ member := by cases member
  whole column member := by
    obtain rfl := List.mem_singleton.mp member
    exact ⟨0, by simp⟩

theorem unbounded_of_drops_ray {move : Move ℚ}
    (member : move ∈ ray.workspace.searchMoves 5 .still looseDuals.toOptions) {node : Node ℚ}
    (drops : move.Drops looseDuals.toOptions (nodeRelaxation looseDuals.toOptions .still)
      ray.workspace.program node) :
    (move.relaxed (nodeRelaxation looseDuals.toOptions .still) ray.workspace.program
      node).status = .unbounded := by
  have statuses : (ray.workspace.searchMoves 5 .still looseDuals.toOptions).map (fun move =>
      (select looseDuals.toOptions.nodeOrder move.before.openNodes).map fun taken =>
        (move.relaxed (nodeRelaxation looseDuals.toOptions .still) ray.workspace.program
          taken.1).status) = [some .unbounded] := by
    decide +kernel
  have status := List.mem_map_of_mem (f := fun move : Move ℚ =>
      (select looseDuals.toOptions.nodeOrder move.before.openNodes).map fun taken =>
        (move.relaxed (nodeRelaxation looseDuals.toOptions .still) ray.workspace.program
          taken.1).status) member
  rw [statuses, drops.taken] at status
  simpa using status

theorem drops_of_infeasible_ray :
    ∃ solved report, solveTimed 5 ray .still (.branchCut looseDuals) = some solved ∧
      solved.answer = .ok report ∧ report.searchRan = true ∧ report.status = .infeasible ∧
      ∃ move ∈ ray.workspace.searchMoves 5 .still looseDuals.toOptions, ∃ node,
        move.Drops looseDuals.toOptions (nodeRelaxation looseDuals.toOptions .still)
            ray.workspace.program node ∧
          (node.program ray.workspace.program).Feasible [0] := by
  obtain ⟨solved, report, ends, reported, ran, infeasible⟩ := exists_report_ray
  refine ⟨solved, report, ends, reported, ran, infeasible, ?_⟩
  rcases drops_of_infeasible ends reported ran infeasible with ⟨presolves, -⟩ | ⟨-, lost⟩
  · cases presolves
  · exact lost [0] integerFeasible_ray

/-- A problem with an integral point is called infeasible for a node with an unbounded
relaxation. -/
theorem infeasible_despite_point :
    ∃ (problem : Problem ℚ) (config : BranchCutConfig ℚ) (solved : Solve ℚ) (report : Report),
      (∃ events, History events problem) ∧ config.validate = .ok () ∧
      solveTimed 5 problem .still (.branchCut config) = some solved ∧
      solved.answer = .ok report ∧ report.searchRan = true ∧ report.status = .infeasible ∧
      (∃ values,
        problem.workspace.program.IntegerFeasible problem.workspace.integerColumns values) ∧
      ∃ move ∈ problem.workspace.searchMoves 5 .still config.toOptions, ∃ node,
        move.Drops config.toOptions (nodeRelaxation config.toOptions .still)
            problem.workspace.program node ∧
          (move.relaxed (nodeRelaxation config.toOptions .still) problem.workspace.program
            node).status = .unbounded := by
  obtain ⟨solved, report, ends, reported, ran, infeasible⟩ := exists_report_ray
  refine ⟨ray, looseDuals, solved, report, exists_history_ray, validate_looseDuals, ends, reported,
    ran, infeasible, ⟨_, integerFeasible_ray⟩, ?_⟩
  rcases presolved_or_barren ends reported ran infeasible with
    ⟨presolves, -⟩ | ⟨result, found, ok, barren⟩
  · cases presolves
  · obtain ⟨move, member, node, drops, -⟩ := exists_drops found ok barren integerFeasible_ray
      ⟨_, List.mem_singleton_self _, integerFeasible_ray.toFeasible⟩
    exact ⟨move, member, node, drops, unbounded_of_drops_ray member drops⟩

end Problem

end LinearProgramming
