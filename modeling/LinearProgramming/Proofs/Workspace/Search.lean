import LinearProgramming.Proofs.Search.Rounding
import LinearProgramming.Proofs.Workspace.Solved
import LinearProgramming.Proofs.Endings
import LinearProgramming.Config.Basic

/-!
# The integer search of a workspace

A call is refused before the search, and then changes no stored value, or the search ends, and
then its result takes the place of the stored solution.  The stored point is whole and keeps the
bounds of the columns; how far it may miss those of the rows is what the rounding of the incumbent
moves their activities by.
-/

namespace LinearProgramming

variable {K : Type} [Scalar K]

namespace Simplex

theorem exists_point_of_status {options : Options K} {clock : Clock} {program : Program K}
    (told : (solve options clock program).status ≠ .undefined) :
    ∃ point, (solve options clock program).point = some point := by
  have ended := solve_ends options clock program
  generalize (solve options clock program).code = code at ended
  generalize (solve options clock program).status = status at ended told
  generalize (solve options clock program).point = point at ended ⊢
  cases ended with
  | empty | inconsistent => exact absurd rfl told
  | _ => exact ⟨_, rfl⟩

theorem objective_of_solve {options : Options K} {clock : Clock} {program : Program K}
    {point : Point K} (found : (solve options clock program).point = some point) :
    point.objective = program.objective point.columnPrimal := by
  unfold solve at found
  split at found
  case isTrue => cases found
  case isFalse =>
    split at found
    case isTrue => cases found
    case isFalse =>
      dsimp only at found
      split at found
      · cases found
        rfl
      · cases found
        rfl
      · split at found <;> cases found <;> rfl

end Simplex

namespace Search

theorem objective_of_nodeRelaxation {options : Options K} {timing : Timing} {solved : Nat}
    {program : Program K} {node : Node K} {point : Point K}
    (attains : (node.relaxed (nodeRelaxation options timing solved) program).Attains point) :
    point.objective = program.objective point.columnPrimal := by
  have found : (Simplex.solve options.nodeOptions (timing.node solved)
      { program with columns := node.columns }).point = some point := attains.point
  have attained := Simplex.objective_of_solve found
  exact attained

/-- A run with an optimum has a point, so no node with an optimum is dropped without regard to
it. -/
theorem Move.Drops.status_ne_optimal {options : Options K} {timing : Timing} {program : Program K}
    {move : Move K} {node : Node K}
    (drops : move.Drops options (nodeRelaxation options timing) program node) :
    (move.relaxed (nodeRelaxation options timing) program node).status ≠ .optimal := by
  intro optimal
  have told : (Simplex.solve options.nodeOptions (timing.node move.before.solved)
      { program with columns := node.columns }).status = .optimal := optimal
  obtain ⟨point, found⟩ := Simplex.exists_point_of_status (by rw [told]; decide)
  exact drops.unsolved point ⟨drops.inTime, optimal, found⟩

end Search

namespace Workspace

variable {workspace : Workspace K}

omit [Scalar K] in
theorem mem_integerColumns_iff {column : Nat} :
    column ∈ workspace.integerColumns ↔
      ∃ found, workspace.columns[column]? = some found ∧ found.integral = true := by
  simp [integerColumns, List.mem_filterMap, Prod.exists, List.mem_zipIdx_iff_getElem?]

theorem whole_of_integerBoundsWhole (whole : workspace.integerBoundsWhole = true) :
    ∀ column ∈ workspace.integerColumns, ∀ bound ∈ workspace.program.columns[column]?,
      bound.isWhole = true := by
  intro column isInteger bound at_column
  obtain ⟨found, isFound, integral⟩ := mem_integerColumns_iff.mp isInteger
  have bounded : found.bound = bound := by
    simpa [program, isFound] using at_column
  have checked := List.all_eq_true.mp whole found (List.mem_of_getElem? isFound)
  simpa [integral, bounded] using checked

theorem exists_incumbent_of_status {result : Search.Result K}
    (kept : (workspace.integerSolution result).status = .optimal ∨
      (workspace.integerSolution result).status = .feasible) :
    ∃ best, result.incumbent = some best := by
  cases found : result.incumbent with
  | some best => exact ⟨best, rfl⟩
  | none =>
      have status : (workspace.integerSolution result).status = searchStatus result.code false := by
        simp only [integerSolution, found]
        rfl
      rw [status] at kept
      cases code : result.code <;> simp [searchStatus, code] at kept

end Workspace

/-! ## Stored points -/

section Stored

variable {K : Type} [ExactScalar K]

structure Bound.ContainsUpTo (bound : Bound K) (slack value : K) : Prop where
  lower : ∀ least ∈ bound.lower?, least - slack ≤ value
  upper : ∀ greatest ∈ bound.upper?, value ≤ greatest + slack

theorem Bound.Contains.upTo {bound : Bound K} {exact value slack : K}
    (contained : bound.Contains exact) (near : |value - exact| ≤ slack) :
    bound.ContainsUpTo slack value := by
  obtain ⟨below, above⟩ := abs_le.mp near
  constructor
  · intro least isLeast
    have := contained.lower least isLeast
    linarith
  · intro greatest isGreatest
    have := contained.upper greatest isGreatest
    linarith

namespace Workspace

open Search

/-- Over relaxations that are solved exactly, a search that stores a point stores one that is
whole in the integer columns and keeps the bounds of all columns.  A row it may miss, by no more
than the integer tolerance, and no more than a half, for each unit of the row's coefficients at
integer columns. -/
theorem integerSolution_rows {workspace : Workspace K}
    (consistent : workspace.program.boundsConsistent = true)
    (whole : workspace.integerBoundsWhole = true) {options : Search.Options K}
    {relax : Nat → Program K → Outcome K}
    (exact : ∀ solved, SolvesBoxes (relax solved) workspace.program workspace.integerColumns)
    {steps : Nat} {clock : Clock} {result : Search.Result K}
    (found : searchTimed steps options clock relax workspace.program workspace.integerColumns =
      some result)
    (kept : (workspace.integerSolution result).status = .optimal ∨
      (workspace.integerSolution result).status = .feasible) :
    List.Forall₂
        (fun (row : LinearRow K) value =>
          row.bound.ContainsUpTo
            (options.rounding * integerWeight workspace.integerColumns row.cells) value)
        workspace.program.rows (workspace.integerSolution result).rowValues ∧
      List.Forall₂ Bound.Contains workspace.program.columns
        (workspace.integerSolution result).columnValues ∧
      ∀ column ∈ workspace.integerColumns,
        IsWhole (Dense.entry (workspace.integerSolution result).columnValues column) := by
  obtain ⟨best, isBest⟩ := exists_incumbent_of_status kept
  have wholeBounds := whole_of_integerBoundsWhole whole
  obtain ⟨point, rounds, feasible⟩ :=
    feasible_rounds_of_searchTimed consistent wholeBounds exact found best isBest
  have columnValues : (workspace.integerSolution result).columnValues = best.point := by
    simp only [integerSolution, isBest]
  have rowValues : (workspace.integerSolution result).rowValues =
      workspace.program.activities best.point := by
    simp only [integerSolution, isBest]
  rw [columnValues, rowValues]
  refine ⟨?_, ?_, rounds.whole⟩
  · rw [Program.activities, List.forall₂_map_right_iff, List.forall₂_same]
    intro row member
    exact (feasible.rows row member).upTo (rounds.abs_dotCells_sub_le row.cells)
  · rw [rounds.rounded]
    exact forall₂_roundColumns wholeBounds feasible.columns

/-- An integer column whose least value in the relaxation is a millionth. -/
def sliver : Workspace ℚ :=
  { (empty : Workspace ℚ) with
    rows := [⟨none, .lower 1, .ofCells [(0, 1000000)]⟩]
    columns := [⟨none, true, .double 0 5, 1⟩] }

theorem decided_sliver : ∀ least greatest : Fin 6, least ≤ greatest →
    let status := (simplexRelaxation { sliver.program with
      columns := [.between (some (least.val : ℚ)) (some (greatest.val : ℚ))] }).status
    status = .optimal ∨ status = .noneFeasible := by
  decide +kernel

theorem solvesBoxes_sliver :
    SolvesBoxes simplexRelaxation sliver.program sliver.integerColumns :=
  solvesBoxes_of_decided rfl rfl decided_sliver

theorem exists_result_sliver :
    ∃ result, searchTimed 5 (BranchCutConfig.standard.toOptions : Search.Options ℚ) .still
        (fun _ => simplexRelaxation) sliver.program sliver.integerColumns = some result ∧
      (sliver.integerSolution result).status = .optimal ∧
      (sliver.integerSolution result).rowValues = [0] := by
  have ended : (searchTimed 5 (BranchCutConfig.standard.toOptions : Search.Options ℚ) .still
      (fun _ => simplexRelaxation) sliver.program sliver.integerColumns).map (fun result =>
        ((sliver.integerSolution result).status, (sliver.integerSolution result).rowValues)) =
      some (.optimal, [0]) := by
    decide +kernel
  obtain ⟨result, found, stored⟩ := Option.map_eq_some_iff.mp ended
  obtain ⟨status, rowValues⟩ := Prod.mk.inj stored
  exact ⟨result, found, status, rowValues⟩

theorem integerSolution_rows_sliver :
    sliver.program.boundsConsistent = true ∧ sliver.integerBoundsWhole = true ∧
      SolvesBoxes simplexRelaxation sliver.program sliver.integerColumns ∧
      ∃ result, searchTimed 5 (BranchCutConfig.standard.toOptions : Search.Options ℚ) .still
          (fun _ => simplexRelaxation) sliver.program sliver.integerColumns = some result ∧
        (sliver.integerSolution result).status = .optimal ∧
        List.Forall₂
          (fun (row : LinearRow ℚ) value =>
            row.bound.ContainsUpTo
              ((BranchCutConfig.standard.toOptions : Search.Options ℚ).rounding *
                integerWeight sliver.integerColumns row.cells) value)
          sliver.program.rows (sliver.integerSolution result).rowValues := by
  have consistent : sliver.program.boundsConsistent = true := by decide +kernel
  have whole : sliver.integerBoundsWhole = true := by decide +kernel
  obtain ⟨result, found, status, -⟩ := exists_result_sliver
  exact ⟨consistent, whole, solvesBoxes_sliver, result, found, status,
    (integerSolution_rows consistent whole (fun _ => solvesBoxes_sliver) found (.inl status)).1⟩

/-- The stored point of the sliver is optimal and misses its row. -/
theorem integerSolution_misses_row :
    ∃ (workspace : Workspace ℚ) (config : BranchCutConfig ℚ) (result : Search.Result ℚ),
      config.validate = .ok () ∧ workspace.program.boundsConsistent = true ∧
      workspace.integerBoundsWhole = true ∧
      SolvesBoxes simplexRelaxation workspace.program workspace.integerColumns ∧
      searchTimed 5 config.toOptions .still (fun _ => simplexRelaxation) workspace.program
        workspace.integerColumns = some result ∧
      (workspace.integerSolution result).status = .optimal ∧
      ¬ List.Forall₂ (fun (row : LinearRow ℚ) value => row.bound.Contains value)
        workspace.program.rows (workspace.integerSolution result).rowValues := by
  obtain ⟨result, found, status, rowValues⟩ := exists_result_sliver
  refine ⟨sliver, .standard, result, Except.eq_ok (by decide +kernel), by decide +kernel,
    by decide +kernel, solvesBoxes_sliver, found, status, ?_⟩
  rw [rowValues]
  have missed : ¬ (Bound.lower 1 : Bound ℚ).Contains 0 := by simp
  intro holds
  obtain ⟨contained, -⟩ := List.forall₂_cons.mp holds
  exact missed contained

end Workspace

end Stored

end LinearProgramming
