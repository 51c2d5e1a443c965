import LinearProgramming.Proofs.Workspace.Kinds

/-!
# Stored integer solutions

A search has the relaxations of its nodes solved by a simplex run, but little of what it leaves
behind depends on that.  If only the optima of the solver lie in the boxes that it is given, then
every stored solution that is called optimal or feasible is whole in the integer columns, keeps the
bounds of all columns, and says truly what its rows and its objective come to.  This outlives all
later calls, those that are refused included, until a change of the data discards the solution.
-/

namespace LinearProgramming

variable {K : Type} [Scalar K]

namespace Workspace

/-- Bounds that are crossed, or fractional in an integer column, admit no search. -/
theorem bounds_of_admissionBy {root : Program K → PointStatus} {workspace : Workspace K}
    {options : Search.Options K} (admits : workspace.admissionBy root options = .search) :
    workspace.program.boundsConsistent = true ∧ workspace.integerBoundsWhole = true := by
  unfold admissionBy at admits
  dsimp only at admits
  split at admits
  · cases admits
  split at admits
  · cases admits
  · rename_i sound
    simpa using sound

theorem status_of_refusal {root : Program K → PointStatus} {workspace : Workspace K}
    {options : Search.Options K} {code : ReturnCode} {status : PointStatus}
    (refuses : workspace.admissionBy root options = .refuse code (some status)) :
    status = .noneFeasible := by
  unfold admissionBy at refuses
  dsimp only at refuses
  split at refuses
  · cases refuses
  split at refuses
  · cases refuses
  split at refuses
  · unfold admitRelaxed at refuses
    split at refuses <;> cases refuses
    rfl
  split at refuses <;> cases refuses

/-- A call that moves the kinds of columns discards the stored solutions. -/
theorem discard_of_movesKinds {workspace next : Workspace K} {command : Command K}
    {number : Option Int} (moves : command.movesKinds = true)
    (ran : command.run workspace = .ok (next, number)) : next.discard = next := by
  cases Command.effect_of_run ran with
  | setColumnKind | deleteColumns => rfl
  | _ => cases moves

end Workspace

section Agreement

variable {K : Type} [ExactScalar K]

/-- A stored solution that is whole in the integer columns, keeps the bounds of all columns, and
says truly what its rows and its objective come to. -/
structure IntegerSolution.Agrees (solution : IntegerSolution K) (program : Program K)
    (integer : List Nat) : Prop where
  whole : ∀ column ∈ integer, IsWhole (Dense.entry solution.columnValues column)
  bounds : List.Forall₂ Bound.Contains program.columns solution.columnValues
  rows : solution.rowValues = program.activities solution.columnValues
  objective : solution.objective = program.objective solution.columnValues

namespace Workspace

/-- The stored integer solution is called neither optimal nor feasible, or it agrees with the
data. -/
def Agrees (workspace : Workspace K) : Prop :=
  workspace.integer.status = .optimal ∨ workspace.integer.status = .feasible →
    workspace.integer.Agrees workspace.program workspace.integerColumns

variable {workspace next : Workspace K} {solvers : Search.Solvers K} {options : Search.Options K}

theorem Agrees.of_unsolved (unsolved : workspace.discard = workspace) : workspace.Agrees := by
  have status : workspace.integer.status = .undefined :=
    (congrArg (·.integer.status) unsolved).symm
  rw [Agrees, status]
  rintro (⟨⟨⟩⟩ | ⟨⟨⟩⟩)

theorem Agrees.of_same (agrees : workspace.Agrees) (program : next.program = workspace.program)
    (integral : next.integralAt = workspace.integralAt)
    (integer : next.integer = workspace.integer) : next.Agrees := by
  intro called
  rw [integer] at called
  rw [integer, program]
  have kept := agrees called
  refine { kept with whole := fun column isInteger => kept.whole column ?_ }
  rwa [mem_integerColumns_iff_integralAt, ← integral, ← mem_integerColumns_iff_integralAt]

theorem Agrees.run (agrees : workspace.Agrees) {command : Command K} {number : Option Int}
    (ran : command.run workspace = .ok (next, number)) : next.Agrees := by
  cases moves : command.movesKinds with
  | true => exact .of_unsolved (discard_of_movesKinds moves ran)
  | false =>
      cases changed_run ran with
      | discarded unsolved => exact .of_unsolved unsolved
      | renamed same => exact agrees.of_same same.program (integralAt_run moves ran) same.integer

/-- A search that is admitted and ends leaves a solution that agrees with the data. -/
theorem agrees_integerSolution
    (admits : workspace.admissionBy solvers.root options = .search)
    (keeps : ∀ solved, Search.KeepsBounds (solvers.node solved) workspace.program)
    {steps : Nat} {clock : Clock} {result : Search.Result K}
    (found : Search.searchTimed steps options clock solvers.node workspace.program
      workspace.integerColumns = some result)
    (called : (workspace.integerSolution result).status = .optimal ∨
      (workspace.integerSolution result).status = .feasible) :
    (workspace.integerSolution result).Agrees workspace.program workspace.integerColumns := by
  obtain ⟨consistent, whole⟩ := bounds_of_admissionBy admits
  obtain ⟨best, isBest⟩ := exists_incumbent_of_status called
  obtain ⟨inside, wholePoint⟩ := Search.within_of_searchTimed consistent
    (whole_of_integerBoundsWhole whole) keeps found best isBest
  simp only [integerSolution, isBest]
  exact ⟨wholePoint, inside, rfl, rfl⟩

theorem Agrees.integerSearchBy (agrees : workspace.Agrees)
    (keeps : ∀ solved, Search.KeepsBounds (solvers.node solved) workspace.program)
    {steps : Nat} {clock : Clock} {run : IntegerRun K}
    (ends : workspace.integerSearchBy solvers steps clock options = some (next, run)) :
    next.Agrees := by
  rw [Workspace.integerSearchBy] at ends
  split at ends
  · rename_i code status refuses
    cases ends
    cases status with
    | none => exact agrees
    | some status =>
        obtain rfl := status_of_refusal refuses
        rintro (⟨⟨⟩⟩ | ⟨⟨⟩⟩)
  · rename_i admits
    obtain ⟨result, found, ⟨⟩⟩ := Option.bind_eq_some_iff.mp ends
    exact agrees_integerSolution admits keeps found

def doubled : Workspace ℚ :=
  ({ (empty : Workspace ℚ) with
    rows := [⟨none, .lower 1, .ofCells [(0, 2)]⟩]
    columns := [⟨none, true, .double 0 5, 1⟩] } : Workspace ℚ).discard

end Workspace

end Agreement

end LinearProgramming
