import LinearProgramming.Proofs.Opposite.Solvers
import LinearProgramming.Proofs.Problem.Snapshot

/-!
# Searches of opposite programs

A search minimizes whatever the direction is, so it takes the same steps on opposite programs.  The
solution that a workspace keeps of it is opposite: its objective and its bound are negated.
-/

namespace LinearProgramming

variable {K : Type} [ExactScalar K]

namespace Search

theorem Options.nodeOptions_opposite (options : Options K) :
    options.nodeOptions.opposite = options.nodeOptions := by
  have largest : - -(Scalar.largest : K) = Scalar.largest := neg_neg _
  simp only [nodeOptions, Simplex.Options.opposite, Simplex.Options.standard, largest]

theorem nodeRelaxation_opposite (options : Options K) (timing : Timing) (solved : Nat)
    (program : Program K) :
    nodeRelaxation options timing solved program.opposite =
      (nodeRelaxation options timing solved program).opposite := by
  have run := Simplex.solve_opposite options.nodeOptions (timing.node solved) program
  rw [options.nodeOptions_opposite] at run
  exact congrArg Simplex.Run.toOutcome run

variable {options : Options K} {program : Program K} {integer : List Nat}

theorem State.expand_opposite (state : State K) (node : Node K) (point : Point K) :
    state.expand options program.opposite integer node point.opposite =
      state.expand options program integer node point := by
  have objective : program.opposite.direction.minimizingSign * point.opposite.objective =
      program.direction.minimizingSign * point.objective := by
    simp only [Program.opposite, Point.opposite, Direction.minimizingSign_opposite, neg_mul_neg]
  simp only [State.expand, objective]
  rfl

theorem step_opposite {relax : Program K → Outcome K}
    (opposes : ∀ program, relax program.opposite = (relax program).opposite) (elapsed : Nat)
    (state : State K) :
    step options relax program.opposite integer elapsed state =
      step options relax program integer elapsed state := by
  have relaxes (node : Node K) : relax { program.opposite with columns := node.columns } =
      (relax { program with columns := node.columns }).opposite :=
    opposes { program with columns := node.columns }
  unfold step
  split
  · rfl
  · rename_i node rest _
    simp only [relaxes]
    generalize relax { program with columns := node.columns } = outcome
    obtain ⟨code, status, point, iterations⟩ := outcome
    have late : code.opposite = .timeLimit ↔ code = .timeLimit := ReturnCode.opposite_eq_iff rfl
    simp only [Outcome.opposite, late]
    cases status with
    | optimal =>
        cases point with
        | none => rfl
        | some point => simp only [Option.map_some, State.expand_opposite]
    | _ => rfl

theorem runTimed_opposite {relax : Nat → Program K → Outcome K}
    (opposes : ∀ solved program, relax solved program.opposite = (relax solved program).opposite)
    (steps : Nat) (clock : Clock) (state : State K) :
    runTimed options relax program.opposite integer steps clock state =
      runTimed options relax program integer steps clock state := by
  induction steps generalizing clock state with
  | zero => rfl
  | succ steps inductionHypothesis =>
      rw [runTimed, runTimed, step_opposite (opposes state.solved)]
      cases step options (relax state.solved) program integer (clock 0) state with
      | done result => rfl
      | «continue» next => exact inductionHypothesis clock.next next

end Search

/-! ## Stored solutions -/

namespace Extended

@[simp]
theorem negate_negate (bound : Extended K) : bound.negate.negate = bound := by
  cases bound with
  | «at» value => exact congrArg Extended.at (neg_neg value)
  | below | above => rfl

@[simp]
theorem toScalar_negate (bound : Extended K) : bound.negate.toScalar = -bound.toScalar := by
  cases bound with
  | «at» value => rfl
  | below => exact (neg_neg _).symm
  | above => rfl

end Extended

/-- The stored solution of the opposite problem. -/
def IntegerSolution.opposite (stored : IntegerSolution K) : IntegerSolution K where
  status := stored.status
  objective := -stored.objective
  bound := stored.bound.negate
  rowValues := stored.rowValues
  columnValues := stored.columnValues

theorem LinearSolution.opposite_none (rows columns : Nat) :
    (LinearSolution.none rows columns : LinearSolution K).point.opposite =
      (LinearSolution.none rows columns).point := by
  simp [LinearSolution.none, Point.opposite, Dense.zeros]

theorem IntegerSolution.opposite_none (rows columns : Nat) :
    (IntegerSolution.none rows columns : IntegerSolution K).opposite = .none rows columns := by
  simp [IntegerSolution.none, IntegerSolution.opposite, Extended.negate]

namespace Workspace

/-- The data, but for names, are those of an opposite program with the same integer columns. -/
structure Opposed (first second : Workspace K) : Prop where
  program : second.program = first.program.opposite
  integral : second.columns.map (·.integral) = first.columns.map (·.integral)

namespace Opposed

variable {first second : Workspace K} (opposed : Opposed first second)

include opposed

theorem length_rows : second.rows.length = first.rows.length := by
  simpa [Workspace.program, Program.opposite] using
    congrArg (fun program => program.rows.length) opposed.program

theorem length_columns : second.columns.length = first.columns.length := by
  simpa using congrArg List.length opposed.integral

theorem integerColumns_eq : second.integerColumns = first.integerColumns := by
  have read (workspace : Workspace K) : workspace.integerColumns =
      (workspace.columns.map (·.integral)).zipIdx.filterMap
        fun entry => if entry.1 then some entry.2 else none := by
    rw [List.zipIdx_map, List.filterMap_map]
    rfl
  rw [read, read, opposed.integral]

theorem integerBoundsWhole_eq : second.integerBoundsWhole = first.integerBoundsWhole := by
  have read (workspace : Workspace K) : workspace.integerBoundsWhole =
      ((workspace.columns.map (·.integral)).zip workspace.program.columns).all
        fun entry => !entry.1 || entry.2.isWhole := by
    rw [Workspace.program, List.zip_map', List.all_map]
    rfl
  rw [read, read, opposed.integral, opposed.program]
  rfl

theorem integerSolution_eq (result : Search.Result K) :
    second.integerSolution result = (first.integerSolution result).opposite := by
  have direction : first.program.opposite.direction = first.program.direction.opposite := rfl
  unfold integerSolution
  dsimp only
  rw [opposed.program, opposed.length_rows, opposed.length_columns, direction]
  cases result.incumbent <;> cases first.program.direction <;>
    simp [IntegerSolution.opposite, IntegerSolution.none, Direction.opposite]

theorem integer_of_unsolved (unsolved : first.discard = first)
    (otherUnsolved : second.discard = second) : second.integer = first.integer.opposite := by
  have zero : first.integer = .none first.rows.length first.columns.length :=
    (congrArg (·.integer) unsolved).symm
  have otherZero : second.integer = .none second.rows.length second.columns.length :=
    (congrArg (·.integer) otherUnsolved).symm
  rw [zero, otherZero, opposed.length_rows, opposed.length_columns, IntegerSolution.opposite_none]

variable {timing other : Timing} {steps : Nat}

theorem simplexRun_eq {clock otherClock : Clock} {options : Simplex.Options K}
    (below : clock.Below options.timeLimit) (otherBelow : otherClock.Below options.timeLimit) :
    (second.simplexTimed otherClock options.opposite).2 =
      (first.simplexTimed clock options).2.opposite := by
  have otherBelow : otherClock.Below options.opposite.timeLimit := otherBelow
  simp only [simplexTimed, opposed.program, ← Simplex.solve_opposite]
  exact Simplex.solve_in_time otherBelow below _

section Search

variable {options : Search.Options K} (inTime : timing.SearchesBelow options.timeLimit)
  (otherInTime : other.SearchesBelow options.timeLimit)

include inTime otherInTime

theorem admission_eq (status : second.basic.status = first.basic.status) :
    second.admission other.root options = first.admission timing.root options := by
  have relaxed : (Simplex.solve options.nodeOptions other.root first.program.opposite).status =
      (Simplex.solve options.nodeOptions timing.root first.program).status := by
    have run := Simplex.solve_opposite options.nodeOptions timing.root first.program
    rw [options.nodeOptions_opposite] at run
    rw [Simplex.solve_in_time otherInTime.root inTime.root, run]
    rfl
  have columns : first.program.opposite.columns.isEmpty = first.program.columns.isEmpty := rfl
  unfold admission admissionBy
  dsimp only
  rw [opposed.program, opposed.integerBoundsWhole_eq, status, relaxed, columns,
    Program.boundsConsistent_opposite]

theorem searchTimed_eq (steps : Nat) :
    Search.searchTimed steps options other.search (Search.nodeRelaxation options other)
        second.program second.integerColumns =
      Search.searchTimed steps options timing.search (Search.nodeRelaxation options timing)
        first.program first.integerColumns := by
  rw [Search.searchTimed_in_time inTime otherInTime, opposed.program, opposed.integerColumns_eq]
  exact Search.runTimed_opposite (Search.nodeRelaxation_opposite options timing) _ _ _

end Search

end Opposed

end Workspace

end LinearProgramming
