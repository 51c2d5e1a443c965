import LinearProgramming.Proofs.Search.Step
import LinearProgramming.Proofs.Workspace.WellFormed
import LinearProgramming.Workspace.Solve

/-!
# Stored solutions

Every solver gives a value and a dual for each row and column of the program that it is
given, so a workspace stays well formed when a solution is stored in it.
-/

namespace LinearProgramming

variable {K : Type} [Scalar K]

theorem Substitution.length_ofBounds (next : Nat) (bounds : List (Bound K)) :
    (ofBounds next bounds).length = bounds.length := by
  induction bounds generalizing next with
  | nil => rfl
  | cons bound bounds inductionHypothesis => simp [ofBounds, inductionHypothesis]

theorem StandardForm.length_reducedCosts (program : Program K) (rowDuals : List K) :
    (reducedCosts program rowDuals).length = program.cost.length := by
  have row (cells : List (Nat × K)) (dual : K) (costs : List K) :
      (cells.foldl (fun costs cell => costs.modify cell.1 (· - cell.2 * dual)) costs).length =
        costs.length := by
    induction cells generalizing costs with
    | nil => rfl
    | cons cell cells inductionHypothesis => simp [inductionHypothesis]
  have rows (charged : List (LinearRow K × K)) (costs : List K) :
      (charged.foldl (fun costs pair =>
        pair.1.cells.foldl (fun costs cell => costs.modify cell.1 (· - cell.2 * pair.2)) costs)
        costs).length = costs.length := by
    induction charged generalizing costs with
    | nil => rfl
    | cons pair charged inductionHypothesis => simp [inductionHypothesis, row]
  exact rows _ _

def Program.Priced {K : Type} (program : Program K) : Prop :=
  program.cost.length = program.columns.length

theorem Program.Priced.recover_fits {program : Program K} (priced : program.Priced)
    (point multipliers : List K) :
    ((StandardForm.ofProgram program).recover program point multipliers).Fits
      program.rows.length program.columns.length where
  rowPrimal := by simp [StandardForm.recover, Program.activities]
  rowDual := by simp [StandardForm.recover]
  columnPrimal := by
    simp [StandardForm.recover, StandardForm.columns, StandardForm.ofProgram,
      Substitution.length_ofBounds]
  columnDual := (StandardForm.length_reducedCosts program _).trans priced

def Outcome.Fits {K : Type} (outcome : Outcome K) (program : Program K) : Prop :=
  ∀ point ∈ outcome.point, point.Fits program.rows.length program.columns.length

theorem Simplex.solve_fits {program : Program K} (priced : program.Priced)
    (options : Simplex.Options K) (clock : Clock) :
    (Simplex.solve options clock program).Fits program := by
  have finished (phaseOnePivots : Nat) (progress : Progress K) (code : ReturnCode)
      (status : PointStatus) :
      (finish options program (.ofProgram program) phaseOnePivots progress code status).Fits
        program := by
    intro point found
    cases found
    exact priced.recover_fits _ _
  unfold Simplex.solve
  split
  case isTrue => exact nofun
  case isFalse =>
    split
    case isTrue => exact nofun
    case isFalse =>
      dsimp only
      split
      · apply finished
      · apply finished
      · split <;> apply finished

theorem Interior.solve_fits {program : Program K} (priced : program.Priced) :
    (Interior.solve program).Fits program := by
  unfold Interior.solve
  split
  case isTrue => exact nofun
  case isFalse =>
    dsimp only
    split
    case isTrue =>
      intro point found
      simp only [solveUnconstrained] at found
      split at found
      · cases found
      · cases found
        exact priced.recover_fits _ _
    case isFalse =>
      split
      · exact nofun
      · intro point found
        simp only [Final.outcome] at found
        split at found <;> cases found <;> exact priced.recover_fits _ _

/-! ## The integer search -/

namespace Search

def Result.Sized {K : Type} (result : Result K) (columns : Nat) : Prop :=
  ∀ incumbent ∈ result.incumbent, incumbent.point.length = columns

structure State.Sized {K : Type} (state : State K) (columns : Nat) : Prop where
  nodes : ∀ node ∈ state.openNodes, node.columns.length = columns
  incumbent : ∀ incumbent ∈ state.incumbent, incumbent.point.length = columns

def Fitting {K : Type} (relax : Program K → Outcome K) (program : Program K) : Prop :=
  ∀ columns : List (Bound K), columns.length = program.columns.length →
    (relax { program with columns }).Fits { program with columns }

variable {options : Options K} {program : Program K} {integer : List Nat} {state : State K}

/-- The incumbent of a whole run has a value for each column of the program. -/
theorem runTimed_sized {relax : Nat → Program K → Outcome K}
    (fitting : ∀ solved, Fitting (relax solved) program) {steps : Nat} {clock : Clock}
    (sized : state.Sized program.columns.length) {result : Result K}
    (ends : runTimed options relax program integer steps clock state = some result) :
    result.Sized program.columns.length := by
  refine incumbent_of_runTimed (fun node => node.columns.length = program.columns.length) ?_ ?_
    sized.nodes sized.incumbent ends
  · intro _ node _ _ nodeSized _ _ part isPart
    exact (length_columns_of_mem_split isPart).trans nodeSized
  · intro solved node point nodeSized attains _
    have fits := fitting solved node.columns nodeSized point attains.point
    exact (length_roundColumns integer _).trans (fits.columnPrimal.trans nodeSized)

end Search

theorem Simplex.solve_fitting {program : Program K} (priced : program.Priced)
    (options : Simplex.Options K) (clock : Clock) :
    Search.Fitting (fun program => (Simplex.solve options clock program).toOutcome) program := by
  intro columns same
  have pricedBox : ({ program with columns } : Program K).Priced := priced.trans same.symm
  exact Simplex.solve_fits pricedBox options clock

/-! ## Solving the problem of a workspace -/

omit [Scalar K] in
theorem LinearSolution.store_fits {solution : LinearSolution K} {outcome : Outcome K}
    {rows columns : Nat} (stored : solution.point.Fits rows columns)
    (fits : ∀ point ∈ outcome.point, point.Fits rows columns) :
    (solution.store outcome).point.Fits rows columns := by
  rw [LinearSolution.store]
  cases found : outcome.point with
  | none => exact stored
  | some point => exact fits point found

namespace Workspace

variable {workspace : Workspace K}

omit [Scalar K] in
theorem program_priced (workspace : Workspace K) : workspace.program.Priced := by
  simp [Program.Priced, program]

omit [Scalar K] in
theorem fits_program {outcome : Outcome K} (fits : outcome.Fits workspace.program) :
    ∀ point ∈ outcome.point, point.Fits workspace.rows.length workspace.columns.length := by
  simpa [Outcome.Fits, program] using fits

theorem WellFormed.simplexTimed (wellFormed : workspace.WellFormed) (clock : Clock)
    (options : Simplex.Options K) : (workspace.simplexTimed clock options).1.WellFormed :=
  { wellFormed with
    basic := LinearSolution.store_fits wellFormed.basic
      (fits_program (Simplex.solve_fits workspace.program_priced options clock)) }

theorem WellFormed.interiorPoint (wellFormed : workspace.WellFormed) :
    workspace.interiorPoint.1.WellFormed :=
  { wellFormed with
    interior := LinearSolution.store_fits wellFormed.interior
      (fits_program (Interior.solve_fits workspace.program_priced)) }

theorem integerSolution_fits {result : Search.Result K}
    (sized : result.Sized workspace.columns.length) :
    (workspace.integerSolution result).Fits workspace.rows.length workspace.columns.length := by
  unfold integerSolution
  dsimp only
  split
  · exact { IntegerSolution.none_fits workspace.rows.length workspace.columns.length with }
  · rename_i incumbent found
    exact ⟨by simp [Program.activities, program], sized incumbent found⟩

theorem searchTimed_sized {steps : Nat} {options : Search.Options K} {clock : Clock}
    {nodeClock : Nat → Clock} {nodeOptions : Simplex.Options K} {integer : List Nat}
    {result : Search.Result K}
    (ends : Search.searchTimed steps options clock
      (fun solved program => (Simplex.solve nodeOptions (nodeClock solved) program).toOutcome)
      workspace.program integer = some result) :
    result.Sized workspace.columns.length := by
  have start : (Search.State.start workspace.program).Sized workspace.program.columns.length := by
    constructor
    · simp [Search.State.start, Search.rootNode]
    · exact nofun
  have sized := Search.runTimed_sized (fun solved =>
    Simplex.solve_fitting workspace.program_priced nodeOptions (nodeClock solved)) start ends
  simpa [program] using sized

section Search

variable {steps : Nat} {next : Workspace K} {timing : Timing} {options : Search.Options K}
  {run : IntegerRun K} {code : ReturnCode} {status : Option PointStatus}

theorem integerSearchTimed_of_refuse
    (refuses : workspace.admission timing.root options = .refuse code status) :
    workspace.integerSearchTimed steps timing options =
      some ({ workspace with
          integer := { workspace.integer with status := status.getD workspace.integer.status }
          counters :=
            { workspace.counters with integerCalls := workspace.counters.integerCalls + 1 } },
        ⟨code, none⟩) := by
  have refused : workspace.admissionBy (Search.Solvers.simplex options timing).root options =
      .refuse code status := refuses
  rw [integerSearchTimed, integerSearchBy, refused]

theorem integerSearchTimed_of_search
    (admits : workspace.admission timing.root options = .search) :
    workspace.integerSearchTimed steps timing options =
      (Search.searchTimed steps options timing.search (Search.nodeRelaxation options timing)
        workspace.program workspace.integerColumns).map fun result =>
          ({ workspace with
              integer := workspace.integerSolution result
              counters :=
                { workspace.counters with
                  integerCalls := workspace.counters.integerCalls + 1
                  searches := workspace.counters.searches + 1
                  nodes := workspace.counters.nodes + result.solved } },
            ⟨result.code, some result⟩) := by
  have admitted : workspace.admissionBy (Search.Solvers.simplex options timing).root options =
      .search := admits
  rw [integerSearchTimed, integerSearchBy, admitted, Option.map_eq_bind]
  rfl

inductive SearchCall (steps : Nat) (workspace : Workspace K) (timing : Timing)
    (options : Search.Options K) : Workspace K → IntegerRun K → Prop
  | refused (code : ReturnCode) (status : Option PointStatus)
      (refuses : workspace.admission timing.root options = .refuse code status) :
      SearchCall steps workspace timing options
        { workspace with
          integer := { workspace.integer with status := status.getD workspace.integer.status }
          counters :=
            { workspace.counters with integerCalls := workspace.counters.integerCalls + 1 } }
        ⟨code, none⟩
  | searched (result : Search.Result K)
      (admits : workspace.admission timing.root options = .search)
      (found : Search.searchTimed steps options timing.search
        (Search.nodeRelaxation options timing) workspace.program workspace.integerColumns =
          some result) :
      SearchCall steps workspace timing options
        { workspace with
          integer := workspace.integerSolution result
          counters :=
            { workspace.counters with
              integerCalls := workspace.counters.integerCalls + 1
              searches := workspace.counters.searches + 1
              nodes := workspace.counters.nodes + result.solved } }
        ⟨result.code, some result⟩

theorem integerSearchTimed_eq_some_iff :
    workspace.integerSearchTimed steps timing options = some (next, run) ↔
      SearchCall steps workspace timing options next run := by
  constructor
  · intro ends
    cases admitted : workspace.admission timing.root options with
    | refuse code status =>
        rw [integerSearchTimed_of_refuse admitted] at ends
        cases ends
        exact .refused code status admitted
    | search =>
        rw [integerSearchTimed_of_search admitted] at ends
        obtain ⟨result, found, ⟨⟩⟩ := Option.map_eq_some_iff.mp ends
        exact .searched result admitted found
  · intro call
    cases call with
    | refused code status refuses => exact integerSearchTimed_of_refuse refuses
    | searched result admits found =>
        rw [integerSearchTimed_of_search admits, found, Option.map_some]

end Search

theorem WellFormed.integerSearchTimed (wellFormed : workspace.WellFormed) {steps : Nat}
    {timing : Timing} {options : Search.Options K} {next : Workspace K} {run : IntegerRun K}
    (ends : workspace.integerSearchTimed steps timing options = some (next, run)) :
    next.WellFormed := by
  cases integerSearchTimed_eq_some_iff.mp ends with
  | refused => exact { wellFormed with integer := { wellFormed.integer with } }
  | searched result admits found =>
      exact { wellFormed with integer := integerSolution_fits (searchTimed_sized found) }

end Workspace

end LinearProgramming
