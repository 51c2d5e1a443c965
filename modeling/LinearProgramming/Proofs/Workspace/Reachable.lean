import LinearProgramming.Proofs.ExactScalar
import LinearProgramming.Proofs.Workspace.Access

/-!
# Workspaces through all calls

A workspace is reachable if some sequence of numbered calls leads to it, calls that are
misused and calls of the solvers included.  Every reachable workspace is well formed, answers
every read with numbers in range, and is left as it was by every call that halts.
-/

namespace LinearProgramming

variable {K : Type} [Scalar K]

namespace Workspace

open Stepwise

/-! ## Calls of the solvers -/

/-- A solver looks up the column of every coefficient. -/
def lookUp (workspace : Workspace K) : Except Halt Unit :=
  (workspace.rows.flatMap (·.cells.cells)).forM fun cell =>
    inBounds cell.1 workspace.columns.length

def recount (update : Counters → Counters) (workspace : Workspace K) : Workspace K :=
  { workspace with counters := update workspace.counters }

def simplexSteps (clock : Clock) (options : Simplex.Options K) :
    Stepwise Halt (Workspace K) (Simplex.Run K) := do
  change (recount fun counters => { counters with simplexCalls := counters.simplexCalls + 1 })
  inspect lookUp
  let run ← observe fun workspace => Simplex.solve options clock workspace.program
  change fun workspace => { workspace with basic := workspace.basic.store run.toOutcome }
  pure run

def interiorSteps : Stepwise Halt (Workspace K) (Interior.Run K) := do
  change (recount fun counters => { counters with interiorCalls := counters.interiorCalls + 1 })
  inspect lookUp
  let run ← observe fun workspace => Interior.solve workspace.program
  change fun workspace => { workspace with interior := workspace.interior.store run.toOutcome }
  pure run

def finished {A : Type} : Option A → Except Halt A
  | none => throw .unfinished
  | some value => pure value

def searchResult (steps : Nat) (timing : Timing) (options : Search.Options K)
    (workspace : Workspace K) : Except Halt (Search.Result K) :=
  finished <| Search.searchTimed steps options timing.search
    (fun solved program =>
      (Simplex.solve options.nodeOptions (timing.node solved) program).toOutcome)
    workspace.program workspace.integerColumns

def admittedSteps (steps : Nat) (timing : Timing) (options : Search.Options K) :
    Admission → Stepwise Halt (Workspace K) (IntegerRun K)
  | .refuse code status => do
      change fun workspace =>
        { workspace with
          integer := { workspace.integer with status := status.getD workspace.integer.status } }
      pure ⟨code, none⟩
  | .search => do
      change (recount fun counters => { counters with searches := counters.searches + 1 })
      let result ← inspect (searchResult steps timing options)
      change (recount fun counters => { counters with nodes := counters.nodes + result.solved })
      change fun workspace => { workspace with integer := workspace.integerSolution result }
      pure ⟨result.code, some result⟩

def integerSteps (steps : Nat) (timing : Timing) (options : Search.Options K) :
    Stepwise Halt (Workspace K) (IntegerRun K) := do
  change (recount fun counters => { counters with integerCalls := counters.integerCalls + 1 })
  inspect lookUp
  let admission ← observe fun workspace => workspace.admission timing.root options
  admittedSteps steps timing options admission

variable {workspace : Workspace K}

section LookUp

omit [Scalar K]

theorem InRange.recount (inRange : workspace.InRange) (update : Counters → Counters) :
    (workspace.recount update).InRange :=
  { inRange with }

theorem run_lookUp_bind (inRange : workspace.InRange) {A : Type}
    (next : Unit → Stepwise Halt (Workspace K) A) :
    (inspect lookUp >>= next).run workspace = (next ()).run workspace := by
  have looked : workspace.lookUp = .ok () := by
    apply forM_inBounds
    intro cell member
    obtain ⟨row, inside, stored⟩ := List.mem_flatMap.mp member
    exact inRange.cells row inside cell stored
  exact run_bind_of_ok (run_inspect_of_ok looked) next

end LookUp

theorem run_simplexSteps (inRange : workspace.InRange) (clock : Clock)
    (options : Simplex.Options K) :
    (simplexSteps clock options).run workspace =
      .ok (workspace.simplexTimed clock options).2 (workspace.simplexTimed clock options).1 := by
  rw [simplexSteps, run_change_bind, run_lookUp_bind (inRange.recount _)]
  rfl

theorem run_interiorSteps (inRange : workspace.InRange) :
    interiorSteps.run workspace =
      .ok workspace.interiorPoint.2 workspace.interiorPoint.1 := by
  rw [interiorSteps, run_change_bind, run_lookUp_bind (inRange.recount _)]
  rfl

/-- How a search ends: it returns, or it is not over and has counted itself by then. -/
def searchEnd (interrupted : Workspace K) :
    Option (Workspace K × IntegerRun K) → EStateM.Result Halt (Workspace K) (IntegerRun K)
  | none => .error .unfinished interrupted
  | some (next, run) => .ok run next

/-- A search that is over does what its definition says. -/
theorem run_integerSteps (inRange : workspace.InRange) (steps : Nat) (timing : Timing)
    (options : Search.Options K) :
    ∃ interrupted, (integerSteps steps timing options).run workspace =
      searchEnd interrupted (workspace.integerSearchTimed steps timing options) := by
  rw [integerSteps, run_change_bind, run_lookUp_bind (inRange.recount _), run_observe_bind]
  change ∃ interrupted,
    (admittedSteps steps timing options (workspace.admission timing.root options)).run _ = _
  cases decided : workspace.admission timing.root options with
  | refuse code status =>
      refine ⟨workspace, ?_⟩
      rw [integerSearchTimed_of_refuse decided]
      rfl
  | search =>
      rw [admittedSteps, run_change_bind, integerSearchTimed_of_search decided]
      cases found : Search.searchTimed steps options timing.search
        (Search.nodeRelaxation options timing) workspace.program workspace.integerColumns with
      | none =>
          -- The search reads no counter, so it ends alike before and after they are raised.
          have stopped (called entered : Counters → Counters) :
              searchResult steps timing options ((workspace.recount called).recount entered) =
                .error .unfinished := congrArg finished found
          exact ⟨_, run_bind_of_error (run_inspect_of_error (stopped _ _)) _⟩
      | some result =>
          have ended (called entered : Counters → Counters) :
              searchResult steps timing options ((workspace.recount called).recount entered) =
                .ok result := congrArg finished found
          exact ⟨workspace, run_bind_of_ok (run_inspect_of_ok (ended _ _)) _⟩

end Workspace

/-! ## All calls -/

inductive Call (K : Type) where
  | change (command : Command K)
  | read (query : Query K)
  | simplex (clock : Clock) (options : Simplex.Options K)
  | interior
  | search (steps : Nat) (timing : Timing) (options : Search.Options K)

inductive Response (K : Type) where
  | number (number : Option Int)
  | answer (answer : Answer K)
  | code (code : ReturnCode)

/-- What a numbered call does, and what it answers. -/
def Call.steps : Call K → Stepwise Halt (Workspace K) (Response K)
  | change command => return .number (← command.steps)
  | read query => return .answer (← Stepwise.inspect query.read)
  | simplex clock options => return .code (← Workspace.simplexSteps clock options).code
  | interior => return .code (← Workspace.interiorSteps).code
  | search steps timing options =>
      return .code (← Workspace.integerSteps steps timing options).code

namespace Workspace

open Stepwise

/-- The workspaces that some sequence of calls leads to.  A call that halts leaves behind what
it has written; only a search that is not over has not ended. -/
inductive Reachable : Workspace K → Prop
  | create : Reachable .empty
  | copy {workspace} : Reachable workspace → Reachable workspace.copy
  | returned {workspace next} (call : Call K) {response} : Reachable workspace →
      call.steps.run workspace = .ok response next → Reachable next
  | halted {workspace next} (call : Call K) {halt} : Reachable workspace →
      call.steps.run workspace = .error halt next → halt ≠ .unfinished → Reachable next

/-- A call that halts before it is over leaves the workspace as it was, and any other call leaves a
well-formed one. -/
def EndsWell {A : Type} (workspace : Workspace K) : EStateM.Result Halt (Workspace K) A → Prop
  | .ok _ next => next.WellFormed
  | .error halt next => halt ≠ .unfinished → next = workspace

section Ends

variable {workspace : Workspace K}

theorem WellFormed.endsWell (wellFormed : workspace.WellFormed) (call : Call K) :
    workspace.EndsWell (call.steps.run workspace) := by
  cases call with
  | change command =>
      rw [Call.steps, run_bind, command.run_steps wellFormed]
      cases ran : command.run workspace with
      | error misuse => exact fun _ => rfl
      | ok result => exact wellFormed.run ran
  | read query =>
      rw [Call.steps, run_bind, run_inspect]
      cases query.read workspace with
      | error halt => exact fun _ => rfl
      | ok answer => exact wellFormed
  | simplex clock options =>
      rw [Call.steps, run_bind_of_ok (run_simplexSteps wellFormed.toInRange clock options)]
      exact wellFormed.simplexTimed clock options
  | interior =>
      rw [Call.steps, run_bind_of_ok (run_interiorSteps wellFormed.toInRange)]
      exact wellFormed.interiorPoint
  | search steps timing options =>
      obtain ⟨interrupted, ends⟩ := run_integerSteps wellFormed.toInRange steps timing options
      rw [Call.steps, run_bind, ends]
      cases found : workspace.integerSearchTimed steps timing options with
      | none => exact fun ended => absurd rfl ended
      | some result => exact wellFormed.integerSearchTimed found

theorem WellFormed.of_returned (wellFormed : workspace.WellFormed) {call : Call K}
    {response : Response K} {next : Workspace K}
    (ends : call.steps.run workspace = .ok response next) : next.WellFormed := by
  have returned := wellFormed.endsWell call
  rwa [ends] at returned

theorem WellFormed.eq_of_halted (wellFormed : workspace.WellFormed) {call : Call K} {halt : Halt}
    {next : Workspace K} (ends : call.steps.run workspace = .error halt next)
    (ended : halt ≠ .unfinished) : next = workspace := by
  have halted := wellFormed.endsWell call
  rw [ends] at halted
  exact halted ended

end Ends

theorem Reachable.wellFormed {workspace : Workspace K} (reachable : Reachable workspace) :
    workspace.WellFormed := by
  induction reachable with
  | create => exact empty_wellFormed
  | copy _ inductionHypothesis => exact inductionHypothesis.copy
  | returned _ _ ends inductionHypothesis => exact inductionHypothesis.of_returned ends
  | halted _ _ ends ended inductionHypothesis =>
      exact inductionHypothesis.eq_of_halted ends ended ▸ inductionHypothesis

/-! ## What the calls read -/

/-- A bound whose sides read as infinite where its kind has none, and as one value if it is
fixed. -/
structure Normal (bound : Bound K) : Prop where
  kind : 1 ≤ Coded.code bound.kind ∧ Coded.code bound.kind ≤ 5
  lower : bound.kind = .free ∨ bound.kind = .upper → bound.lowerSide = -Scalar.infinity
  upper : bound.kind = .free ∨ bound.kind = .lower → bound.upperSide = Scalar.infinity
  fixed : bound.kind = .fixed → bound.upperSide = bound.lowerSide

theorem code_kind_le (kind : BoundKind) : 1 ≤ Coded.code kind ∧ Coded.code kind ≤ 5 := by
  cases kind <;> decide

theorem normal (bound : Bound K) : Normal bound := by
  refine ⟨code_kind_le bound.kind, ?_, ?_, ?_⟩
  · cases bound <;> simp [Bound.kind, Bound.lowerSide, Bound.lower?]
  · cases bound <;> simp [Bound.kind, Bound.upperSide, Bound.upper?]
  · cases bound <;> simp [Bound.kind, Bound.lowerSide, Bound.upperSide, Bound.lower?, Bound.upper?]

/-- The numbers under which the kinds of columns are read: 1 for a continuous column, and 2,
or 3 with bounds zero and one, for an integer column. -/
theorem kindNumber_cases (column : WorkColumn K) :
    kindNumber column = 1 ∧ column.integral = false ∨
      (kindNumber column = 2 ∨ kindNumber column = 3) ∧ column.integral = true := by
  rw [kindNumber]
  cases column.integral with
  | false => exact .inl ⟨rfl, rfl⟩
  | true =>
      refine .inr ⟨?_, rfl⟩
      rw [if_pos rfl]
      split
      · split
        · exact .inr rfl
        · exact .inl rfl
      · exact .inl rfl

/-- A well-formed workspace, and the numbers and sides that are read off it. -/
structure Represented (workspace : Workspace K) : Prop extends WellFormed workspace where
  direction : Coded.code workspace.direction = 1 ∨ Coded.code workspace.direction = 2
  kinds : ∀ column ∈ workspace.columns, kindNumber column = 1 ∧ column.integral = false ∨
    (kindNumber column = 2 ∨ kindNumber column = 3) ∧ column.integral = true
  rowBounds : ∀ row ∈ workspace.rows, Normal row.bound
  columnBounds : ∀ column ∈ workspace.columns, Normal column.bound

theorem WellFormed.representation {workspace : Workspace K} (wellFormed : workspace.WellFormed) :
    workspace.Represented where
  toWellFormed := wellFormed
  direction := by cases workspace.direction <;> decide
  kinds column _ := kindNumber_cases column
  rowBounds row _ := normal row.bound
  columnBounds column _ := normal column.bound

/-- Through all sequences of calls a workspace keeps its representation, every read with
numbers in range is answered, and a call that halts leaves the workspace as it was. -/
theorem Reachable.represented {workspace : Workspace K} (reachable : Reachable workspace) :
    workspace.Represented ∧
      (∀ query : Query K, query.InRange workspace →
        ∃ answer, query.read workspace = .ok answer ∧ query.answer workspace = .ok answer) ∧
      ∀ (call : Call K) (halt : Halt) (next : Workspace K),
        call.steps.run workspace = .error halt next → halt ≠ .unfinished → next = workspace :=
  have wellFormed := reachable.wellFormed
  ⟨wellFormed.representation, fun _ inRange => wellFormed.read inRange,
    fun _ _ _ ends ended => wellFormed.eq_of_halted ends ended⟩

/-- A row over two columns that is filled, solved, and followed by a call for a row that is not
there. -/
theorem represented_pair :
    ∃ workspace : Workspace ℚ, Reachable workspace ∧
      workspace.rows.length = 1 ∧ workspace.columns.length = 2 ∧ workspace.cellCount = 2 ∧
      workspace.Represented ∧
      (∃ answer, (Query.rowPrimal .basic 1).read workspace = .ok answer) ∧
      ∀ halt next, (Call.change (.setRowName 2 none)).steps.run workspace = .error halt next →
        halt ≠ .unfinished → next = workspace := by
  have grown := Reachable.returned (.change (.addRows 1)) (Reachable.create (K := ℚ)) rfl
  have widened := Reachable.returned (.change (.addColumns 2)) grown rfl
  have filled := Reachable.returned
    (.change (.setRow 1 2 (some [0, 1, 2]) (some [0, 3, 4]))) widened rfl
  have solved := Reachable.returned (.simplex .still .standard) filled rfl
  have halted := Reachable.halted (.change (.setRowName 2 none)) solved rfl nofun
  obtain ⟨represented, answers, halts⟩ := halted.represented
  obtain ⟨answer, looked, -⟩ := answers (.rowPrimal .basic 1)
    ⟨fun row asked => by cases asked; decide, nofun, nofun, nofun⟩
  exact ⟨_, halted, rfl, rfl, rfl, represented, ⟨answer, looked⟩, halts _⟩

end Workspace

end LinearProgramming
