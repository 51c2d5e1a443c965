import LinearProgramming.Problem.Edit
import LinearProgramming.Proofs.Workspace.Reachable

/-!
# Changes of a problem in steps

A change of a problem first runs its checks, then makes at most one numbered call, and last
forgets what the problem was solved to.  The checks only read; what the numbered call has
written when it halts stays written.  The numbers of rows and columns are handed to the call
as 32-bit words by a `Cast`; `Cast.exact` stops at a number that a word cannot hold, so a
change that does not stop there passes every number on as it is.
-/

namespace LinearProgramming

inductive Stop (K : Type) where
  | error (error : Error K)
  | halt (halt : Halt)
  | inexact (number : Nat)

def Stop.ofFailure {K : Type} : Failure K → Stop K
  | .error refusal => .error refusal
  | .misuse misused => .halt (.misuse misused)

def Stop.lift {K A : Type} (result : Except (Failure K) A) : Except (Stop K) A :=
  result.mapError ofFailure

abbrev Cast (K : Type) : Type := Nat → Except (Stop K) Int

/-- Numbers wrap around in 32 bits. -/
def Cast.plain {K : Type} : Cast K := fun number => pure (Slots.narrow number)

/-- Numbers that would wrap around stop the operation. -/
def Cast.exact {K : Type} : Cast K := fun number =>
  if Slots.narrow number = number then pure number else throw (.inexact number)

namespace Edit

open Problem Stop

variable {K : Type} [Scalar K]

/-- The numbered call that a change makes once its checks have passed, if it makes one. -/
def plan (cast : Cast K) (problem : Problem K) : Edit K → Except (Stop K) (Option (Command K))
  | setName name => do
      let name ← lift (checkName name)
      pure (some (.setName name))
  | setRowName row name => do
      lift (problem.checkRow row)
      let name ← lift (checkName name)
      pure (some (.setRowName (← cast row) name))
  | setColumnName column name => do
      lift (problem.checkColumn column)
      let name ← lift (checkName name)
      pure (some (.setColumnName (← cast column) name))
  | setDirection direction => pure (some (.setDirection (Coded.code direction)))
  | setObjectiveCoefficient column value => do
      lift (problem.checkColumn column)
      pure (some (.setObjective (← cast column) value))
  | setObjectiveConstant value => pure (some (.setObjective 0 value))
  | addRows count => do
      if count = 0 then pure none
      else pure (some (.addRows (← lift (checkCount "rows" count))))
  | addColumns count => do
      if count = 0 then pure none
      else pure (some (.addColumns (← lift (checkCount "columns" count))))
  | setRowBounds row kind lower upper => do
      lift (problem.checkRow row)
      let bound ← lift (checkBound kind lower upper)
      pure (some
        (.setRowBound (← cast row) (Coded.code bound.kind) bound.lowerSide bound.upperSide))
  | setColumnBounds column kind lower upper => do
      lift (problem.checkColumn column)
      let bound ← lift (checkBound kind lower upper)
      pure (some
        (.setColumnBound (← cast column) (Coded.code bound.kind) bound.lowerSide bound.upperSide))
  | setColumnKind column kind => do
      lift (problem.checkColumn column)
      pure (some (.setColumnKind (← cast column) (Coded.code kind)))
  | setRowCoefficients row columns values => do
      lift ((ensureSameLength columns.length values.length).mapError .error)
      lift (problem.checkRow row)
      lift (columns.forM problem.checkColumn)
      let pairs := lastValues (List.zip columns values)
      let numbers ← (pairs.map Prod.fst).mapM cast
      pure (some
        (.setRow (← cast row) (← cast pairs.length) (some (Slots.ofEntries 0 numbers))
          (some (Slots.ofEntries 0 (pairs.map Prod.snd)))))
  | setColumnCoefficients column rows values => do
      lift ((ensureSameLength rows.length values.length).mapError .error)
      lift (problem.checkColumn column)
      lift (rows.forM problem.checkRow)
      let pairs := lastValues (List.zip rows values)
      let numbers ← (pairs.map Prod.fst).mapM cast
      pure (some
        (.setColumn (← cast column) (← cast pairs.length) (some (Slots.ofEntries 0 numbers))
          (some (Slots.ofEntries 0 (pairs.map Prod.snd)))))
  | loadMatrix matrix => do
      lift (matrix.toList.forM fun (row, column, _) => do
        problem.checkRow row
        problem.checkColumn column)
      let entries := matrix.resolved.toList
      let rows ← (entries.map (·.1)).mapM cast
      let columns ← (entries.map (·.2.1)).mapM cast
      pure (some
        (.loadMatrix (← cast entries.length) (some (Slots.ofEntries 0 rows))
          (some (Slots.ofEntries 0 columns)) (some (Slots.ofEntries 0 (entries.map (·.2.2))))))
  | deleteRows rows => do
      lift (rows.forM problem.checkRow)
      lift (checkDistinct [] rows)
      if rows.isEmpty then pure none
      else
        let numbers ← rows.mapM cast
        pure (some (.deleteRows (← cast rows.length) (some (Slots.ofEntries 0 numbers))))
  | deleteColumns columns => do
      lift (columns.forM problem.checkColumn)
      lift (checkDistinct [] columns)
      if columns.isEmpty then pure none
      else
        let numbers ← columns.mapM cast
        pure (some (.deleteColumns (← cast columns.length) (some (Slots.ofEntries 0 numbers))))

def isName : Edit K → Bool
  | setName _ => true
  | setRowName _ _ => true
  | setColumnName _ _ => true
  | _ => false

def target? : Edit K → Option String
  | addRows _ => some "rows"
  | addColumns _ => some "columns"
  | _ => none

def idleAnswer (problem : Problem K) : Edit K → Option Nat
  | addRows _ => some (problem.rowCount + 1)
  | addColumns _ => some (problem.columnCount + 1)
  | _ => none

/-- What is left to do after the numbered call: data that changed make the problem unsolved,
unless there was no room for what was to be added. -/
def settle (edit : Edit K) (problem : Problem K) (number : Option Int) :
    Except (Stop K) (Problem K × Option Nat) :=
  match edit.target? with
  | some target =>
      if number = some 0 then throw (.error (.allocationFailed target))
      else pure (problem.forget, number.map Slots.widen)
  | none => pure (if edit.isName then problem else problem.forget, none)

/-- The whole change, from the plan on. -/
def complete (edit : Edit K) (problem : Problem K) :
    Option (Command K) → Except (Stop K) (Problem K × Option Nat)
  | none => pure (problem, edit.idleAnswer problem)
  | some command => do
      let (workspace, number) ← lift (Failure.lift (command.run problem.workspace))
      edit.settle { problem with workspace } number

end Edit

def Problem.entered {K A : Type} (problem : Problem K) :
    EStateM.Result Halt (Workspace K) A → EStateM.Result (Stop K) (Problem K) A
  | .ok value workspace => .ok value { problem with workspace }
  | .error halted workspace => .error (.halt halted) { problem with workspace }

def Problem.enter {K A : Type} (call : Stepwise Halt (Workspace K) A) :
    Stepwise (Stop K) (Problem K) A := fun problem =>
  problem.entered (call.run problem.workspace)

theorem Problem.run_enter_bind {K A B : Type} {problem : Problem K}
    {call : Stepwise Halt (Workspace K) A} {value : A} {workspace : Workspace K}
    (ends : call.run problem.workspace = .ok value workspace)
    (next : A → Stepwise (Stop K) (Problem K) B) :
    (enter call >>= next).run problem = (next value).run { problem with workspace } := by
  have returned : (enter call).run problem = .ok value { problem with workspace } :=
    congrArg problem.entered ends
  exact Stepwise.run_bind_of_ok returned next

theorem Problem.run_enter_bind_of_error {K A B : Type} {problem : Problem K}
    {call : Stepwise Halt (Workspace K) A} {halt : Halt}
    (ends : call.run problem.workspace = .error halt problem.workspace)
    (next : A → Stepwise (Stop K) (Problem K) B) :
    (enter call >>= next).run problem = .error (.halt halt) problem := by
  have halted : (enter call).run problem = .error (.halt halt) problem :=
    congrArg problem.entered ends
  exact Stepwise.run_bind_of_error halted next

theorem Workspace.addRows_of_no_room {K : Type} [Scalar K] {workspace : Workspace K} {count : Int}
    (full : (workspace.addRows count).2 = 0) : (workspace.addRows count).1 = workspace := by
  rw [addRows] at full ⊢
  split at full
  case isTrue room =>
    have : (workspace.rows.length : Int) + 1 = 0 := full
    omega
  case isFalse noRoom => rw [if_neg noRoom]

theorem Workspace.addColumns_of_no_room {K : Type} [Scalar K] {workspace : Workspace K}
    {count : Int} (full : (workspace.addColumns count).2 = 0) :
    (workspace.addColumns count).1 = workspace := by
  rw [addColumns] at full ⊢
  split at full
  case isTrue room =>
    have : (workspace.columns.length : Int) + 1 = 0 := full
    omega
  case isFalse noRoom => rw [if_neg noRoom]

theorem toList_ofList {K : Type} (entries : List (Nat × Nat × K)) :
    (SparseMatrix.ofList entries).toList = entries := by
  induction entries with
  | nil => rfl
  | cons entry rest inductionHypothesis =>
      exact congrArg (entry :: ·) inductionHypothesis

namespace Problem

variable {K A B : Type} [Scalar K]

theorem withPairs_unzip_bind (pairs : List (Nat × K))
    (call : Int → Option (List Int) → Option (List K) → A) (next : A → Except (Failure K) B) :
    (withPairs (pairs.map Prod.fst) (pairs.map Prod.snd) call).mapError .error >>= next =
      next (call (Slots.narrow pairs.length)
        (some (Slots.ofEntries 0 ((pairs.map Prod.fst).map Slots.narrow)))
        (some (Slots.ofEntries 0 (pairs.map Prod.snd)))) := by
  simp only [withPairs, ensureSameLength, List.length_map, if_true]
  rfl

theorem withTriplets_ofList_bind (entries : List (Nat × Nat × K))
    (call : Int → Option (List Int) → Option (List Int) → Option (List K) → A)
    (next : A → Except (Failure K) B) :
    (withTriplets (SparseMatrix.ofList entries).rows (SparseMatrix.ofList entries).columns
        (SparseMatrix.ofList entries).values call).mapError .error >>= next =
      next (call (Slots.narrow entries.length)
        (some (Slots.ofEntries 0 ((entries.map (·.1)).map Slots.narrow)))
        (some (Slots.ofEntries 0 ((entries.map (·.2.1)).map Slots.narrow)))
        (some (Slots.ofEntries 0 (entries.map (·.2.2))))) := by
  simp only [withTriplets, ensureSameLength, SparseMatrix.ofList, List.length_map, if_true]
  rfl

end Problem

namespace Edit

open Problem Stop Stepwise

variable {K : Type} [Scalar K]

def settleSteps (edit : Edit K) (number : Option Int) :
    Stepwise (Stop K) (Problem K) (Option Nat) :=
  match edit.target? with
  | some target =>
      if number = some 0 then throw (.error (.allocationFailed target))
      else do
        change forget
        pure (number.map Slots.widen)
  | none => do
      change fun problem => if edit.isName then problem else problem.forget
      pure none

def steps (cast : Cast K) (edit : Edit K) : Stepwise (Stop K) (Problem K) (Option Nat) := do
  match ← inspect (edit.plan cast) with
  | none => observe edit.idleAnswer
  | some command => do
      let number ← enter command.steps
      edit.settleSteps number

variable {problem : Problem K}

omit [Scalar K] in
theorem run_settleSteps (edit : Edit K) (number : Option Int) (problem : Problem K) :
    (edit.settleSteps number).run problem = whole problem (edit.settle problem number) := by
  rw [settleSteps, settle]
  cases edit.target? with
  | none => rfl
  | some target =>
      by_cases full : number = some 0
      · simp only [full, if_true]
        rfl
      · simp only [full, if_false]
        rfl

/-- A call that adds nothing for want of room leaves the workspace as it was. -/
theorem eq_of_no_room {cast : Cast K} {edit : Edit K} {command : Command K} {target : String}
    {workspace : Workspace K} (planned : edit.plan cast problem = .ok (some command))
    (adds : edit.target? = some target)
    (ran : command.run problem.workspace = .ok (workspace, some 0)) :
    workspace = problem.workspace := by
  cases edit <;> cases adds
  case addRows count =>
    rw [plan] at planned
    split at planned
    · cases planned
    · obtain ⟨requested, -, ⟨⟩⟩ := Except.bind_eq_ok_iff.mp planned
      obtain ⟨rfl, full⟩ := Prod.mk.inj (Except.ok.inj ran)
      exact Workspace.addRows_of_no_room (Option.some.inj full)
  case addColumns count =>
    rw [plan] at planned
    split at planned
    · cases planned
    · obtain ⟨requested, -, ⟨⟩⟩ := Except.bind_eq_ok_iff.mp planned
      obtain ⟨rfl, full⟩ := Prod.mk.inj (Except.ok.inj ran)
      exact Workspace.addColumns_of_no_room (Option.some.inj full)

/-- On a well-formed workspace the steps of a change are one whole: its checks, its call and
what follows from it. -/
theorem run_steps (wellFormed : problem.workspace.WellFormed) (cast : Cast K) (edit : Edit K) :
    (edit.steps cast).run problem =
      whole problem (edit.plan cast problem >>= edit.complete problem) := by
  apply run_inspect_bind
  intro planned found
  cases planned with
  | none => rfl
  | some command =>
      have called := command.run_steps wellFormed
      cases ran : command.run problem.workspace with
      | error misuse =>
          rw [ran] at called
          rw [complete, ran]
          exact run_enter_bind_of_error called _
      | ok result =>
          obtain ⟨workspace, number⟩ := result
          rw [ran] at called
          rw [complete, ran]
          refine (run_enter_bind called _).trans ?_
          rw [run_settleSteps]
          change whole _ (edit.settle { problem with workspace } number) = whole problem
            (edit.settle { problem with workspace } number)
          cases settled : edit.settle { problem with workspace } number with
          | ok result => rfl
          | error stop =>
              -- What follows the call stops only for want of room, and then nothing was added.
              have same : workspace = problem.workspace := by
                rw [settle] at settled
                split at settled
                · rename_i target adds
                  split at settled
                  · rename_i full
                    exact eq_of_no_room found adds (full ▸ ran)
                  · cases settled
                · cases settled
              rw [same]

theorem complete_call {edit : Edit K} (adds : edit.target? = none) (name : edit.isName = true)
    {command : Command K} {result : Except Misuse (Workspace K)}
    (ran : command.run problem.workspace = result >>= fun next => pure (next, none)) :
    edit.complete problem (some command) =
      lift (problem.call result >>= fun next => pure (next, none)) := by
  rw [complete, ran]
  cases result with
  | error misuse => rfl
  | ok workspace =>
      change edit.settle { problem with workspace } none = _
      rw [settle, adds, name]
      rfl

theorem complete_change {edit : Edit K} (adds : edit.target? = none)
    (data : edit.isName = false) {command : Command K} {result : Except Misuse (Workspace K)}
    (ran : command.run problem.workspace = result >>= fun next => pure (next, none)) :
    edit.complete problem (some command) =
      lift (problem.change result >>= fun next => pure (next, none)) := by
  rw [complete, ran]
  cases result with
  | error misuse => rfl
  | ok workspace =>
      change edit.settle { problem with workspace } none = _
      rw [settle, adds, data]
      rfl

theorem complete_add {edit : Edit K} {target : String} (adds : edit.target? = some target)
    {command : Command K} {added : Workspace K × Int}
    (ran : command.run problem.workspace = pure (added.1, some added.2)) :
    edit.complete problem (some command) =
      lift ((if added.2 = 0 then throw (.error (.allocationFailed target))
        else pure
          (({ problem with workspace := added.1 } : Problem K).forget, Slots.widen added.2)) >>=
            fun answer => pure (answer.1, some answer.2)) := by
  rw [complete, ran]
  change edit.settle { problem with workspace := added.1 } (some added.2) = _
  rw [settle, adds]
  by_cases full : added.2 = 0
  · simp only [full, if_true]
    rfl
  · simp only [full, Option.some.injEq, if_false]
    rfl

omit [Scalar K] in
theorem mapM_plain (numbers : List Nat) :
    numbers.mapM (Cast.plain : Cast K) = pure (numbers.map Slots.narrow) :=
  List.mapM_pure

omit [Scalar K] in
theorem lift_bind {A B : Type} {check : Except (Failure K) A} {first : A → Except (Stop K) B}
    {second : A → Except (Failure K) B} (same : ∀ value, first value = lift (second value)) :
    lift check >>= first = lift (check >>= second) := by
  cases check with
  | error failure => rfl
  | ok value => exact same value

def FollowsPlan (problem : Problem K) (edit : Edit K) : Prop :=
  edit.plan .plain problem >>= edit.complete problem = lift (edit.run problem)

section Plans

variable {row column count : Nat} {name : Option String} {direction : Direction} {value : K}
  {boundKind : BoundKind} {lower upper : K} {kind : VariableKind} {rows columns : List Nat}
  {values : List K} {matrix : SparseMatrix K}

theorem followsPlan_setName : FollowsPlan problem (.setName name) := by
  simp only [FollowsPlan, plan, run, Problem.setName, bind_assoc, pure_bind]
  apply lift_bind
  intro stored
  exact complete_call rfl rfl rfl

theorem followsPlan_setRowName : FollowsPlan problem (.setRowName row name) := by
  simp only [FollowsPlan, plan, run, Problem.setRowName, Cast.plain, bind_assoc, pure_bind]
  apply lift_bind
  intro _
  apply lift_bind
  intro stored
  exact complete_call rfl rfl rfl

theorem followsPlan_setColumnName : FollowsPlan problem (.setColumnName column name) := by
  simp only [FollowsPlan, plan, run, Problem.setColumnName, Cast.plain, bind_assoc, pure_bind]
  apply lift_bind
  intro _
  apply lift_bind
  intro stored
  exact complete_call rfl rfl rfl

theorem followsPlan_setDirection : FollowsPlan problem (.setDirection direction) := by
  simp only [FollowsPlan, plan, run, Problem.setDirection, pure_bind]
  exact complete_change rfl rfl rfl

theorem followsPlan_setObjectiveCoefficient :
    FollowsPlan problem (.setObjectiveCoefficient column value) := by
  simp only [FollowsPlan, plan, run, Problem.setObjectiveCoefficient, Cast.plain, bind_assoc,
    pure_bind]
  apply lift_bind
  intro _
  exact complete_change rfl rfl rfl

theorem followsPlan_setObjectiveConstant : FollowsPlan problem (.setObjectiveConstant value) := by
  simp only [FollowsPlan, plan, run, Problem.setObjectiveConstant, pure_bind]
  exact complete_change rfl rfl rfl

theorem followsPlan_addRows : FollowsPlan problem (.addRows count) := by
  simp only [FollowsPlan, plan, run, Problem.addRows]
  by_cases nothing : count = 0
  · rw [if_pos nothing, if_pos nothing]
    rfl
  · rw [if_neg nothing, if_neg nothing]
    simp only [bind_assoc, pure_bind]
    apply lift_bind
    intro requested
    exact complete_add rfl rfl

theorem followsPlan_addColumns : FollowsPlan problem (.addColumns count) := by
  simp only [FollowsPlan, plan, run, Problem.addColumns]
  by_cases nothing : count = 0
  · rw [if_pos nothing, if_pos nothing]
    rfl
  · rw [if_neg nothing, if_neg nothing]
    simp only [bind_assoc, pure_bind]
    apply lift_bind
    intro requested
    exact complete_add rfl rfl

theorem followsPlan_setRowBounds :
    FollowsPlan problem (.setRowBounds row boundKind lower upper) := by
  simp only [FollowsPlan, plan, run, Problem.setRowBounds, Cast.plain, bind_assoc, pure_bind]
  apply lift_bind
  intro _
  apply lift_bind
  intro bound
  exact complete_change rfl rfl rfl

theorem followsPlan_setColumnBounds :
    FollowsPlan problem (.setColumnBounds column boundKind lower upper) := by
  simp only [FollowsPlan, plan, run, Problem.setColumnBounds, Cast.plain, bind_assoc, pure_bind]
  apply lift_bind
  intro _
  apply lift_bind
  intro bound
  exact complete_change rfl rfl rfl

theorem followsPlan_setColumnKind : FollowsPlan problem (.setColumnKind column kind) := by
  simp only [FollowsPlan, plan, run, Problem.setColumnKind, Cast.plain, bind_assoc, pure_bind]
  apply lift_bind
  intro _
  exact complete_change rfl rfl rfl

theorem followsPlan_setRowCoefficients :
    FollowsPlan problem (.setRowCoefficients row columns values) := by
  simp only [FollowsPlan, plan, run, Problem.setRowCoefficients, Cast.plain, bind_assoc, pure_bind]
  apply lift_bind
  intro _
  apply lift_bind
  intro _
  apply lift_bind
  intro _
  simp only [mapM_plain, pure_bind, withPairs_unzip_bind]
  exact complete_change rfl rfl rfl

theorem followsPlan_setColumnCoefficients :
    FollowsPlan problem (.setColumnCoefficients column rows values) := by
  simp only [FollowsPlan, plan, run, Problem.setColumnCoefficients, Cast.plain, bind_assoc,
    pure_bind]
  apply lift_bind
  intro _
  apply lift_bind
  intro _
  apply lift_bind
  intro _
  simp only [mapM_plain, pure_bind, withPairs_unzip_bind]
  exact complete_change rfl rfl rfl

theorem followsPlan_loadMatrix : FollowsPlan problem (.loadMatrix matrix) := by
  simp only [FollowsPlan, plan, run, Problem.loadMatrix, bind_assoc, pure_bind]
  apply lift_bind
  intro _
  simp only [mapM_plain, Cast.plain, pure_bind, SparseMatrix.resolved, toList_ofList,
    withTriplets_ofList_bind]
  exact complete_change rfl rfl rfl

theorem followsPlan_deleteRows : FollowsPlan problem (.deleteRows rows) := by
  simp only [FollowsPlan, plan, run, Problem.deleteRows, bind_assoc]
  apply lift_bind
  intro _
  apply lift_bind
  intro _
  cases rows with
  | nil => rfl
  | cons row rows =>
      simp only [List.isEmpty_cons, Bool.false_eq_true, if_false, mapM_plain, Cast.plain,
        pure_bind, withIndices]
      exact complete_change rfl rfl rfl

theorem followsPlan_deleteColumns : FollowsPlan problem (.deleteColumns columns) := by
  simp only [FollowsPlan, plan, run, Problem.deleteColumns, bind_assoc]
  apply lift_bind
  intro _
  apply lift_bind
  intro _
  cases columns with
  | nil => rfl
  | cons column columns =>
      simp only [List.isEmpty_cons, Bool.false_eq_true, if_false, mapM_plain, Cast.plain,
        pure_bind, withIndices]
      exact complete_change rfl rfl rfl

end Plans

/-- A change does what its plan says. -/
theorem plan_complete (problem : Problem K) (edit : Edit K) :
    edit.plan .plain problem >>= edit.complete problem = lift (edit.run problem) := by
  cases edit with
  | setName => exact followsPlan_setName
  | setRowName => exact followsPlan_setRowName
  | setColumnName => exact followsPlan_setColumnName
  | setDirection => exact followsPlan_setDirection
  | setObjectiveCoefficient => exact followsPlan_setObjectiveCoefficient
  | setObjectiveConstant => exact followsPlan_setObjectiveConstant
  | addRows => exact followsPlan_addRows
  | addColumns => exact followsPlan_addColumns
  | setRowBounds => exact followsPlan_setRowBounds
  | setColumnBounds => exact followsPlan_setColumnBounds
  | setColumnKind => exact followsPlan_setColumnKind
  | setRowCoefficients => exact followsPlan_setRowCoefficients
  | setColumnCoefficients => exact followsPlan_setColumnCoefficients
  | loadMatrix => exact followsPlan_loadMatrix
  | deleteRows => exact followsPlan_deleteRows
  | deleteColumns => exact followsPlan_deleteColumns

/-! ## The numbered calls of changes -/

/-- The numbered call that a change can make, or that it makes none: bounds that are handed on have
been checked, and nothing that is added or deleted makes no call. -/
inductive Plans : Edit K → Option (Command K) → Prop
  | setName {name stored} : Plans (.setName name) (some (.setName stored))
  | setRowName {row name number stored} :
      Plans (.setRowName row name) (some (.setRowName number stored))
  | setColumnName {column name number stored} :
      Plans (.setColumnName column name) (some (.setColumnName number stored))
  | setDirection {direction} :
      Plans (.setDirection direction) (some (.setDirection (Coded.code direction)))
  | setObjectiveCoefficient {column value number} :
      Plans (.setObjectiveCoefficient column value) (some (.setObjective number value))
  | setObjectiveConstant {value} :
      Plans (.setObjectiveConstant value) (some (.setObjective 0 value))
  | addNoRows : Plans (.addRows 0) none
  | addRows {count requested} (added : count ≠ 0) :
      Plans (.addRows count) (some (.addRows requested))
  | addNoColumns : Plans (.addColumns 0) none
  | addColumns {count requested} (added : count ≠ 0) :
      Plans (.addColumns count) (some (.addColumns requested))
  | setRowBounds {row kind lower upper bound number}
      (checked : checkBound kind lower upper = .ok bound) :
      Plans (.setRowBounds row kind lower upper)
        (some (.setRowBound number (Coded.code bound.kind) bound.lowerSide bound.upperSide))
  | setColumnBounds {column kind lower upper bound number}
      (checked : checkBound kind lower upper = .ok bound) :
      Plans (.setColumnBounds column kind lower upper)
        (some (.setColumnBound number (Coded.code bound.kind) bound.lowerSide bound.upperSide))
  | setColumnKind {column kind number} :
      Plans (.setColumnKind column kind) (some (.setColumnKind number (Coded.code kind)))
  | setRowCoefficients {row columns values number length numbers stored} :
      Plans (.setRowCoefficients row columns values)
        (some (.setRow number length numbers stored))
  | setColumnCoefficients {column rows values number length numbers stored} :
      Plans (.setColumnCoefficients column rows values)
        (some (.setColumn number length numbers stored))
  | loadMatrix {matrix length rows columns stored} :
      Plans (.loadMatrix matrix) (some (.loadMatrix length rows columns stored))
  | deleteNoRows : Plans (.deleteRows []) none
  | deleteRows {rows length numbers} (listed : rows ≠ []) :
      Plans (.deleteRows rows) (some (.deleteRows length numbers))
  | deleteNoColumns : Plans (.deleteColumns []) none
  | deleteColumns {columns length numbers} (listed : columns ≠ []) :
      Plans (.deleteColumns columns) (some (.deleteColumns length numbers))

theorem plans_of_plan {cast : Cast K} {edit : Edit K} {call : Option (Command K)}
    (planned : edit.plan cast problem = .ok call) : Plans edit call := by
  cases edit
  case setDirection | setObjectiveConstant =>
    cases planned
    constructor
  case setName =>
    obtain ⟨_, -, ⟨⟩⟩ := Except.bind_eq_ok_iff.mp planned
    constructor
  case addRows count | addColumns count =>
    rw [plan] at planned
    split at planned
    case isTrue zero =>
      cases planned
      subst zero
      constructor
    case isFalse added =>
      obtain ⟨_, -, ⟨⟩⟩ := Except.bind_eq_ok_iff.mp planned
      constructor
      exact added
  case deleteRows indices | deleteColumns indices =>
    obtain ⟨_, -, planned⟩ := Except.bind_eq_ok_iff.mp planned
    obtain ⟨_, -, planned⟩ := Except.bind_eq_ok_iff.mp planned
    split at planned
    case isTrue empty =>
      cases planned
      obtain rfl := List.isEmpty_iff.mp empty
      constructor
    case isFalse listed =>
      simp only [Except.bind_eq_ok_iff] at planned
      obtain ⟨_, -, _, -, ⟨⟩⟩ := planned
      constructor
      exact fun empty => listed (List.isEmpty_iff.mpr empty)
  all_goals simp only [plan, Except.bind_eq_ok_iff] at planned
  case setObjectiveCoefficient | setColumnKind =>
    obtain ⟨_, -, _, -, ⟨⟩⟩ := planned
    constructor
  case setRowName | setColumnName =>
    obtain ⟨_, -, _, -, _, -, ⟨⟩⟩ := planned
    constructor
  case setRowBounds | setColumnBounds =>
    obtain ⟨_, -, bound, checked, _, -, ⟨⟩⟩ := planned
    constructor
    exact Except.mapError_eq_ok_iff.mp checked
  case loadMatrix =>
    obtain ⟨_, -, _, -, _, -, _, -, ⟨⟩⟩ := planned
    constructor
  case setRowCoefficients | setColumnCoefficients =>
    obtain ⟨_, -, _, -, _, -, _, -, _, -, _, -, ⟨⟩⟩ := planned
    constructor

end Edit

end LinearProgramming
