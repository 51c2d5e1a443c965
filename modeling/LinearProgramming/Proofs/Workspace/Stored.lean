import LinearProgramming.Proofs.Workspace.Solved

/-!
# Where stored solutions come from

A change of the data discards the stored solutions, and a new name leaves them and the data as
they are.  So what holds of every workspace without solutions, and is kept by names and by runs of
the solvers, holds after all calls.  In this way the stored interior point is always the one that
the present data give, or none was given and it is still zero.
-/

namespace LinearProgramming

variable {K : Type} [Scalar K]

namespace Workspace

structure Renamed (before after : Workspace K) : Prop where
  program : after.program = before.program
  rows : after.rows.length = before.rows.length
  columns : after.columns.length = before.columns.length
  basic : after.basic = before.basic
  interior : after.interior = before.interior
  integer : after.integer = before.integer

/-- What a change does to the stored solutions: it discards them all, or keeps them all together
with the data, but for names. -/
inductive Changed (before after : Workspace K) : Prop
  | discarded (unsolved : after.discard = after)
  | renamed (same : Renamed before after)

theorem Changed.refl (workspace : Workspace K) : Changed workspace workspace :=
  .renamed ⟨rfl, rfl, rfl, rfl, rfl, rfl⟩

theorem changed_discard (before after : Workspace K) : Changed before after.discard :=
  .discarded rfl

variable {workspace next : Workspace K}

omit [Scalar K] in
theorem map_modify_of_eq {A B : Type} (read : A → B) (change : A → A)
    (kept : ∀ entry, read (change entry) = read entry) (entries : List A) (position : Nat) :
    (entries.modify position change).map read = entries.map read := by
  apply List.ext_getElem
  · simp
  · intro index inside _
    simp only [List.getElem_map, List.getElem_modify]
    split
    · exact kept _
    · rfl

theorem changed_renameRow (workspace : Workspace K) (position : Nat) (name : Option String) :
    workspace.Changed (workspace.modifyRow position fun current => { current with name }) := by
  have rows := map_modify_of_eq
    (fun row : WorkRow K => (⟨row.bound, row.cells.cells⟩ : LinearRow K))
    (fun current => { current with name }) (fun _ => rfl) workspace.rows position
  exact .renamed ⟨by simp only [program, modifyRow, rows], by simp [modifyRow], rfl, rfl, rfl, rfl⟩

theorem changed_renameColumn (workspace : Workspace K) (position : Nat) (name : Option String) :
    workspace.Changed (workspace.modifyColumn position fun current => { current with name }) := by
  have kept {B : Type} (read : WorkColumn K → B)
      (reads : ∀ column : WorkColumn K, read { column with name } = read column) :
      (workspace.columns.modify position fun current => { current with name }).map read =
        workspace.columns.map read :=
    map_modify_of_eq read _ reads workspace.columns position
  refine .renamed ⟨?_, rfl, by simp [modifyColumn], rfl, rfl, rfl⟩
  simp only [program, modifyColumn, kept (·.cost) fun _ => rfl, kept (·.bound) fun _ => rfl]

/-- Every numbered change discards the stored solutions, unless it changes nothing but a name. -/
theorem changed_run {command : Command K} {number : Option Int}
    (ran : command.run workspace = .ok (next, number)) : workspace.Changed next := by
  cases Command.effect_of_run ran with
  | setName => exact .renamed ⟨rfl, rfl, rfl, rfl, rfl, rfl⟩
  | setRowName => exact changed_renameRow _ _ _
  | setColumnName => exact changed_renameColumn _ _ _
  | addNoRows | addNoColumns => exact .refl workspace
  | _ => exact changed_discard _ _

/-! ## Facts that all calls keep -/

/-- A fact that holds of every workspace without solutions, and that new names and runs of the
solvers keep. -/
structure Stable (keeps : Workspace K → Prop) : Prop where
  unsolved : ∀ workspace : Workspace K, workspace.discard = workspace → keeps workspace
  renamed : ∀ before after : Workspace K, Renamed before after → keeps before → keeps after
  simplexTimed : ∀ (workspace : Workspace K) (clock : Clock) (options : Simplex.Options K),
    keeps workspace → keeps (workspace.simplexTimed clock options).1
  interiorPoint : ∀ workspace : Workspace K, keeps workspace → keeps workspace.interiorPoint.1
  integerSearchTimed : ∀ (steps : Nat) (workspace : Workspace K) (timing : Timing)
    (options : Search.Options K) (next : Workspace K) (run : IntegerRun K),
    workspace.integerSearchTimed steps timing options = some (next, run) →
      keeps workspace → keeps next

theorem Stable.changed {keeps : Workspace K → Prop} (stable : Stable keeps)
    (changed : workspace.Changed next) (kept : keeps workspace) : keeps next := by
  cases changed with
  | discarded unsolved => exact stable.unsolved next unsolved
  | renamed same => exact stable.renamed workspace next same kept

/-- The stored interior point is still zero, or the one that the present data give. -/
def InteriorCurrent (workspace : Workspace K) : Prop :=
  workspace.interior.point =
      (LinearSolution.none workspace.rows.length workspace.columns.length).point ∨
    (Interior.solve workspace.program).point = some workspace.interior.point

theorem InteriorCurrent.of_unsolved (unsolved : workspace.discard = workspace) :
    workspace.InteriorCurrent := by
  left
  exact (congrArg (·.interior.point) unsolved).symm

theorem InteriorCurrent.interiorPoint (current : workspace.InteriorCurrent) :
    workspace.interiorPoint.1.InteriorCurrent := by
  cases found : (Interior.solve workspace.program).point with
  | none =>
      have kept : workspace.interiorPoint.1.interior.point = workspace.interior.point :=
        congrArg (·.getD workspace.interior.point) found
      rw [InteriorCurrent, kept]
      exact current
  | some point =>
      have stored : workspace.interiorPoint.1.interior.point = point :=
        congrArg (·.getD workspace.interior.point) found
      rw [InteriorCurrent, stored]
      exact .inr found

theorem InteriorCurrent.point_eq (current : workspace.InteriorCurrent) :
    workspace.interiorPoint.1.interior.point =
      (Interior.solve workspace.program).point.getD
        (LinearSolution.none workspace.rows.length workspace.columns.length).point := by
  change (Interior.solve workspace.program).point.getD workspace.interior.point = _
  cases found : (Interior.solve workspace.program).point with
  | some point => rfl
  | none =>
      rw [InteriorCurrent, found] at current
      exact current.resolve_right (Option.some_ne_none _).symm

theorem stable_interiorCurrent : Stable (InteriorCurrent (K := K)) where
  unsolved _ unsolved := .of_unsolved unsolved
  renamed before after same current := by
    rw [InteriorCurrent, same.interior, same.rows, same.columns, same.program]
    exact current
  simplexTimed _ _ _ current := current
  interiorPoint _ current := current.interiorPoint
  integerSearchTimed steps workspace timing options next run ends current := by
    cases integerSearchTimed_eq_some_iff.mp ends with
    | refused | searched => exact current

end Workspace

end LinearProgramming
