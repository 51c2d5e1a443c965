import Mathlib.Data.Finset.Card
import LinearProgramming.Proofs.Problem.Deletion
import LinearProgramming.Proofs.Problem.Following
import LinearProgramming.Proofs.Workspace.Kinds

/-!
# Kinds of columns

Of the kind that was set last on a column a problem keeps whether it was integral, and reads a
binary column off an integral one and its bounds.  The kinds that were set last are followed here
beside the problem, with the columns as they are renumbered; what the problem shows of them is the
same after every history.
-/

namespace LinearProgramming

variable {K : Type} [Scalar K]

/-! ## The kinds that were set last -/

abbrev Kinds : Type := Nat → VariableKind

omit [Scalar K] in
noncomputable def Edit.updateKinds : Edit K → Kinds → Kinds
  | setColumnKind column kind, kinds => Function.update kinds column kind
  | deleteColumns columns, kinds => fun column => kinds (survivor columns column)
  | _, kinds => kinds

/-- The kinds at the end of a sequence of operations: all columns are continuous at first. -/
abbrev Kinded : List (Event K) → Problem K → Kinds → Prop :=
  Follows (fun _ => .continuous) Edit.updateKinds

def Workspace.KeepsKinds (workspace : Workspace K) (kinds : Kinds) : Prop :=
  ∀ position, workspace.integralAt position = (kinds (position + 1)).isIntegral

omit [Scalar K] in
theorem Workspace.KeepsKinds.continuous_of_lt {workspace : Workspace K} {kinds : Kinds}
    (keeps : workspace.KeepsKinds kinds) {column : Nat}
    (beyond : workspace.columns.length < column) : kinds column = .continuous := by
  obtain ⟨position, rfl⟩ := Nat.exists_eq_add_of_lt (Nat.zero_lt_of_lt beyond)
  rw [Nat.zero_add] at *
  have none : workspace.columns[position]? = none :=
    List.getElem?_eq_none (Nat.le_of_lt_succ beyond)
  have notIntegral := keeps position
  rw [integralAt, none] at notIntegral
  cases last : kinds (position + 1) with
  | continuous => rfl
  | _ =>
      rw [last] at notIntegral
      cases notIntegral

/-! ## Setting a kind -/

namespace VariableKind

def change : VariableKind → WorkColumn K → WorkColumn K
  | continuous => fun column => { column with integral := false }
  | integer => fun column => { column with integral := true }
  | binary => fun column => { column with integral := true, bound := .double 0 1 }

theorem integral_change (kind : VariableKind) (column : WorkColumn K) :
    (kind.change column).integral = kind.isIntegral := by
  cases kind <;> rfl

theorem bound_change (kind : VariableKind) (column : WorkColumn K) :
    (kind.change column).bound = if kind = .binary then .double 0 1 else column.bound := by
  cases kind <;> rfl

end VariableKind

theorem Workspace.kindChange?_code (kind : VariableKind) :
    kindChange? (Coded.code kind) = some (kind.change (K := K)) := by
  cases kind <;> rfl

namespace Problem

variable {problem next : Problem K}

def withColumnKind (problem : Problem K) (column : Nat) (kind : VariableKind) : Problem K :=
  ({ problem with workspace := (problem.workspace.modifyColumn column kind.change).discard } :
    Problem K).forget

theorem setColumnKind_eq (wellFormed : problem.workspace.WellFormed) {column : Nat}
    (inside : column < problem.workspace.columns.length) (kind : VariableKind) :
    problem.setColumnKind (column + 1) kind = .ok (problem.withColumnKind column kind) := by
  rw [setColumnKind, checkColumn_succ wellFormed inside, narrow_column wellFormed inside,
    Except.ok_bind, Workspace.setColumnKind, Workspace.columnPosition_succ inside, Except.ok_bind,
    Workspace.kindChange?_code]
  rfl

theorem inside_of_setColumnKind {column : Nat} {kind : VariableKind}
    (set : problem.setColumnKind column kind = .ok next) :
    1 ≤ column ∧ column ≤ problem.columnCount := by
  obtain ⟨_, inside, -⟩ := Except.bind_eq_ok_iff.mp set
  exact checkColumn_eq_ok_iff.mp inside

theorem integralAt_withColumnKind {column : Nat}
    (inside : column < problem.workspace.columns.length) (kind : VariableKind) :
    (problem.withColumnKind column kind).workspace.integralAt =
      Function.update problem.workspace.integralAt column kind.isIntegral := by
  have changed := Workspace.integralAt_modifyColumn (List.getElem?_eq_getElem inside)
    (kind.change (K := K))
  rwa [VariableKind.integral_change] at changed

theorem integralAt_withoutColumns (problem : Problem K) (columns : List Nat) (position : Nat) :
    (problem.without Workspace.dropColumns columns).workspace.integralAt position =
      problem.workspace.integralAt (survivor (columns.map (· - 1)) position) := by
  rw [Workspace.integralAt, columns_without_columns]
  rfl

end Problem

/-! ## Each change keeps them -/

namespace Edit

open Problem

variable {problem next : Problem K}

def movesKinds : Edit K → Bool
  | setColumnKind _ _ => true
  | deleteColumns _ => true
  | _ => false

theorem movesKinds_of_plan {cast : Cast K} {edit : Edit K} {command : Command K}
    (planned : edit.plan cast problem = .ok (some command)) :
    command.movesKinds = edit.movesKinds := by
  cases plans_of_plan planned <;> rfl

theorem integralAt_of_not_movesKinds {edit : Edit K} {index : Option Nat}
    (stays : edit.movesKinds = false) (ran : edit.run problem = .ok (next, index)) :
    next.workspace.integralAt = problem.workspace.integralAt := by
  rcases plan_of_run ran with ⟨-, rfl⟩ | ⟨command, workspace, number, planned, called, rfl⟩
  · rfl
  · have kept := Workspace.integralAt_run ((movesKinds_of_plan planned).trans stays) called
    split <;> exact kept

/-- A change that is made updates the kinds as it says. -/
theorem keepsKinds {edit : Edit K} {index : Option Nat} {kinds : Kinds}
    (wellFormed : problem.workspace.WellFormed) (ran : edit.run problem = .ok (next, index))
    (keeps : problem.workspace.KeepsKinds kinds) :
    next.workspace.KeepsKinds (edit.updateKinds kinds) := by
  cases edit with
  | setColumnKind column kind =>
      obtain ⟨_, set, ⟨⟩⟩ := Except.bind_eq_ok_iff.mp ran
      obtain ⟨first, last⟩ := inside_of_setColumnKind set
      obtain ⟨column, rfl⟩ := Nat.exists_eq_add_of_le' first
      rw [columnCount_eq wellFormed.columnLimit] at last
      obtain rfl := Except.ok.inj ((setColumnKind_eq wellFormed last kind).symm.trans set)
      intro position
      rw [integralAt_withColumnKind last, updateKinds]
      by_cases same : position = column
      · subst same
        rw [Function.update_self, Function.update_self]
      · rw [Function.update_of_ne same, Function.update_of_ne (mt Nat.succ.inj same), keeps]
  | deleteColumns columns =>
      obtain ⟨_, deleted, ⟨⟩⟩ := Except.bind_eq_ok_iff.mp ran
      have listed := listed_of_deleteColumns deleted
      obtain rfl := Except.ok.inj
        ((deleteColumns_of_listed wellFormed listed).symm.trans deleted)
      intro position
      change _ = (kinds (survivor columns (position + 1))).isIntegral
      rw [integralAt_withoutColumns, survivor_succ listed.positive, keeps]
  | _ =>
      intro position
      rw [integralAt_of_not_movesKinds rfl ran]
      exact keeps position

end Edit

theorem keptKinds : Kept (K := K) Edit.updateKinds Workspace.KeepsKinds where
  sameData _ _ _ same keeps position := by
    rw [Workspace.integralAt_congr (congrArg _ same.columns), keeps position]
  edited _ _ _ _ _ := Edit.keepsKinds

theorem Follows.keepsKinds {events : List (Event K)} {problem : Problem K} {kinds : Kinds}
    (kinded : Kinded events problem kinds) : problem.workspace.KeepsKinds kinds :=
  keptKinds.follows (fun _ => rfl) kinded

/-! ## What a problem shows of them -/

namespace WorkColumn

theorem isIntegral_kind (column : WorkColumn K) : column.kind.isIntegral = column.integral := by
  rw [kind]
  cases column.integral with
  | false => rfl
  | true =>
      simp only [if_true]
      split <;> rfl

theorem kind_eq_binary_iff (column : WorkColumn K) :
    column.kind = .binary ↔ column.integral = true ∧
      (Interval.ofBound column.bound).kind = .double ∧
        ((Interval.ofBound column.bound).lower == 0) = true ∧
          ((Interval.ofBound column.bound).upper == 1) = true := by
  rw [kind]
  cases column.integral with
  | false => simp
  | true => simp [and_assoc]

end WorkColumn

namespace Problem

variable {problem : Problem K}

/-- What a problem shows of a column on which a kind was set last, and what setting another kind
does to the bounds. -/
structure ShowsKind (problem : Problem K) (column : Nat) (last : VariableKind) : Prop where
  shown : ∃ kind interval,
    problem.columnKind column = .ok kind ∧ problem.columnBounds column = .ok interval ∧
      kind.isIntegral = last.isIntegral ∧
        (kind = .binary ↔ last.isIntegral = true ∧
          interval.kind = .double ∧ (interval.lower == 0) = true ∧ (interval.upper == 1) = true)
  set : ∀ kind, ∃ next, problem.setColumnKind column kind = .ok next ∧
    next.columnBounds column =
      if kind = .binary then .ok ⟨.double, 0, 1⟩ else problem.columnBounds column

section Showing

variable (wellFormed : problem.workspace.WellFormed)

include wellFormed

theorem columnBounds_withColumnKind {column : Nat} {current : WorkColumn K}
    (at_column : problem.workspace.columns[column]? = some current) (kind : VariableKind) :
    (problem.withColumnKind column kind).columnBounds (column + 1) =
      if kind = .binary then .ok ⟨.double, 0, 1⟩ else problem.columnBounds (column + 1) := by
  have changed : (problem.withColumnKind column kind).workspace.columns[column]? =
      some (kind.change current) :=
    (List.getElem?_modify_eq _ _ _).trans (congrArg _ at_column)
  have kept : (problem.withColumnKind column kind).workspace.WellFormed :=
    (wellFormed.toInRange.modifyColumn column kind.change).discard
  rw [columnBounds_eq kept changed, columnBounds_eq wellFormed at_column,
    VariableKind.bound_change]
  split <;> rfl

theorem showsKind {column : Nat} {kinds : Kinds}
    (keeps : problem.workspace.KeepsKinds kinds) (first : 1 ≤ column)
    (last : column ≤ problem.columnCount) : problem.ShowsKind column (kinds column) := by
  obtain ⟨column, rfl⟩ := Nat.exists_eq_add_of_le' first
  rw [columnCount_eq wellFormed.columnLimit] at last
  have at_column := List.getElem?_eq_getElem (Nat.lt_of_succ_le last)
  have integral := (Workspace.integralAt_eq at_column).symm.trans (keeps column)
  constructor
  case shown =>
    refine ⟨_, _, columnKind_eq wellFormed at_column, columnBounds_eq wellFormed at_column, ?_, ?_⟩
    · rw [WorkColumn.isIntegral_kind, integral]
    · rw [WorkColumn.kind_eq_binary_iff, integral]
  case set =>
    exact fun kind => ⟨_, setColumnKind_eq wellFormed last kind,
      columnBounds_withColumnKind wellFormed at_column kind⟩

/-- The integral columns are those that are shown as such. -/
theorem mem_integerColumns_iff_columnKind (column : Nat) :
    column ∈ problem.workspace.integerColumns.map (· + 1) ↔
      ∃ kind, problem.columnKind column = .ok kind ∧ kind.isIntegral = true := by
  rw [List.mem_map]
  constructor
  · rintro ⟨position, member, rfl⟩
    obtain ⟨current, at_column, integral⟩ := Workspace.mem_integerColumns_iff.mp member
    exact ⟨_, columnKind_eq wellFormed at_column, current.isIntegral_kind.trans integral⟩
  · rintro ⟨kind, read, integral⟩
    obtain ⟨_, checked, -⟩ := Except.bind_eq_ok_iff.mp read
    obtain ⟨first, last⟩ := checkColumn_eq_ok_iff.mp checked
    obtain ⟨position, rfl⟩ := Nat.exists_eq_add_of_le' first
    rw [columnCount_eq wellFormed.columnLimit] at last
    have at_column := List.getElem?_eq_getElem (Nat.lt_of_succ_le last)
    obtain rfl := Except.ok.inj ((columnKind_eq wellFormed at_column).symm.trans read)
    exact ⟨position, Workspace.mem_integerColumns_iff.mpr
      ⟨_, at_column, (WorkColumn.isIntegral_kind _).symm.trans integral⟩, rfl⟩

theorem exists_integral_columns :
    ∃ columns : Finset Nat,
      (∀ column, column ∈ columns ↔
        ∃ kind, problem.columnKind column = .ok kind ∧ kind.isIntegral = true) ∧
      problem.integerColumnCount = columns.card := by
  refine ⟨(problem.workspace.integerColumns.map (· + 1)).toFinset, fun column => ?_, ?_⟩
  · rw [List.mem_toFinset, mem_integerColumns_iff_columnKind wellFormed]
  · have once := problem.workspace.nodup_integerColumns.map Nat.succ_injective
    rw [List.toFinset_card_of_nodup once, List.length_map]
    exact Workspace.widen_integerCount wellFormed.columnLimit

end Showing

end Problem

/-! ## Histories -/

namespace History

open Problem

variable {events : List (Event K)} {problem : Problem K}

/-- Every history has kinds that were set last, and at its end the problem shows them; a column
that is added has none, and the columns that are shown as integral are counted. -/
theorem shows_kinds (history : History events problem) :
    (∃ kinds, Kinded events problem kinds) ∧
    (∀ kinds, Kinded events problem kinds →
      (∀ column, 1 ≤ column → column ≤ problem.columnCount →
        problem.ShowsKind column (kinds column)) ∧
      ∀ column, problem.columnCount < column → kinds column = .continuous) ∧
    ∃ columns : Finset Nat,
      (∀ column, column ∈ columns ↔
        ∃ kind, problem.columnKind column = .ok kind ∧ kind.isIntegral = true) ∧
      problem.integerColumnCount = columns.card := by
  have wellFormed := history.wellFormed
  refine ⟨history.exists_follows _ _, fun kinds kinded => ⟨fun column first last => ?_,
    fun column beyond => ?_⟩, exists_integral_columns wellFormed⟩
  · exact showsKind wellFormed kinded.keepsKinds first last
  · rw [columnCount_eq wellFormed.columnLimit] at beyond
    exact kinded.keepsKinds.continuous_of_lt beyond

/-- A binary column whose bounds are widened, an integer one that is bounded by zero and one, and a
deletion that moves both. -/
theorem shows_kinds_moved :
    ∃ (events : List (Event Float)) (problem : Problem Float) (kinds : Kinds),
      (History events problem ∧ events.map (·.request) =
        [.edit (.deleteColumns [1]), .edit (.setColumnBounds 3 .double (-0) 1),
          .edit (.setColumnKind 3 .integer), .edit (.setColumnBounds 2 .double 0 2),
          .edit (.setColumnKind 2 .binary), .edit (.addColumns 4)]) ∧
      Kinded events problem kinds ∧
      (problem.columnKind 1 = .ok .integer ∧ problem.ShowsKind 1 (kinds 1)) ∧
      (problem.columnKind 2 = .ok .binary ∧ problem.ShowsKind 2 (kinds 2)) ∧
      (problem.columnKind 3 = .ok .continuous ∧ problem.ShowsKind 3 (kinds 3)) ∧
      problem.integerColumnCount = 2 := by
  have columns := History.returned (.edit (.addColumns 4)) (History.create (K := Float)) rfl
  have binary := History.returned (.edit (.setColumnKind 2 .binary)) columns (by rfl)
  have wide := History.returned (.edit (.setColumnBounds 2 .double 0 2)) binary (by rfl)
  have integer := History.returned (.edit (.setColumnKind 3 .integer)) wide (by rfl)
  have narrow := History.returned (.edit (.setColumnBounds 3 .double (-0) 1)) integer (by rfl)
  have moved := History.returned (.edit (.deleteColumns [1])) narrow (by rfl)
  obtain ⟨⟨kinds, kinded⟩, followed, -⟩ := shows_kinds moved
  obtain ⟨shown, -⟩ := followed kinds kinded
  exact ⟨_, _, kinds, ⟨moved, rfl⟩, kinded, ⟨rfl, shown 1 (by decide) (by decide)⟩,
    ⟨rfl, shown 2 (by decide) (by decide)⟩, ⟨rfl, shown 3 (by decide) (by decide)⟩, rfl⟩

end History

end LinearProgramming
