import Mathlib.Logic.Function.Basic
import LinearProgramming.Proofs.Workspace.Cells
import LinearProgramming.Proofs.Workspace.Search
import LinearProgramming.Proofs.Workspace.Stored

/-!
# Integral columns of a workspace

Whether a column is integral is stored with the column.  Only a call that sets the kind of a column
changes it, and a deletion of columns renumbers it; every other change leaves it at its position.
-/

namespace LinearProgramming

def Command.movesKinds {K : Type} : Command K → Bool
  | setColumnKind _ _ => true
  | deleteColumns _ _ => true
  | _ => false

namespace Workspace

variable {K : Type} {workspace next : Workspace K}

def integralAt (workspace : Workspace K) (position : Nat) : Bool :=
  (workspace.columns[position]?).any (·.integral)

theorem integralAt_eq {position : Nat} {column : WorkColumn K}
    (at_position : workspace.columns[position]? = some column) :
    workspace.integralAt position = column.integral := by
  rw [integralAt, at_position, Option.any_some]

theorem mem_integerColumns_iff_integralAt {position : Nat} :
    position ∈ workspace.integerColumns ↔ workspace.integralAt position = true := by
  rw [mem_integerColumns_iff, integralAt, Option.any_eq_true]

theorem nodup_integerColumns (workspace : Workspace K) : workspace.integerColumns.Nodup := by
  refine (ascending_zipIdx workspace.columns).filterMap _ ?_
  intro left right less first isFirst second isSecond
  obtain ⟨-, ⟨⟩⟩ := Option.ite_none_right_eq_some.mp isFirst
  obtain ⟨-, ⟨⟩⟩ := Option.ite_none_right_eq_some.mp isSecond
  exact Nat.ne_of_lt less

theorem integralAt_congr
    (same : next.columns.map (·.integral) = workspace.columns.map (·.integral)) :
    next.integralAt = workspace.integralAt := by
  have read (workspace : Workspace K) (position : Nat) : workspace.integralAt position =
      ((workspace.columns.map (·.integral))[position]?).any id := by
    rw [List.getElem?_map, Option.any_map]
    rfl
  funext position
  rw [read, read, same]

theorem integralAt_modifyColumn {position : Nat} {column : WorkColumn K}
    (at_position : workspace.columns[position]? = some column)
    (change : WorkColumn K → WorkColumn K) :
    (workspace.modifyColumn position change).integralAt =
      Function.update workspace.integralAt position (change column).integral := by
  funext other
  rw [integralAt, modifyColumn, List.getElem?_modify]
  by_cases same : position = other
  · subst same
    simp [at_position]
  · rw [Function.update_of_ne (Ne.symm same)]
    simp [same, integralAt]

theorem integralAt_modifyColumn_of_eq {change : WorkColumn K → WorkColumn K}
    (kept : ∀ column, (change column).integral = column.integral) (position : Nat) :
    (workspace.modifyColumn position change).integralAt = workspace.integralAt :=
  integralAt_congr (map_modify_of_eq (·.integral) change kept workspace.columns position)

section Discarding

variable [Scalar K]

theorem integralAt_appendColumns (workspace : Workspace K) (count : Nat) :
    (workspace.appendColumns count).integralAt = workspace.integralAt := by
  funext position
  change ((workspace.columns ++ List.replicate count .new)[position]?).any _ = _
  rw [List.getElem?_append]
  split
  · rfl
  · rename_i beyond
    rw [List.getElem?_replicate, integralAt, List.getElem?_eq_none (Nat.not_lt.mp beyond)]
    split <;> rfl

theorem integralAt_run {command : Command K} {number : Option Int}
    (keeps : command.movesKinds = false) (ran : command.run workspace = .ok (next, number)) :
    next.integralAt = workspace.integralAt := by
  cases Command.effect_of_run ran with
  | setColumnKind | deleteColumns => cases keeps
  | setColumnName | setCost | setColumnBound =>
      refine integralAt_modifyColumn_of_eq ?_ _
      exact fun _ => rfl
  | addColumns => exact integralAt_appendColumns workspace _
  | setColumn => exact integralAt_congr (congrArg _ (columns_replaceColumn _ _))
  | loadMatrix => exact integralAt_congr (congrArg _ (columns_replaceMatrix _))
  | _ => rfl

end Discarding

end Workspace

end LinearProgramming
