import LinearProgramming.Proofs.Bound
import LinearProgramming.Proofs.Problem.Deletion
import LinearProgramming.Proofs.Workspace.Consistent

/-!
# Bounds that are set and read back

A bound that is set on a row or a column is refused, or it is read back in canonical form with the
same finite numbers in it, and then can be set again as it was read.
-/

namespace LinearProgramming

variable {K : Type} [Scalar K]

namespace Problem

variable {problem : Problem K}

/-! ## What is stored -/

def withRowBound (problem : Problem K) (row : Nat) (bound : Bound K) : Problem K :=
  ({ problem with
    workspace :=
      (problem.workspace.modifyRow row fun current => { current with bound }).discard } :
    Problem K).forget

def withColumnBound (problem : Problem K) (column : Nat) (bound : Bound K) : Problem K :=
  ({ problem with
    workspace :=
      (problem.workspace.modifyColumn column fun current => { current with bound }).discard } :
    Problem K).forget

theorem setRowBounds_eq (wellFormed : problem.workspace.WellFormed) {row : Nat}
    (inside : row < problem.workspace.rows.length) (kind : BoundKind) (least greatest : K) :
    problem.setRowBounds (row + 1) kind least greatest =
      checkBound kind least greatest >>= fun bound => .ok (problem.withRowBound row bound) := by
  rw [setRowBounds, checkRow_succ wellFormed inside, narrow_row wellFormed inside, Except.ok_bind]
  congr 1
  funext bound
  rw [Workspace.setRowBound, Workspace.rowPosition_succ inside, Workspace.boundKind_code]
  simp only [Except.ok_bind, Bound.ofKind_sides]
  rfl

theorem setColumnBounds_eq (wellFormed : problem.workspace.WellFormed) {column : Nat}
    (inside : column < problem.workspace.columns.length) (kind : BoundKind) (least greatest : K) :
    problem.setColumnBounds (column + 1) kind least greatest =
      checkBound kind least greatest >>= fun bound =>
        .ok (problem.withColumnBound column bound) := by
  rw [setColumnBounds, checkColumn_succ wellFormed inside, narrow_column wellFormed inside,
    Except.ok_bind]
  congr 1
  funext bound
  rw [Workspace.setColumnBound, Workspace.columnPosition_succ inside, Workspace.boundKind_code]
  simp only [Except.ok_bind, Bound.ofKind_sides]
  rfl

section Stored

variable (wellFormed : problem.workspace.WellFormed)

include wellFormed

theorem withRowBound_wellFormed (row : Nat) (bound : Bound K) :
    (problem.withRowBound row bound).workspace.WellFormed :=
  (wellFormed.toInRange.modifyRow (fun current => { current with bound })
    (fun _ below => below) row).discard

theorem withColumnBound_wellFormed (column : Nat) (bound : Bound K) :
    (problem.withColumnBound column bound).workspace.WellFormed :=
  (wellFormed.toInRange.modifyColumn column fun current => { current with bound }).discard

theorem rowBounds_withRowBound {row : Nat} (inside : row < problem.workspace.rows.length)
    (bound : Bound K) :
    (problem.withRowBound row bound).rowBounds (row + 1) = .ok (Interval.ofBound bound) := by
  have at_row : (problem.withRowBound row bound).workspace.rows[row]? =
      some { problem.workspace.rows[row] with bound } :=
    (List.getElem?_modify_eq _ _ _).trans (congrArg _ (List.getElem?_eq_getElem inside))
  exact rowBounds_eq (withRowBound_wellFormed wellFormed row bound) at_row

theorem columnBounds_withColumnBound {column : Nat}
    (inside : column < problem.workspace.columns.length) (bound : Bound K) :
    (problem.withColumnBound column bound).columnBounds (column + 1) =
      .ok (Interval.ofBound bound) := by
  have at_column : (problem.withColumnBound column bound).workspace.columns[column]? =
      some { problem.workspace.columns[column] with bound } :=
    (List.getElem?_modify_eq _ _ _).trans (congrArg _ (List.getElem?_eq_getElem inside))
  exact columnBounds_eq (withColumnBound_wellFormed wellFormed column bound) at_column

end Stored

/-! ## What the calls do -/

/-- Whether a call that sets bounds takes a request, and what another call then reads. -/
structure SetsBounds (set : Problem K → BoundKind → K → K → Except (Failure K) (Problem K))
    (read : Problem K → Except (Failure K) (Interval K)) (problem : Problem K) (kind : BoundKind)
    (least greatest : K) : Prop where
  accepted_iff : (∃ next, set problem kind least greatest = .ok next) ↔
    Bound.Acceptable kind least greatest
  refused : ¬ Bound.Acceptable kind least greatest →
    set problem kind least greatest = .error (.error (.inconsistentBounds kind least greatest))
  stored : ∀ next, set problem kind least greatest = .ok next → ∃ interval,
    read next = .ok interval ∧ interval.Canonical ∧
      (∀ value, Scalar.isFinite value = true →
        (interval.contains value = true ↔ Bound.Asks kind least greatest value)) ∧
      ∃ again, set next interval.kind interval.lower interval.upper = .ok again ∧
        read again = .ok interval

structure Stores (set : Problem K → BoundKind → K → K → Except (Failure K) (Problem K))
    (read : Problem K → Except (Failure K) (Interval K)) (has : Problem K → Prop)
    (store : Problem K → Bound K → Problem K) : Prop where
  set_eq : ∀ problem, has problem → ∀ kind least greatest,
    set problem kind least greatest =
      checkBound kind least greatest >>= fun bound => .ok (store problem bound)
  read_store : ∀ problem, has problem → ∀ bound,
    read (store problem bound) = .ok (Interval.ofBound bound)
  has_store : ∀ problem, has problem → ∀ bound, has (store problem bound)

theorem checkBound_of_request {kind : BoundKind} {least greatest : K} {bound : Bound K}
    (requested : Bound.request? kind least greatest = some bound) :
    checkBound kind least greatest = .ok bound := by
  rw [checkBound, requested]
  rfl

theorem checkBound_of_refused {kind : BoundKind} {least greatest : K}
    (refused : Bound.request? kind least greatest = none) :
    checkBound kind least greatest =
      .error (.error (.inconsistentBounds kind least greatest)) := by
  rw [checkBound, refused]
  rfl

theorem Stores.setsBounds [ExtendedScalar K]
    {set : Problem K → BoundKind → K → K → Except (Failure K) (Problem K)}
    {read : Problem K → Except (Failure K) (Interval K)} {has : Problem K → Prop}
    {store : Problem K → Bound K → Problem K} (stores : Stores set read has store)
    (there : has problem) (kind : BoundKind) (least greatest : K) :
    SetsBounds set read problem kind least greatest := by
  have set_eq := stores.set_eq problem there kind least greatest
  cases requested : Bound.request? kind least greatest with
  | none =>
      have unacceptable := Bound.not_acceptable_of_request requested
      rw [checkBound_of_refused requested, Except.error_bind] at set_eq
      constructor
      case accepted_iff => simp [set_eq, unacceptable]
      case refused => exact fun _ => set_eq
      case stored =>
        intro next accepted
        cases set_eq.symm.trans accepted
  | some bound =>
      obtain ⟨acceptable, proper, contains⟩ := Bound.represents_of_request requested
      rw [checkBound_of_request requested, Except.ok_bind] at set_eq
      constructor
      case accepted_iff => exact iff_of_true ⟨_, set_eq⟩ acceptable
      case refused => exact fun unacceptable => absurd acceptable unacceptable
      case stored =>
        intro next accepted
        obtain rfl := Except.ok.inj (set_eq.symm.trans accepted)
        have thereToo := stores.has_store problem there bound
        have again := stores.set_eq _ thereToo bound.kind bound.lowerSide bound.upperSide
        rw [checkBound_of_request proper.request?_eq, Except.ok_bind] at again
        exact ⟨_, stores.read_store problem there bound, proper.canonical, contains, _, again,
          stores.read_store _ thereToo bound⟩

theorem stores_row (row : Nat) :
    Stores (fun problem : Problem K => problem.setRowBounds (row + 1))
      (fun problem => problem.rowBounds (row + 1))
      (fun problem => problem.workspace.WellFormed ∧ row < problem.workspace.rows.length)
      fun problem bound => problem.withRowBound row bound where
  set_eq _ there := setRowBounds_eq there.1 there.2
  read_store _ there := rowBounds_withRowBound there.1 there.2
  has_store _ there bound :=
    ⟨withRowBound_wellFormed there.1 row bound, there.2.trans_eq (List.length_modify _ _ _).symm⟩

theorem stores_column (column : Nat) :
    Stores (fun problem : Problem K => problem.setColumnBounds (column + 1))
      (fun problem => problem.columnBounds (column + 1))
      (fun problem => problem.workspace.WellFormed ∧ column < problem.workspace.columns.length)
      fun problem bound => problem.withColumnBound column bound where
  set_eq _ there := setColumnBounds_eq there.1 there.2
  read_store _ there := columnBounds_withColumnBound there.1 there.2
  has_store _ there bound :=
    ⟨withColumnBound_wellFormed there.1 column bound,
      there.2.trans_eq (List.length_modify _ _ _).symm⟩

end Problem

namespace History

open Problem

variable {events : List (Event Float)} {problem : Problem Float}

/-- After every history of a problem over doubles, whatever bounds are set on a row or a column are
refused or read back in canonical form, and all bounds are ones that the solvers accept. -/
theorem sets_bounds (history : History events problem) :
    (∀ row, 1 ≤ row → row ≤ problem.rowCount → ∀ kind least greatest,
      SetsBounds (·.setRowBounds row) (·.rowBounds row) problem kind least greatest) ∧
    (∀ column, 1 ≤ column → column ≤ problem.columnCount → ∀ kind least greatest,
      SetsBounds (·.setColumnBounds column) (·.columnBounds column) problem kind least greatest) ∧
    problem.workspace.program.boundsConsistent = true := by
  have wellFormed := history.wellFormed
  refine ⟨?_, ?_, history.consistent.program⟩
  · intro row first last
    obtain ⟨row, rfl⟩ := Nat.exists_eq_add_of_le' first
    rw [rowCount_eq wellFormed.rowLimit] at last
    exact (stores_row row).setsBounds ⟨wellFormed, last⟩
  · intro column first last
    obtain ⟨column, rfl⟩ := Nat.exists_eq_add_of_le' first
    rw [columnCount_eq wellFormed.columnLimit] at last
    exact (stores_column column).setsBounds ⟨wellFormed, last⟩

/-- A row whose lower side is minus infinity, and a column whose sides are both zeros. -/
theorem sets_bounds_zeros :
    ∃ problem : Problem Float, (∃ events, History events problem) ∧
      (problem.rowCount = 1 ∧ problem.columnCount = 1) ∧
      (∃ next, problem.setRowBounds 1 .double (-Scalar.infinity) 5 = .ok next ∧
        next.rowBounds 1 = .ok ⟨.upper, -Scalar.infinity, 5⟩) ∧
      (∃ next, problem.setColumnBounds 1 .double (-0) 0 = .ok next ∧
        next.columnBounds 1 = .ok ⟨.fixed, -0, -0⟩) ∧
      SetsBounds (·.setRowBounds 1) (·.rowBounds 1) problem .double (-Scalar.infinity) 5 ∧
      SetsBounds (·.setColumnBounds 1) (·.columnBounds 1) problem .double (-0) 0 ∧
      problem.workspace.program.boundsConsistent = true := by
  have rows := History.returned (.edit (.addRows 1)) (History.create (K := Float)) rfl
  have history := History.returned (.edit (.addColumns 1)) rows rfl
  obtain ⟨ofRow, ofColumn, consistent⟩ := history.sets_bounds
  exact ⟨_, ⟨_, history⟩, ⟨rfl, rfl⟩, ⟨_, rfl, rfl⟩, ⟨_, rfl, rfl⟩,
    ofRow 1 le_rfl le_rfl _ _ _, ofColumn 1 le_rfl le_rfl _ _ _, consistent⟩

end History

end LinearProgramming
