import LinearProgramming.Proofs.ComparableScalar
import LinearProgramming.Proofs.Problem.History

/-!
# Bounds stay consistent

A problem only takes bounds that some finite number meets, and turns each of them into its
canonical form.  So after every history the bounds of all rows and columns are bounds that the
solvers accept, although a numbered call on the workspace would take any bounds.
-/

namespace LinearProgramming

variable {K : Type} [Scalar K]

/-! ## Requested bounds -/

namespace Bound

/-- A side that the kind of a bound does not use has no part in the bound. -/
theorem ofKind_sides (bound : Bound K) :
    ofKind bound.kind bound.lowerSide bound.upperSide = bound := by
  cases bound <;> rfl

variable [ComparableScalar K]

theorem isConsistent_of_isFinite {value : K} (finite : Scalar.isFinite value = true) :
    (lower value).isConsistent = true ∧ (upper value).isConsistent = true ∧
      (fixed value).isConsistent = true := by
  simp only [isConsistent, ComparableScalar.isNaN_of_isFinite finite, Bool.not_false, and_self]

/-- The canonical bound of a request is consistent. -/
theorem isConsistent_of_request {kind : BoundKind} {least greatest : K} {bound : Bound K}
    (requested : request? kind least greatest = some bound) : bound.isConsistent = true := by
  cases kind with
  | free =>
      cases requested
      rfl
  | lower =>
      simp only [request?] at requested
      split_ifs at requested with finite <;> cases requested
      · exact (isConsistent_of_isFinite finite).1
      · rfl
  | upper =>
      simp only [request?] at requested
      split_ifs at requested with finite <;> cases requested
      · exact (isConsistent_of_isFinite finite).2.1
      · rfl
  | double =>
      simp only [request?] at requested
      split_ifs at requested with finite finiteAbove equal less _ _ finiteAbove <;> cases requested
      · exact (isConsistent_of_isFinite finite).2.2
      · exact decide_eq_true less
      · exact (isConsistent_of_isFinite finite).1
      · exact (isConsistent_of_isFinite finiteAbove).2.1
      · rfl
  | fixed =>
      simp only [request?, Bool.and_eq_true] at requested
      split_ifs at requested with accepted
      cases requested
      exact (isConsistent_of_isFinite accepted.1).2.2

end Bound

/-! ## Workspaces -/

namespace Workspace

structure Consistent (workspace : Workspace K) : Prop where
  rows : ∀ row ∈ workspace.rows, row.bound.isConsistent = true
  columns : ∀ column ∈ workspace.columns, column.bound.isConsistent = true

namespace Consistent

variable {workspace next : Workspace K} (consistent : workspace.Consistent)

include consistent

theorem program : workspace.program.boundsConsistent = true := by
  simp only [Program.boundsConsistent, Workspace.program, List.all_map, Bool.and_eq_true,
    List.all_eq_true, Function.comp_apply]
  exact ⟨consistent.rows, consistent.columns⟩

theorem of_sameData (same : SameData workspace next) : next.Consistent := by
  constructor
  · rw [same.rows]
    exact consistent.rows
  · rw [same.columns]
    exact consistent.columns

theorem discard : workspace.discard.Consistent :=
  ⟨consistent.rows, consistent.columns⟩

theorem mapRows (change : WorkRow K → WorkRow K)
    (keeps : ∀ row, (change row).bound = row.bound) :
    ({ workspace with rows := workspace.rows.map change } : Workspace K).Consistent := by
  refine ⟨fun row member => ?_, consistent.columns⟩
  obtain ⟨old, inside, rfl⟩ := List.mem_map.mp member
  rw [keeps]
  exact consistent.rows old inside

theorem modifyRow {change : WorkRow K → WorkRow K}
    (keeps : ∀ row, row.bound.isConsistent = true → (change row).bound.isConsistent = true)
    (position : Nat) : (workspace.modifyRow position change).Consistent := by
  refine ⟨fun row member => ?_, consistent.columns⟩
  rcases mem_modify member with old | ⟨row, old, rfl⟩
  · exact consistent.rows row old
  · exact keeps row (consistent.rows row old)

theorem modifyColumn {change : WorkColumn K → WorkColumn K}
    (keeps : ∀ column, column.bound.isConsistent = true →
      (change column).bound.isConsistent = true) (position : Nat) :
    (workspace.modifyColumn position change).Consistent := by
  refine ⟨consistent.rows, fun column member => ?_⟩
  rcases mem_modify member with old | ⟨column, old, rfl⟩
  · exact consistent.columns column old
  · exact keeps column (consistent.columns column old)

theorem insertCell (row column : Nat) (value : K) :
    (workspace.insertCell row column value).Consistent := by
  refine consistent.modifyRow ?_ row
  exact fun _ kept => kept

theorem foldl_insertCell {A : Type} (place : A → Nat × Nat × K) (entries : List A) :
    (entries.foldl (fun current entry =>
      current.insertCell (place entry).1 (place entry).2.1 (place entry).2.2)
      workspace).Consistent := by
  induction entries generalizing workspace with
  | nil => exact consistent
  | cons entry entries inductionHypothesis =>
      exact inductionHypothesis (consistent.insertCell _ _ _)

theorem replaceRow (position : Nat) (cells : List (Nat × K)) :
    (workspace.replaceRow position cells).Consistent := by
  refine (consistent.modifyRow ?_ position).discard
  exact fun _ kept => kept

theorem replaceColumn (column : Nat) (cells : List (Nat × K)) :
    (workspace.replaceColumn column cells).Consistent := by
  have cleared := consistent.mapRows (fun row => { row with cells := row.cells.erase column })
    fun _ => rfl
  exact (cleared.foldl_insertCell (fun cell : Nat × K => (cell.1, column, cell.2)) cells).discard

theorem replaceMatrix (entries : List (Nat × Nat × K)) :
    (workspace.replaceMatrix entries).Consistent := by
  have cleared := consistent.mapRows (fun row => { row with cells := .empty }) fun _ => rfl
  exact (cleared.foldl_insertCell id entries).discard

theorem appendRows (count : Nat) : (workspace.appendRows count).Consistent := by
  refine ⟨fun row member => ?_, consistent.columns⟩
  rcases List.mem_append.mp member with old | new
  · exact consistent.rows row old
  · obtain rfl := List.eq_of_mem_replicate new
    rfl

theorem appendColumns (count : Nat) : (workspace.appendColumns count).Consistent := by
  refine ⟨consistent.rows, fun column member => ?_⟩
  rcases List.mem_append.mp member with old | new
  · exact consistent.columns column old
  · obtain rfl := List.eq_of_mem_replicate new
    rfl

theorem removeRows (doomed : List Nat) : (workspace.removeRows doomed).Consistent :=
  ⟨fun row member => consistent.rows row ((retainFrom_sublist _ _ _).subset member),
    consistent.columns⟩

theorem removeColumns (doomed : List Nat) : (workspace.removeColumns doomed).Consistent := by
  constructor
  · intro row member
    obtain ⟨old, inside, rfl⟩ := List.mem_map.mp member
    exact consistent.rows old inside
  · intro column member
    rw [Workspace.removeColumns, retainPlaced_placesFrom] at member
    exact consistent.columns column ((retainFrom_sublist _ _ _).subset member)

theorem changeKind [ComparableScalar K] {kind : Int} {change : WorkColumn K → WorkColumn K}
    (known : kindChange? kind = some change) (position : Nat) :
    (workspace.modifyColumn position change).Consistent := by
  refine consistent.modifyColumn (fun column kept => ?_) position
  unfold kindChange? at known
  split at known <;> cases known
  · exact kept
  · exact kept
  · exact decide_eq_true ComparableScalar.zero_lt_one

end Consistent

end Workspace

/-! ## Numbered changes -/

def Command.SetsConsistent : Command K → Prop
  | setRowBound _ type least greatest | setColumnBound _ type least greatest =>
      ∀ kind, Workspace.boundKind type = .ok kind →
        (Bound.ofKind kind least greatest).isConsistent = true
  | _ => True

theorem Workspace.Consistent.run [ComparableScalar K] {workspace next : Workspace K}
    (consistent : workspace.Consistent) {command : Command K} (sets : command.SetsConsistent)
    {number : Option Int} (ran : command.run workspace = .ok (next, number)) :
    next.Consistent := by
  cases Command.effect_of_run ran with
  | setName | setDirection | setConstant => exact ⟨consistent.rows, consistent.columns⟩
  | setRowName =>
      refine consistent.modifyRow ?_ _
      exact fun _ kept => kept
  | setColumnName =>
      refine consistent.modifyColumn ?_ _
      exact fun _ kept => kept
  | setCost =>
      refine (consistent.modifyColumn ?_ _).discard
      exact fun _ kept => kept
  | addRows => exact consistent.appendRows _
  | addColumns => exact consistent.appendColumns _
  | addNoRows | addNoColumns => exact consistent
  | setRowBound _ known => exact (consistent.modifyRow (fun _ _ => sets _ known) _).discard
  | setColumnBound _ known => exact (consistent.modifyColumn (fun _ _ => sets _ known) _).discard
  | setColumnKind _ known => exact (consistent.changeKind known _).discard
  | setRow => exact consistent.replaceRow _ _
  | setColumn => exact consistent.replaceColumn _ _
  | loadMatrix => exact consistent.replaceMatrix _
  | deleteRows => exact consistent.removeRows _
  | deleteColumns => exact consistent.removeColumns _

/-! ## Problems -/

section Problems

variable [ComparableScalar K] {problem next : Problem K}

theorem Problem.isConsistent_of_checkBound {kind : BoundKind} {lower upper : K} {bound : Bound K}
    (checked : checkBound kind lower upper = .ok bound) : bound.isConsistent = true := by
  rw [checkBound] at checked
  split at checked
  · cases checked
  · rename_i requested
    cases checked
    exact Bound.isConsistent_of_request requested

theorem Edit.setsConsistent_of_plan {cast : Cast K} {edit : Edit K} {command : Command K}
    (planned : edit.plan cast problem = .ok (some command)) : command.SetsConsistent := by
  have accepted {kind : BoundKind} {lower upper : K} {bound : Bound K}
      (checked : Problem.checkBound kind lower upper = .ok bound) :
      ∀ stored, Workspace.boundKind (Coded.code bound.kind) = .ok stored →
        (Bound.ofKind stored bound.lowerSide bound.upperSide).isConsistent = true := by
    intro stored known
    rw [Workspace.boundKind_code] at known
    obtain rfl := Except.ok.inj known
    rw [Bound.ofKind_sides]
    exact Problem.isConsistent_of_checkBound checked
  cases plans_of_plan planned
  case setRowBounds checked | setColumnBounds checked => exact accepted checked
  all_goals trivial

namespace Workspace.Consistent

variable (consistent : problem.workspace.Consistent)

include consistent

theorem edit {edit : Edit K} {index : Option Nat} (ran : edit.run problem = .ok (next, index)) :
    next.workspace.Consistent := by
  rcases Edit.plan_of_run ran with ⟨-, rfl⟩ | ⟨command, workspace, number, planned, called, rfl⟩
  · exact consistent
  · have kept := consistent.run (Edit.setsConsistent_of_plan planned) called
    split <;> exact kept

theorem respond (wellFormed : problem.workspace.WellFormed) {request : Request K}
    {result : Except (Failure K) (Return K)}
    (responds : request.respond problem = some (next, result)) : next.workspace.Consistent := by
  cases request with
  | edit update =>
      rcases Request.respond_edit responds with ⟨index, -, ran⟩ | ⟨-, rfl⟩
      · exact consistent.edit ran
      · exact consistent
  | inquire inquiry =>
      cases responds
      exact consistent
  | solve steps timing config =>
      obtain ⟨solved, ends, rfl, -⟩ := Request.respond_solve responds
      cases checked : Problem.accept config with
      | error failure =>
          rw [Problem.solveTimed_of_refused checked] at ends
          obtain rfl := Option.some.inj ends
          exact consistent
      | ok value =>
          exact consistent.of_sameData
            (Problem.solveTimed_concluded wellFormed checked ends).data

end Workspace.Consistent

/-- After every history all bounds are bounds that the solvers accept. -/
theorem History.consistent {events : List (Event K)} (history : History events problem) :
    problem.workspace.Consistent := by
  induction history with
  | create =>
      exact ⟨by simp [Problem.empty, Workspace.empty], by simp [Problem.empty, Workspace.empty]⟩
  | copy _ inductionHypothesis => exact inductionHypothesis.of_sameData ⟨rfl, rfl, rfl, rfl, rfl⟩
  | returned request earlier ends inductionHypothesis =>
      exact inductionHypothesis.respond earlier.wellFormed
        (Request.respond_of_returned earlier.wellFormed ends)
  | stopped request earlier ends ended inductionHypothesis =>
      obtain ⟨failure, responds, -⟩ := Request.respond_of_stopped earlier.wellFormed ends ended
      exact inductionHypothesis.respond earlier.wellFormed responds

end Problems

end LinearProgramming
