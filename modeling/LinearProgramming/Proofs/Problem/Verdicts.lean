import LinearProgramming.Proofs.Simplex.Limits
import LinearProgramming.Proofs.Problem.Infeasible
import LinearProgramming.Proofs.Presolve
import LinearProgramming.Proofs.Workspace.Consistent

/-!
# Verdicts on consistent workspaces

Where all bounds are consistent, a run of the simplex method comes to a verdict unless there are no
columns, and one of the interior-point method unless there are no rows or columns, or it fails for
numerical reasons.  A search in time comes to a verdict unless an integer column has a side that is
finite and not whole.
-/

namespace LinearProgramming

variable {K : Type} [Scalar K]

/-! ## Verdicts on one run -/

omit [Scalar K] in
theorem Problem.exists_record_of_meaning {algorithm : Algorithm}
    {table : ReturnCode → Option (Meaning K)} {code : ReturnCode} {meaning : Meaning K}
    (meant : table code = some meaning) (holds : ∀ error, meaning ≠ .fails error)
    (stored : PointStatus) : ∃ record, verdict algorithm table code stored = .ok record := by
  obtain ⟨reported, decoded⟩ := exists_decode_status (K := K) stored
  have interpreted : interpret algorithm table code = .ok meaning := by
    rw [interpret, meant]
    cases meaning with
    | fails error => exact absurd rfl (holds error)
    | solved | limit | status => rfl
  rw [verdict, interpreted]
  change ∃ record, settle meaning stored.code = .ok record
  rw [settle, decoded, Except.ok_bind]
  split <;> exact ⟨_, rfl⟩

namespace Simplex

variable {options : Options K} {clock : Clock} {program : Program K}

theorem code_of_empty (empty : program.columns = []) :
    (solve options clock program).code = .failed := by
  rw [solve, empty]
  rfl

theorem exists_point_of_consistent (options : Options K) (clock : Clock)
    (nonempty : program.columns ≠ []) (consistent : program.boundsConsistent = true) :
    ∃ point, (solve options clock program).point = some point := by
  have some : program.columns.isEmpty = false := List.isEmpty_eq_false_iff.mpr nonempty
  simp only [solve, some, consistent, Bool.not_true, Bool.false_eq_true, if_false]
  split
  · exact ⟨_, rfl⟩
  · exact ⟨_, rfl⟩
  · split <;> exact ⟨_, rfl⟩

end Simplex

namespace Interior

variable {program : Program K}

theorem code_of_empty (empty : program.rows = [] ∨ program.columns = []) :
    (solve program).code = .failed := by
  rcases empty with empty | empty <;> simp [solve, empty, Outcome.rejected]

theorem Final.code_ne_failed (form : StandardForm K) (program : Program K) (final : Final K) :
    (final.outcome form program).code ≠ .failed := by
  rw [Final.outcome]
  split <;> rintro ⟨⟩

theorem code_solveUnconstrained_ne_failed (form : StandardForm K) (program : Program K)
    (equality : EqualityForm K) : (solveUnconstrained form program equality).code ≠ .failed := by
  rw [solveUnconstrained]
  split <;> rintro ⟨⟩

theorem code_ne_failed (rows : program.rows ≠ []) (columns : program.columns ≠ [])
    (consistent : program.boundsConsistent = true) : (solve program).code ≠ .failed := by
  have someRow : program.rows.isEmpty = false := List.isEmpty_eq_false_iff.mpr rows
  have someColumn : program.columns.isEmpty = false := List.isEmpty_eq_false_iff.mpr columns
  simp only [solve, someRow, someColumn, consistent, Bool.not_true, Bool.or_self,
    Bool.false_eq_true, if_false]
  split
  · exact code_solveUnconstrained_ne_failed _ _ _
  split
  · rintro ⟨⟩
  · exact Final.code_ne_failed _ _ _

end Interior

namespace Workspace

variable {workspace : Workspace K} {clock : Clock} {config : SimplexConfig K}

omit [Scalar K] in
theorem program_rows_ne_nil (nonempty : workspace.rows ≠ []) : workspace.program.rows ≠ [] := by
  simpa only [program, ne_eq, List.map_eq_nil_iff] using nonempty

omit [Scalar K] in
theorem program_columns_ne_nil (nonempty : workspace.columns ≠ []) :
    workspace.program.columns ≠ [] := by
  simpa only [program, ne_eq, List.map_eq_nil_iff] using nonempty

def rejection {K : Type} (algorithm : Algorithm) : Failure K :=
  .error (.engineFailure algorithm ReturnCode.failed.code)

theorem simplexVerdict_of_empty (empty : workspace.columns = []) :
    workspace.simplexVerdict clock config = .error (rejection .simplex) := by
  have code : (Simplex.solve config.toOptions clock workspace.program).code = .failed := by
    apply Simplex.code_of_empty
    rw [program, empty]
    rfl
  rw [simplexVerdict]
  change Problem.verdict .simplex simplexMeaning
    (Simplex.solve config.toOptions clock workspace.program).code _ = _
  rw [code]
  rfl

/-- A simplex run on a consistent workspace with columns comes to a verdict. -/
theorem exists_record_of_consistent (consistent : workspace.Consistent)
    (nonempty : workspace.columns ≠ []) (clock : Clock) (config : SimplexConfig K) :
    ∃ record, workspace.simplexVerdict clock config = .ok record := by
  obtain ⟨code, status, _, ended, judged, -, rfl⟩ := workspace.simplexVerdict_ends clock config
  obtain ⟨point, found⟩ := Simplex.exists_point_of_consistent config.toOptions clock
    (program_columns_ne_nil nonempty) consistent.program
  change (workspace.simplexTimed clock config.toOptions).2.point = some point at found
  rw [found] at ended
  rw [judged]
  -- A run that is not rejected leaves a point, so the two rejections are no cases here.
  cases ended with
  | stoppedEarly _ limit | stopped _ limit => cases limit <;> exact ⟨_, rfl⟩
  | _ => exact ⟨_, rfl⟩

theorem interiorVerdict_of_empty (empty : workspace.rows = [] ∨ workspace.columns = []) :
    workspace.interiorVerdict = .error (rejection .interiorPoint) := by
  have code : (Interior.solve workspace.program).code = .failed := by
    apply Interior.code_of_empty
    simpa only [program, List.map_eq_nil_iff] using empty
  rw [interiorVerdict]
  change Problem.verdict .interiorPoint interiorMeaning
    (Interior.solve workspace.program).code _ = _
  rw [code]
  rfl

theorem failure_of_interiorVerdict (consistent : workspace.Consistent)
    (rows : workspace.rows ≠ []) (columns : workspace.columns ≠ []) {failure : Failure K}
    (failed : workspace.interiorVerdict = .error failure) :
    failure = .error (.noConvergence .interiorPoint) ∨
      failure = .error (.numericalInstability .interiorPoint) := by
  obtain ⟨code, status, point, ended, judged, coded⟩ := workspace.interiorVerdict_ends
  have accepted : (Interior.solve workspace.program).code ≠ .failed :=
    Interior.code_ne_failed (program_rows_ne_nil rows) (program_columns_ne_nil columns)
      consistent.program
  rw [coded] at accepted
  rw [judged] at failed
  cases ended with
  | rejected => exact absurd rfl accepted
  | stalled =>
      cases failed
      exact .inl rfl
  | unstable =>
      cases failed
      exact .inr rfl
  | _ => cases failed

end Workspace

namespace Outline

omit [Scalar K]

theorem answer_ofVerdict_eq_error_iff {workspace : Workspace K} {algorithm : Algorithm}
    {judged : Except (Failure K) SolveRecord} {failure : Failure K} :
    (ofVerdict workspace algorithm judged).answer = .error failure ↔ judged = .error failure := by
  cases judged <;> constructor <;> rintro ⟨⟩ <;> rfl

theorem answer_ofSearch_eq_error_iff {relaxation : SolveRecord} {next : Workspace K}
    {judged : Except (Failure K) SolveRecord} {failure : Failure K} :
    (ofSearch relaxation next judged).answer = .error failure ↔ judged = .error failure := by
  cases judged <;> constructor <;> rintro ⟨⟩ <;> rfl

end Outline

/-! ## Verdicts on searches -/

def Bound.HasFraction (bound : Bound K) : Prop :=
  ∃ side, (bound.lower? = some side ∨ bound.upper? = some side) ∧
    Scalar.isFinite side = true ∧ (side == Scalar.floor side) = false

theorem Bound.isWhole_eq_false_iff (bound : Bound K) :
    bound.isWhole = false ↔ bound.HasFraction := by
  cases bound <;>
    simp [-Bool.and_eq_false_imp, Bool.and_eq_false_iff, isWhole, HasFraction, lower?, upper?,
      Scalar.isWhole]

/-- The relaxation that a branch and cut presolves, if it does, makes fewer pivots than the
limit. -/
def SolverConfig.PresolvesBelow (limit : Nat) (timing : Timing) (program : Program K) :
    SolverConfig K → Prop
  | .simplex _ => True
  | .interior _ => True
  | .branchCut config => config.presolve = true →
      (Simplex.solve config.toOptions.nodeOptions timing.root program).iterations < limit

theorem Search.Options.watchesObjective_nodeOptions [ComparableScalar K]
    (options : Search.Options K) : options.nodeOptions.watchesObjective = false := by
  simp [nodeOptions, Simplex.Options.watchesObjective, Simplex.Options.standard,
    ComparableScalar.lt_irrefl]

namespace Workspace

variable {workspace next : Workspace K} {timing : Timing} {options : Search.Options K}

def HasFractionalBound (workspace : Workspace K) : Prop :=
  ∃ column ∈ workspace.columns, column.integral = true ∧ column.bound.HasFraction

theorem integerBoundsWhole_eq_false_iff :
    workspace.integerBoundsWhole = false ↔ workspace.HasFractionalBound := by
  simp [integerBoundsWhole, HasFractionalBound, Bound.isWhole_eq_false_iff]

section Admission

variable (consistent : workspace.Consistent) (nonempty : workspace.columns ≠ [])

include consistent nonempty

theorem admission_eq_of_consistent (clock : Clock) :
    workspace.admission clock options =
      if workspace.integerBoundsWhole = false then .refuse .incorrectBounds none
      else if options.presolves then
        admitRelaxed (Simplex.solve options.nodeOptions clock workspace.program).status
      else if workspace.basic.status = .optimal then .search
      else .refuse .noOptimalRoot none := by
  have some : workspace.program.columns.isEmpty = false :=
    List.isEmpty_eq_false_iff.mpr (program_columns_ne_nil nonempty)
  simp [admission, admissionBy, some, consistent.program]

/-- A search without fractional bounds is admitted, or refused for what presolving finds. -/
theorem admission_of_whole [ComparableScalar K] (whole : ¬ workspace.HasFractionalBound)
    (optimal : workspace.basic.status = .optimal)
    (below : timing.root.Below options.timeLimit)
    (few : options.presolves = true →
      (Simplex.solve options.nodeOptions timing.root workspace.program).iterations < 2 ^ 31 - 1) :
    workspace.admission timing.root options = .search ∨
      workspace.admission timing.root options = .refuse .noPrimalFeasible (some .noneFeasible) ∨
      workspace.admission timing.root options = .refuse .noDualFeasible none := by
  rw [admission_eq_of_consistent consistent nonempty,
    if_neg (mt integerBoundsWhole_eq_false_iff.mp whole), if_pos optimal]
  split
  · rename_i presolves
    have decided := Simplex.decided_of_few_pivots options.nodeOptions below
      options.watchesObjective_nodeOptions rfl (program_columns_ne_nil nonempty)
      consistent.program (few presolves)
    rcases decided with status | status | status <;> rw [status]
    · exact .inl rfl
    · exact .inr (.inl rfl)
    · exact .inr (.inr rfl)
  · exact .inl rfl

/-- A search fails if it is refused for a fractional bound, and in no other way. -/
theorem SearchCall.failure_iff [ComparableScalar K] {steps : Nat} {run : IntegerRun K}
    (call : SearchCall steps workspace timing options next run)
    (optimal : workspace.basic.status = .optimal)
    (below : timing.root.Below options.timeLimit)
    (few : options.presolves = true →
      (Simplex.solve options.nodeOptions timing.root workspace.program).iterations < 2 ^ 31 - 1)
    (failure : Failure K) :
    next.searchVerdict run = .error failure ↔
      workspace.HasFractionalBound ∧ failure = .error (.incorrectBounds .branchCut) := by
  -- The bounds are tested before anything is presolved or searched.
  by_cases fractional : workspace.HasFractionalBound
  · have refused : workspace.admission timing.root options = .refuse .incorrectBounds none := by
      rw [admission_eq_of_consistent consistent nonempty,
        if_pos (integerBoundsWhole_eq_false_iff.mpr fractional)]
    cases call with
    | refused code status refuses =>
        obtain ⟨rfl, -⟩ := Admission.refuse.inj (refuses.symm.trans refused)
        exact ⟨fun failed => ⟨fractional, (Except.error.inj failed).symm⟩,
          fun failed => congrArg Except.error failed.2.symm⟩
    | searched result admits found => cases admits.symm.trans refused
  · have succeeds : ∃ record, next.searchVerdict run = .ok record := by
      have admitted := admission_of_whole consistent nonempty fractional optimal below few
      cases call with
      | refused code status refuses =>
          rw [refuses] at admitted
          rcases admitted with ⟨⟨⟩⟩ | ⟨⟨⟩⟩ | ⟨⟨⟩⟩
          · exact ⟨_, Problem.verdict_of_status rfl _⟩
          · exact ⟨_, Problem.verdict_of_status rfl _⟩
      | searched result admits found =>
          rw [searchVerdict]
          rcases Search.code_of_searchTimed found with code | code | code <;> rw [code] <;>
            exact Problem.exists_record_of_meaning rfl (by rintro _ ⟨⟩) _
    obtain ⟨record, settled⟩ := succeeds
    rw [settled]
    constructor
    · rintro ⟨⟩
    · exact fun failed => absurd failed.1 fractional

end Admission

theorem failure_iff_of_ofRelaxation [ComparableScalar K] {steps : Nat}
    {config : BranchCutConfig K} {outline : Outline K} (consistent : workspace.Consistent)
    (nonempty : workspace.columns ≠ [])
    (outlined : Outline.ofRelaxation steps timing config (workspace.relaxed timing config)
      (workspace.relaxationVerdict timing config) = some outline)
    (below : timing.root.Below config.toOptions.timeLimit)
    (few : config.presolve = true →
      (Simplex.solve config.toOptions.nodeOptions timing.root workspace.program).iterations <
        2 ^ 31 - 1) (failure : Failure K) :
    outline.answer = .error failure ↔
      (∃ relaxation, workspace.simplexVerdict timing.simplex config.relaxation = .ok relaxation ∧
        relaxation.status = .optimal) ∧
      workspace.HasFractionalBound ∧ failure = .error (.incorrectBounds .branchCut) := by
  obtain ⟨relaxation, settled⟩ := exists_record_of_consistent consistent nonempty timing.simplex
    config.relaxation
  have judged : workspace.relaxationVerdict timing config = .ok relaxation := settled
  rw [judged, Outline.ofRelaxation] at outlined
  rw [settled]
  by_cases optimal : relaxation.status = .optimal
  · rw [if_pos optimal] at outlined
    obtain ⟨⟨next, run⟩, called, rfl⟩ := Option.map_eq_some_iff.mp outlined
    have relaxed := consistent.of_sameData (simplexTimed_sameData workspace timing.simplex
      config.relaxation.toOptions)
    have failed := (integerSearchTimed_eq_some_iff.mp called).failure_iff relaxed nonempty
      (status_of_optimal settled optimal) below
      (fun presolves => few (config.presolves_toOptions ▸ presolves)) failure
    rw [Outline.answer_ofSearch_eq_error_iff, failed]
    exact ⟨fun fractional => ⟨⟨relaxation, rfl, optimal⟩, fractional⟩, fun both => both.2⟩
  · rw [if_neg optimal] at outlined
    obtain rfl := Option.some.inj outlined
    constructor
    · rintro ⟨⟩
    · rintro ⟨⟨_, ⟨⟩, found⟩, -⟩
      exact absurd found optimal

omit [Scalar K] in
theorem integerCount_eq_zero_iff (limit : workspace.columns.length ≤ maxDimension) :
    Slots.widen workspace.integerCount = 0 ↔
      ∀ column ∈ workspace.columns, column.integral = false := by
  rw [widen_integerCount limit, List.length_eq_zero_iff, List.eq_nil_iff_forall_not_mem]
  constructor
  · intro none column member
    obtain ⟨index, found⟩ := List.getElem?_of_mem member
    have continuous := none index
    rw [mem_integerColumns_iff] at continuous
    exact Bool.eq_false_iff.mpr fun integral => continuous ⟨column, found, integral⟩
  · intro continuous index member
    obtain ⟨column, found, integral⟩ := mem_integerColumns_iff.mp member
    rw [continuous column (List.mem_of_getElem? found)] at integral
    cases integral

end Workspace

end LinearProgramming
