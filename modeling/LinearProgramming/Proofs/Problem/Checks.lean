import LinearProgramming.Proofs.Problem.Steps
import LinearProgramming.Proofs.Workspace.Admitted

/-!
# Checked changes

The checks of a change are enough.  On a well-formed workspace the numbered call that they let
through is not misused, and every number that it is handed fits into 32 bits, as long as no
list is longer than the largest of these numbers.
-/

namespace LinearProgramming

/-! ## Numbers in words -/

theorem Slots.narrow_of_lt {number : Nat} (small : number < Word.values31) :
    Slots.narrow number = number := by
  have doubled : 2 * number < Word.values32 :=
    Nat.lt_of_lt_of_eq (Nat.mul_lt_mul_of_pos_left small Nat.zero_lt_two) rfl
  exact Int.bmod_eq_of_le_mul_two (by omega) (by omega)

theorem Slots.widen_of_lt {number : Nat} (small : number < Word.values64) :
    Slots.widen number = number := by
  rw [widen, Int.emod_eq_of_lt (by omega) (by exact_mod_cast small)]
  rfl

theorem Cast.exact_of_lt {K : Type} {number : Nat} (small : number < Word.values31) :
    (exact number : Except (Stop K) Int) = .ok number := by
  rw [exact, if_pos (Slots.narrow_of_lt small)]
  rfl

theorem Cast.plain_of_lt {K : Type} {number : Nat} (small : number < Word.values31) :
    (plain number : Except (Stop K) Int) = .ok number := by
  rw [plain, Slots.narrow_of_lt small]
  rfl

theorem lt_values31_of_le {number : Nat} (le : number ≤ maxDimension) :
    number < Word.values31 :=
  Nat.lt_of_le_of_lt le (by decide)

theorem lt_values64_of_le {number : Nat} (le : number ≤ maxDimension) :
    number < Word.values64 :=
  Nat.lt_of_le_of_lt le (by decide)

theorem Workspace.HasRow.lt {K : Type} {workspace : Workspace K} {row : Nat}
    (inside : workspace.HasRow row) (limit : workspace.rows.length ≤ maxDimension) :
    row < Word.values31 :=
  lt_values31_of_le (Nat.le_trans (Int.ofNat_le.mp inside.2) limit)

theorem Workspace.HasColumn.lt {K : Type} {workspace : Workspace K} {column : Nat}
    (inside : workspace.HasColumn column) (limit : workspace.columns.length ≤ maxDimension) :
    column < Word.values31 :=
  lt_values31_of_le (Nat.le_trans (Int.ofNat_le.mp inside.2) limit)

theorem Workspace.widen_integerCount {K : Type} {workspace : Workspace K}
    (limit : workspace.columns.length ≤ maxDimension) :
    Slots.widen workspace.integerCount = workspace.integerColumns.length := by
  have fits : workspace.integerColumns.length ≤ workspace.columns.length := by
    simpa [integerColumns] using List.length_filterMap_le _ workspace.columns.zipIdx
  exact Slots.widen_of_lt (lt_values64_of_le (fits.trans limit))

/-! ## Refusals -/

/-- An error that tells what was wrong with a request.  That a number read back from a
workspace stands for nothing is no such error. -/
def Stop.IsRefusal {K : Type} : Stop K → Prop
  | .error (.invalidCode _) => False
  | .error _ => True
  | .halt _ => False
  | .inexact _ => False

theorem Stop.IsRefusal.exists_error {K : Type} {stop : Stop K} (refusal : stop.IsRefusal) :
    ∃ error, stop = .error error ∧ ∀ code, error ≠ .invalidCode code := by
  cases stop with
  | error error =>
      refine ⟨error, rfl, ?_⟩
      rintro code rfl
      exact refusal
  | halt halted => exact refusal.elim
  | inexact number => exact refusal.elim

def Refuses {K A : Type} (result : Except (Failure K) A) : Prop :=
  ∀ failure, result = .error failure → (Stop.ofFailure failure).IsRefusal

namespace Refuses

variable {K A B : Type}

theorem ok (value : A) : Refuses (.ok value : Except (Failure K) A) := nofun

theorem error {refusal : Error K} (refuses : (Stop.error refusal).IsRefusal) :
    Refuses (.error (.error refusal) : Except (Failure K) A) := by
  rintro failure ⟨⟩
  exact refuses

theorem bind {check : Except (Failure K) A} {rest : A → Except (Failure K) B}
    (first : Refuses check) (second : ∀ value, check = .ok value → Refuses (rest value)) :
    Refuses (check >>= rest) := by
  cases found : check with
  | error failure =>
      rintro _ ⟨⟩
      exact first failure found
  | ok value => exact second value found

theorem map {result : Except (Failure K) A} (refuses : Refuses result) (change : A → B) :
    Refuses (result.map change) := by
  cases result with
  | error failure =>
      rintro _ ⟨⟩
      exact refuses failure rfl
  | ok value => exact ok (change value)

theorem forM {check : A → Except (Failure K) Unit} (refuses : ∀ item, Refuses (check item))
    (items : List A) : Refuses (items.forM check) := by
  induction items with
  | nil => exact ok ()
  | cons item items inductionHypothesis =>
      exact (refuses item).bind fun _ _ => inductionHypothesis

end Refuses

theorem Except.forM_eq_ok_iff {E A : Type} {check : A → Except E Unit} {items : List A} :
    items.forM check = .ok () ↔ ∀ item ∈ items, check item = .ok () := by
  induction items with
  | nil => simp [pure, Except.pure]
  | cons first rest inductionHypothesis =>
      change (check first >>= fun _ => rest.forM check) = .ok () ↔ _
      rw [Except.bind_eq_ok_iff, List.forall_mem_cons]
      constructor
      · rintro ⟨_, head, tail⟩
        exact ⟨head, inductionHypothesis.mp tail⟩
      · exact fun checked => ⟨(), checked.1, inductionHypothesis.mpr checked.2⟩

theorem ensureSameLength_refuses {K : Type} (indices values : Nat) :
    Refuses ((ensureSameLength indices values : Except (Error K) Unit).mapError .error) := by
  rw [ensureSameLength]
  split
  · exact .ok ()
  · exact .error trivial

namespace Problem

variable {K : Type} {problem : Problem K}

theorem checkRow_refuses (problem : Problem K) (row : Nat) : Refuses (problem.checkRow row) := by
  rw [checkRow]
  split
  · exact .ok ()
  · exact .error trivial

theorem checkColumn_refuses (problem : Problem K) (column : Nat) :
    Refuses (problem.checkColumn column) := by
  rw [checkColumn]
  split
  · exact .ok ()
  · exact .error trivial

theorem checkName_refuses (name : Option String) :
    Refuses (checkName name : Except (Failure K) _) := by
  rw [checkName]
  split
  · exact .ok _
  · split
    · exact .error trivial
    · exact .ok _

theorem checkCount_refuses (target : String) (count : Nat) :
    Refuses (checkCount target count : Except (Failure K) _) := by
  rw [checkCount]
  split
  · exact .ok _
  · exact .error trivial

theorem checkBound_refuses [Scalar K] (kind : BoundKind) (lower upper : K) :
    Refuses (checkBound kind lower upper) := by
  rw [checkBound]
  split
  · exact .error trivial
  · exact .ok _

theorem checkDistinct_refuses (seen indices : List Nat) :
    Refuses (checkDistinct seen indices : Except (Failure K) _) := by
  induction indices generalizing seen with
  | nil => exact .ok ()
  | cons index rest inductionHypothesis =>
      rw [checkDistinct]
      split
      · exact .error trivial
      · exact inductionHypothesis (index :: seen)

theorem rowCount_eq (limit : problem.workspace.rows.length ≤ maxDimension) :
    problem.rowCount = problem.workspace.rows.length :=
  Slots.widen_of_lt (lt_values64_of_le limit)

theorem columnCount_eq (limit : problem.workspace.columns.length ≤ maxDimension) :
    problem.columnCount = problem.workspace.columns.length :=
  Slots.widen_of_lt (lt_values64_of_le limit)

theorem hasRow_of_checkRow (limit : problem.workspace.rows.length ≤ maxDimension) {row : Nat}
    (checked : problem.checkRow row = .ok ()) : problem.workspace.HasRow row := by
  rw [checkRow, rowCount_eq limit] at checked
  split at checked
  case isTrue inside => exact ⟨by omega, by omega⟩
  case isFalse => cases checked

theorem hasColumn_of_checkColumn (limit : problem.workspace.columns.length ≤ maxDimension)
    {column : Nat} (checked : problem.checkColumn column = .ok ()) :
    problem.workspace.HasColumn column := by
  rw [checkColumn, columnCount_eq limit] at checked
  split at checked
  case isTrue inside => exact ⟨by omega, by omega⟩
  case isFalse => cases checked

theorem forall_hasRow (limit : problem.workspace.rows.length ≤ maxDimension) {rows : List Nat}
    (checked : rows.forM problem.checkRow = .ok ()) :
    ∀ row ∈ rows, problem.workspace.HasRow row :=
  fun row listed => hasRow_of_checkRow limit (Except.forM_eq_ok_iff.mp checked row listed)

theorem forall_hasColumn (limit : problem.workspace.columns.length ≤ maxDimension)
    {columns : List Nat} (checked : columns.forM problem.checkColumn = .ok ()) :
    ∀ column ∈ columns, problem.workspace.HasColumn column :=
  fun column listed =>
    hasColumn_of_checkColumn limit (Except.forM_eq_ok_iff.mp checked column listed)

theorem checkDistinct_eq_ok_iff {seen indices : List Nat} :
    (checkDistinct seen indices : Except (Failure K) Unit) = .ok () ↔
      indices.Nodup ∧ ∀ index ∈ indices, index ∉ seen := by
  induction indices generalizing seen with
  | nil => simp [checkDistinct, pure, Except.pure]
  | cons index rest inductionHypothesis =>
      rw [checkDistinct, List.nodup_cons, List.forall_mem_cons]
      by_cases old : index ∈ seen
      · simp [old, throw, throwThe, MonadExceptOf.throw]
      · rw [if_neg (by simpa using old), inductionHypothesis]
        simp only [List.mem_cons, not_or, old, not_false_eq_true, true_and]
        constructor
        · rintro ⟨once, unseen⟩
          exact ⟨⟨fun member => (unseen index member).1 rfl, once⟩,
            fun other member => (unseen other member).2⟩
        · rintro ⟨⟨fresh, once⟩, unseen⟩
          refine ⟨once, fun other member => ⟨?_, unseen other member⟩⟩
          rintro rfl
          exact fresh member

end Problem

/-! ## Pairs and triplets -/

section Lists

variable {K : Type}

theorem mem_assign {index : Nat} {value : K} {pairs : List (Nat × K)} {pair : Nat × K}
    (member : pair ∈ assign index value pairs) : pair = (index, value) ∨ pair ∈ pairs := by
  induction pairs with
  | nil => exact .inl (List.mem_singleton.mp member)
  | cons first rest inductionHypothesis =>
      rw [assign] at member
      split at member
      · rcases List.mem_cons.mp member with equal | inside
        · exact .inl equal
        · exact .inr (List.mem_cons_of_mem _ inside)
      · rcases List.mem_cons.mp member with rfl | inside
        · exact .inr List.mem_cons_self
        · exact (inductionHypothesis inside).imp_right (List.mem_cons_of_mem _)

theorem length_assign_le (index : Nat) (value : K) (pairs : List (Nat × K)) :
    (assign index value pairs).length ≤ pairs.length + 1 := by
  induction pairs with
  | nil => exact Nat.le_refl _
  | cons first rest inductionHypothesis =>
      rw [assign]
      split
      · exact Nat.le_succ _
      · exact Nat.succ_le_succ inductionHypothesis

theorem mem_lastValues {pairs : List (Nat × K)} {pair : Nat × K}
    (member : pair ∈ lastValues pairs) : pair ∈ pairs := by
  -- The pairs that are assigned already have to stay in the statement.
  suffices general : ∀ start : List (Nat × K), ∀ pair ∈ pairs.foldl
      (fun values pair => assign pair.1 pair.2 values) start, pair ∈ start ∨ pair ∈ pairs from
    (general [] pair member).resolve_left List.not_mem_nil
  clear member
  induction pairs with
  | nil => exact fun start pair inside => .inl inside
  | cons first rest inductionHypothesis =>
      intro start pair inside
      rcases inductionHypothesis _ pair inside with assigned | listed
      · rcases mem_assign assigned with equal | old
        · exact .inr (List.mem_cons.mpr (.inl equal))
        · exact .inl old
      · exact .inr (List.mem_cons_of_mem _ listed)

theorem length_lastValues_le (pairs : List (Nat × K)) :
    (lastValues pairs).length ≤ pairs.length := by
  suffices general : ∀ start : List (Nat × K), (pairs.foldl
      (fun values pair => assign pair.1 pair.2 values) start).length ≤
        start.length + pairs.length by
    simpa [lastValues] using general []
  induction pairs with
  | nil => exact fun start => Nat.le_refl _
  | cons first rest inductionHypothesis =>
      intro start
      have assigned := length_assign_le first.1 first.2 start
      have others := inductionHypothesis (assign first.1 first.2 start)
      rw [List.foldl_cons, List.length_cons]
      omega

theorem mem_of_mem_lastValues_zip {indices : List Nat} {values : List K} {index : Nat}
    (member : index ∈ (lastValues (List.zip indices values)).map Prod.fst) : index ∈ indices := by
  obtain ⟨pair, stays, rfl⟩ := List.mem_map.mp member
  exact (List.of_mem_zip (mem_lastValues stays)).1

theorem length_lastValues_zip_lt {indices : List Nat} {bound : Nat}
    (short : indices.length < bound) (values : List K) :
    (lastValues (List.zip indices values)).length < bound := by
  have fewer := length_lastValues_le (List.zip indices values)
  rw [List.length_zip] at fewer
  omega

theorem lastWrites_sublist (entries : List (Nat × Nat × K)) :
    (SparseMatrix.lastWrites entries).Sublist entries := by
  induction entries with
  | nil => exact .slnil
  | cons entry rest inductionHypothesis =>
      rw [SparseMatrix.lastWrites]
      split
      · exact inductionHypothesis.cons entry
      · exact inductionHypothesis.cons_cons entry

theorem resolved_sublist (matrix : SparseMatrix K) :
    matrix.resolved.toList.Sublist matrix.toList := by
  rw [SparseMatrix.resolved, toList_ofList]
  exact lastWrites_sublist matrix.toList

end Lists

/-! ## Changes that are careful -/

/-- A plan that passes every number on as it is, is given up only for a refusal, and ends with
a numbered call that goes through. -/
structure Careful {K : Type} [Scalar K] (problem : Problem K)
    (plan : Cast K → Except (Stop K) (Option (Command K))) : Prop where
  exact : plan .exact = plan .plain
  refused : ∀ stop, plan .plain = .error stop → stop.IsRefusal
  runs : ∀ command, plan .plain = .ok (some command) →
    ∃ result, command.run problem.workspace = .ok result

namespace Careful

variable {K A : Type} [Scalar K] {problem : Problem K}

theorem idle : Careful problem fun _ => pure none where
  exact := rfl
  refused := nofun
  runs := nofun

theorem call {command : Command K} {result : Workspace K × Option Int}
    (goes : command.run problem.workspace = .ok result) :
    Careful problem fun _ => pure (some command) where
  exact := rfl
  refused := nofun
  runs := by
    rintro _ ⟨⟩
    exact ⟨result, goes⟩

theorem change {command : Command K} {result : Except Misuse (Workspace K)}
    (ran : command.run problem.workspace = result >>= fun next => pure (next, none))
    (goes : ∃ next, result = .ok next) : Careful problem fun _ => pure (some command) := by
  obtain ⟨next, rfl⟩ := goes
  exact call ran

theorem check {test : Except (Failure K) A} (refuses : Refuses test)
    {rest : Cast K → A → Except (Stop K) (Option (Command K))}
    (goes : ∀ value, test = .ok value → Careful problem fun cast => rest cast value) :
    Careful problem fun cast => Stop.lift test >>= rest cast := by
  cases found : test with
  | error failure =>
      have stopped : (Stop.lift (.error failure) : Except (Stop K) A) =
          .error (Stop.ofFailure failure) := rfl
      simp only [stopped, Except.error_bind]
      refine ⟨rfl, ?_, nofun⟩
      rintro _ ⟨⟩
      exact refuses failure found
  | ok value => exact goes value found

section Positions

open Problem

variable (wellFormed : problem.workspace.WellFormed)
  {rest : Cast K → Unit → Except (Stop K) (Option (Command K))}

include wellFormed

theorem row {row : Nat}
    (goes : problem.workspace.HasRow row → Careful problem fun cast => rest cast ()) :
    Careful problem fun cast => Stop.lift (problem.checkRow row) >>= rest cast :=
  check (problem.checkRow_refuses row) fun _ checked =>
    goes (hasRow_of_checkRow wellFormed.rowLimit checked)

theorem column {column : Nat}
    (goes : problem.workspace.HasColumn column → Careful problem fun cast => rest cast ()) :
    Careful problem fun cast => Stop.lift (problem.checkColumn column) >>= rest cast :=
  check (problem.checkColumn_refuses column) fun _ checked =>
    goes (hasColumn_of_checkColumn wellFormed.columnLimit checked)

theorem rows {rows : List Nat}
    (goes : (∀ row : Nat, row ∈ rows → problem.workspace.HasRow row) →
      Careful problem fun cast => rest cast ()) :
    Careful problem fun cast => Stop.lift (rows.forM problem.checkRow) >>= rest cast :=
  check (.forM problem.checkRow_refuses rows) fun _ checked =>
    goes (forall_hasRow wellFormed.rowLimit checked)

theorem columns {columns : List Nat}
    (goes : (∀ column : Nat, column ∈ columns → problem.workspace.HasColumn column) →
      Careful problem fun cast => rest cast ()) :
    Careful problem fun cast => Stop.lift (columns.forM problem.checkColumn) >>= rest cast :=
  check (.forM problem.checkColumn_refuses columns) fun _ checked =>
    goes (forall_hasColumn wellFormed.columnLimit checked)

end Positions

/-- A number that fits is handed over as it is. -/
theorem cast {number : Nat} (small : number < Word.values31)
    {rest : Cast K → Int → Except (Stop K) (Option (Command K))}
    (goes : Careful problem fun cast => rest cast number) :
    Careful problem fun cast => cast number >>= rest cast := by
  constructor
  · simpa only [Cast.exact_of_lt small, Cast.plain_of_lt small, Except.ok_bind] using goes.exact
  · simpa only [Cast.plain_of_lt small, Except.ok_bind] using goes.refused
  · simpa only [Cast.plain_of_lt small, Except.ok_bind] using goes.runs

theorem casts {numbers : List Nat} (small : ∀ number ∈ numbers, number < Word.values31)
    {rest : Cast K → List Int → Except (Stop K) (Option (Command K))}
    (goes : Careful problem fun cast => rest cast (numbers.map (↑))) :
    Careful problem fun cast => numbers.mapM cast >>= rest cast := by
  have exactly : numbers.mapM (Cast.exact : Cast K) = .ok (numbers.map (↑)) :=
    Except.mapM_eq_map _ fun number member => Cast.exact_of_lt (small number member)
  have plainly : numbers.mapM (Cast.plain : Cast K) = .ok (numbers.map (↑)) :=
    Except.mapM_eq_map _ fun number member => Cast.plain_of_lt (small number member)
  constructor
  · simpa only [exactly, plainly, Except.ok_bind] using goes.exact
  · simpa only [plainly, Except.ok_bind] using goes.refused
  · simpa only [plainly, Except.ok_bind] using goes.runs

end Careful

namespace Edit

open Problem

variable {K : Type} [Scalar K] {problem : Problem K}

def Short : Edit K → Prop
  | setRowCoefficients _ columns _ => columns.length < Word.values31
  | setColumnCoefficients _ rows _ => rows.length < Word.values31
  | loadMatrix matrix => matrix.toList.length < Word.values31
  | deleteRows rows => rows.length < Word.values31
  | deleteColumns columns => columns.length < Word.values31
  | _ => True

def IsCareful (problem : Problem K) (edit : Edit K) : Prop :=
  Careful problem fun cast => edit.plan cast problem

section Plans

variable {row column count : Nat} {name : Option String} {direction : Direction} {value : K}
  {boundKind : BoundKind} {lower upper : K} {kind : VariableKind} {rows columns : List Nat}
  {values : List K} {matrix : SparseMatrix K}

theorem careful_setName : IsCareful problem (.setName name) := by
  simp only [IsCareful, plan]
  apply Careful.check (checkName_refuses name)
  intro stored _
  exact .call rfl

theorem careful_setDirection : IsCareful problem (.setDirection direction) := by
  exact .change rfl (Workspace.exists_setDirection _ direction)

theorem careful_setObjectiveConstant : IsCareful problem (.setObjectiveConstant value) := by
  exact .change rfl (Workspace.exists_setConstant _ value)

theorem careful_addRows : IsCareful problem (.addRows count) := by
  simp only [IsCareful, plan]
  split
  · exact .idle
  · apply Careful.check (checkCount_refuses "rows" count)
    intro requested _
    exact .call rfl

theorem careful_addColumns : IsCareful problem (.addColumns count) := by
  simp only [IsCareful, plan]
  split
  · exact .idle
  · apply Careful.check (checkCount_refuses "columns" count)
    intro requested _
    exact .call rfl

variable (wellFormed : problem.workspace.WellFormed)

include wellFormed

theorem careful_setRowName : IsCareful problem (.setRowName row name) := by
  simp only [IsCareful, plan]
  apply Careful.row wellFormed
  intro found
  apply Careful.check (checkName_refuses name)
  intro stored _
  apply Careful.cast (found.lt wellFormed.rowLimit)
  exact .change rfl (found.setRowName stored)

theorem careful_setColumnName : IsCareful problem (.setColumnName column name) := by
  simp only [IsCareful, plan]
  apply Careful.column wellFormed
  intro found
  apply Careful.check (checkName_refuses name)
  intro stored _
  apply Careful.cast (found.lt wellFormed.columnLimit)
  exact .change rfl (found.setColumnName stored)

theorem careful_setObjectiveCoefficient :
    IsCareful problem (.setObjectiveCoefficient column value) := by
  simp only [IsCareful, plan]
  apply Careful.column wellFormed
  intro found
  apply Careful.cast (found.lt wellFormed.columnLimit)
  exact .change rfl (found.setObjective value)

theorem careful_setRowBounds : IsCareful problem (.setRowBounds row boundKind lower upper) := by
  simp only [IsCareful, plan]
  apply Careful.row wellFormed
  intro found
  apply Careful.check (checkBound_refuses boundKind lower upper)
  intro bound _
  apply Careful.cast (found.lt wellFormed.rowLimit)
  exact .change rfl (found.setRowBound bound.kind _ _)

theorem careful_setColumnBounds :
    IsCareful problem (.setColumnBounds column boundKind lower upper) := by
  simp only [IsCareful, plan]
  apply Careful.column wellFormed
  intro found
  apply Careful.check (checkBound_refuses boundKind lower upper)
  intro bound _
  apply Careful.cast (found.lt wellFormed.columnLimit)
  exact .change rfl (found.setColumnBound bound.kind _ _)

theorem careful_setColumnKind : IsCareful problem (.setColumnKind column kind) := by
  simp only [IsCareful, plan]
  apply Careful.column wellFormed
  intro found
  apply Careful.cast (found.lt wellFormed.columnLimit)
  exact .change rfl (found.setColumnKind kind)

theorem careful_setRowCoefficients (short : columns.length < Word.values31) :
    IsCareful problem (.setRowCoefficients row columns values) := by
  simp only [IsCareful, plan]
  apply Careful.check (ensureSameLength_refuses columns.length values.length)
  intro _ _
  apply Careful.row wellFormed
  intro found
  apply Careful.columns wellFormed
  intro listed
  apply Careful.casts fun column stays =>
    (listed column (mem_of_mem_lastValues_zip stays)).lt wellFormed.columnLimit
  apply Careful.cast (found.lt wellFormed.rowLimit)
  apply Careful.cast (length_lastValues_zip_lt short values)
  refine .change rfl ⟨_, found.setRow_eq _ ?_ _⟩
  intro number member
  obtain ⟨column, stays, rfl⟩ := List.mem_map.mp member
  exact listed column (mem_of_mem_lastValues_zip stays)

theorem careful_setColumnCoefficients (short : rows.length < Word.values31) :
    IsCareful problem (.setColumnCoefficients column rows values) := by
  simp only [IsCareful, plan]
  apply Careful.check (ensureSameLength_refuses rows.length values.length)
  intro _ _
  apply Careful.column wellFormed
  intro found
  apply Careful.rows wellFormed
  intro listed
  apply Careful.casts fun row stays =>
    (listed row (mem_of_mem_lastValues_zip stays)).lt wellFormed.rowLimit
  apply Careful.cast (found.lt wellFormed.columnLimit)
  apply Careful.cast (length_lastValues_zip_lt short values)
  refine .change rfl ⟨_, found.setColumn_eq _ ?_ _⟩
  intro number member
  obtain ⟨row, stays, rfl⟩ := List.mem_map.mp member
  exact listed row (mem_of_mem_lastValues_zip stays)

omit [Scalar K] in
theorem hasCell_of_checks {done : Unit}
    (checked : (matrix.toList.forM fun entry => do
      problem.checkRow entry.1
      problem.checkColumn entry.2.1) = .ok done) :
    ∀ entry ∈ matrix.resolved.toList,
      problem.workspace.HasRow entry.1 ∧ problem.workspace.HasColumn entry.2.1 := by
  intro entry member
  obtain ⟨_, row, column⟩ := Except.bind_eq_ok_iff.mp
    (Except.forM_eq_ok_iff.mp checked entry ((resolved_sublist matrix).subset member))
  exact ⟨hasRow_of_checkRow wellFormed.rowLimit row,
    hasColumn_of_checkColumn wellFormed.columnLimit column⟩

theorem careful_loadMatrix (short : matrix.toList.length < Word.values31) :
    IsCareful problem (.loadMatrix matrix) := by
  simp only [IsCareful, plan]
  apply Careful.check (.forM (fun entry => (problem.checkRow_refuses entry.1).bind
    fun _ _ => problem.checkColumn_refuses entry.2.1) matrix.toList)
  intro _ checked
  have listed := hasCell_of_checks wellFormed checked
  have rows : ∀ row : Nat, row ∈ matrix.resolved.toList.map (·.1) →
      problem.workspace.HasRow row :=
    List.forall_mem_map.mpr fun entry member => (listed entry member).1
  have columns : ∀ column : Nat, column ∈ matrix.resolved.toList.map (·.2.1) →
      problem.workspace.HasColumn column :=
    List.forall_mem_map.mpr fun entry member => (listed entry member).2
  apply Careful.casts fun row member => (rows row member).lt wellFormed.rowLimit
  apply Careful.casts fun column member => (columns column member).lt wellFormed.columnLimit
  apply Careful.cast (Nat.lt_of_le_of_lt (resolved_sublist matrix).length_le short)
  exact .change rfl ⟨_, Workspace.loadMatrix_eq _ (List.forall_mem_map.mpr rows)
    (List.forall_mem_map.mpr columns) _⟩

theorem careful_deleteRows (short : rows.length < Word.values31) :
    IsCareful problem (.deleteRows rows) := by
  simp only [IsCareful, plan]
  apply Careful.rows wellFormed
  intro listed
  apply Careful.check (checkDistinct_refuses [] rows)
  intro _ once
  split
  · exact .idle
  · apply Careful.casts fun row member => (listed row member).lt wellFormed.rowLimit
    apply Careful.cast short
    have numbers := Workspace.deleteRows_eq (List.forall_mem_map.mpr listed)
      ((checkDistinct_eq_ok_iff.mp once).1.map fun _ _ => Int.ofNat.inj)
    rw [List.length_map] at numbers
    exact .change rfl ⟨_, numbers⟩

theorem careful_deleteColumns (short : columns.length < Word.values31) :
    IsCareful problem (.deleteColumns columns) := by
  simp only [IsCareful, plan]
  apply Careful.columns wellFormed
  intro listed
  apply Careful.check (checkDistinct_refuses [] columns)
  intro _ once
  split
  · exact .idle
  · apply Careful.casts fun column member => (listed column member).lt wellFormed.columnLimit
    apply Careful.cast short
    have numbers := Workspace.deleteColumns_eq wellFormed.toInRange
      (List.forall_mem_map.mpr listed)
      ((checkDistinct_eq_ok_iff.mp once).1.map fun _ _ => Int.ofNat.inj)
    rw [List.length_map] at numbers
    exact .change rfl ⟨_, numbers⟩

end Plans

/-- The checks of every change are enough. -/
theorem plan_careful (wellFormed : problem.workspace.WellFormed) {edit : Edit K}
    (short : edit.Short) : Careful problem fun cast => edit.plan cast problem := by
  cases edit with
  | setName => exact careful_setName
  | setRowName => exact careful_setRowName wellFormed
  | setColumnName => exact careful_setColumnName wellFormed
  | setDirection => exact careful_setDirection
  | setObjectiveCoefficient => exact careful_setObjectiveCoefficient wellFormed
  | setObjectiveConstant => exact careful_setObjectiveConstant
  | addRows => exact careful_addRows
  | addColumns => exact careful_addColumns
  | setRowBounds => exact careful_setRowBounds wellFormed
  | setColumnBounds => exact careful_setColumnBounds wellFormed
  | setColumnKind => exact careful_setColumnKind wellFormed
  | setRowCoefficients => exact careful_setRowCoefficients wellFormed short
  | setColumnCoefficients => exact careful_setColumnCoefficients wellFormed short
  | loadMatrix => exact careful_loadMatrix wellFormed short
  | deleteRows => exact careful_deleteRows wellFormed short
  | deleteColumns => exact careful_deleteColumns wellFormed short

/-- Step by step and with every number passed on as it is, a short change of a well-formed
problem does what its definition says. -/
theorem run_exact (wellFormed : problem.workspace.WellFormed) {edit : Edit K}
    (short : edit.Short) :
    (edit.steps .exact).run problem = Stepwise.whole problem (Stop.lift (edit.run problem)) := by
  rw [run_steps wellFormed, (plan_careful wellFormed short).exact, plan_complete]

omit [Scalar K] in
theorem settle_refuses {edit : Edit K} {number : Option Int} {stop : Stop K}
    (settled : edit.settle problem number = .error stop) : stop.IsRefusal := by
  rw [settle] at settled
  split at settled
  · split at settled
    · cases settled
      trivial
    · cases settled
  · cases settled

theorem run_refuses (wellFormed : problem.workspace.WellFormed) {edit : Edit K}
    (short : edit.Short) : Refuses (edit.run problem) := by
  have careful := plan_careful wellFormed short
  intro failure failed
  have done : edit.plan .plain problem >>= edit.complete problem =
      .error (Stop.ofFailure failure) := by
    rw [plan_complete, failed]
    rfl
  cases planned : edit.plan .plain problem with
  | error stop =>
      rw [planned, Except.error_bind] at done
      exact Except.error.inj done ▸ careful.refused stop planned
  | ok call =>
      rw [planned, Except.ok_bind] at done
      cases call with
      | none => cases done
      | some command =>
          obtain ⟨⟨workspace, number⟩, ran⟩ := careful.runs command planned
          rw [complete, ran] at done
          exact settle_refuses done

end Edit

end LinearProgramming
