import LinearProgramming.Proofs.Feasibility

/-!
# The standard form as an exact reformulation

The values of the variables that are feasible for the standard form of a program
are mapped onto its feasible points, and the objectives differ by a constant and
the sign of the direction.
-/

namespace LinearProgramming

variable {K : Type} [ExactScalar K]

namespace Substitution

/-- Values of a column's variables at which the column has a given value. -/
def levels (bound : Bound K) (value : K) : List K :=
  match bound with
  | .free => [max value 0, max (-value) 0]
  | .lower least => [value - least]
  | .upper greatest => [greatest - value]
  | .double least _ => [value - least]
  | .fixed _ => []

def width : Bound K → Nat
  | .free => 2
  | .fixed _ => 0
  | _ => 1

@[simp]
theorem length_terms (next : Nat) (bound : Bound K) :
    (ofBound next bound).terms.length = width bound := by
  cases bound <;> rfl

@[simp]
theorem length_levels (bound : Bound K) (value : K) :
    (levels bound value).length = width bound := by
  cases bound <;> rfl

theorem index_lt_of_mem_terms {next : Nat} {bound : Bound K} {term : Nat × K}
    (member : term ∈ (ofBound next bound).terms) : term.1 < next + width bound := by
  cases bound with
  | free =>
      rcases List.mem_pair.mp member with rfl | rfl <;> simp [width]
  | fixed only => simp [ofBound] at member
  | _ =>
      obtain rfl := List.mem_singleton.mp member
      simp [width]

theorem le_index_of_mem_terms {next : Nat} {bound : Bound K} {term : Nat × K}
    (member : term ∈ (ofBound next bound).terms) : next ≤ term.1 := by
  cases bound with
  | free =>
      rcases List.mem_pair.mp member with rfl | rfl <;> simp
  | fixed only => simp [ofBound] at member
  | _ =>
      obtain rfl := List.mem_singleton.mp member
      exact le_rfl

theorem levels_nonneg {bound : Bound K} {value : K} (contained : bound.Contains value) :
    ∀ level ∈ levels bound value, 0 ≤ level := by
  cases bound <;> simp_all [levels]

/-- The levels of a column, put where its variables are, give back its value. -/
theorem value_levels {bound : Bound K} {value : K} (contained : bound.Contains value)
    (before after : List K) :
    (ofBound before.length bound).value (before ++ (levels bound value ++ after)) = value := by
  have first (level : K) (rest : List K) : Dense.entry (before ++ level :: rest) before.length =
      level := by
    simpa using Dense.entry_append_right before (level :: rest) 0
  have second (level next : K) (rest : List K) :
      Dense.entry (before ++ level :: next :: rest) (before.length + 1) = next := by
    simp
  cases bound with
  | free =>
      simp only [ofBound, Substitution.value, levels, Dense.dotCells_cons, Dense.dotCells_nil,
        List.cons_append, List.nil_append, first, second]
      rcases le_total 0 value with order | order
      · simp [order]
      · simp [order]
  | lower least => simp [ofBound, Substitution.value, levels, Dense.dotCells_cons, first]
  | upper greatest => simp [ofBound, Substitution.value, levels, Dense.dotCells_cons, first]
  | double least greatest =>
      simp [ofBound, Substitution.value, levels, Dense.dotCells_cons, first]
  | fixed only => simp_all [ofBound, Substitution.value, levels]

/-- A column at non-negative values of its variables meets its bound, if a double
bound's further constraint holds. -/
theorem contains_value (bound : Bound K) (next : Nat) {point : List K}
    (nonnegative : ∀ value ∈ point, 0 ≤ value)
    (range : ∀ constraint ∈ StandardForm.rangeConstraint? bound (ofBound next bound),
      constraint.Holds point) :
    bound.Contains ((ofBound next bound).value point) := by
  have level := Dense.entry_nonneg nonnegative next
  cases bound with
  | free => simp
  | lower least => simpa [ofBound, Substitution.value, Dense.dotCells_cons] using level
  | upper greatest => simpa [ofBound, Substitution.value, Dense.dotCells_cons] using level
  | double least greatest =>
      have width : Dense.entry point next ≤ greatest - least := by
        simpa [StandardForm.rangeConstraint?, Constraint.Holds, Relation.Holds, ofBound,
          Dense.dotCells_cons] using range
      simpa [ofBound, Substitution.value, Dense.dotCells_cons] using
        ⟨level, le_sub_iff_add_le'.mp width⟩
  | fixed only => simp [ofBound, Substitution.value]

/-- The values of all variables at which the columns have the given values. -/
def levelsOf (bounds : List (Bound K)) (values : List K) : List K :=
  (List.zipWith levels bounds values).flatten

theorem levelsOf_cons (bound : Bound K) (bounds : List (Bound K)) (value : K) (values : List K) :
    levelsOf (bound :: bounds) (value :: values) = levels bound value ++ levelsOf bounds values :=
  rfl

theorem levelsOf_nonneg {bounds : List (Bound K)} {values : List K}
    (contained : List.Forall₂ Bound.Contains bounds values) :
    ∀ level ∈ levelsOf bounds values, 0 ≤ level := by
  induction contained with
  | nil => simp [levelsOf]
  | cons first _ inductionHypothesis =>
      intro level membership
      rcases List.mem_append.mp membership with inFirst | inRest
      · exact levels_nonneg first level inFirst
      · exact inductionHypothesis level inRest

theorem length_levelsOf {bounds : List (Bound K)} {values : List K}
    (sameLength : values.length = bounds.length) :
    (levelsOf bounds values).length = (bounds.map width).sum := by
  induction bounds generalizing values with
  | nil => simp [levelsOf]
  | cons bound bounds inductionHypothesis =>
      obtain ⟨value, values, rfl⟩ := List.exists_cons_of_length_eq_add_one sameLength
      simp [levelsOf_cons, inductionHypothesis (Nat.succ.inj sameLength)]

theorem index_lt_of_mem_ofBounds {bounds : List (Bound K)} {next : Nat}
    {substitution : Substitution K} (member : substitution ∈ ofBounds next bounds)
    {term : Nat × K} (isTerm : term ∈ substitution.terms) :
    term.1 < next + (bounds.map width).sum := by
  induction bounds generalizing next with
  | nil => simp [ofBounds] at member
  | cons bound bounds inductionHypothesis =>
      rw [List.map_cons, List.sum_cons, ← add_assoc]
      rcases List.mem_cons.mp member with rfl | inRest
      · exact (index_lt_of_mem_terms isTerm).trans_le (Nat.le_add_right _ _)
      · simpa using inductionHypothesis inRest

theorem map_value_levelsOf {bounds : List (Bound K)} {values : List K}
    (contained : List.Forall₂ Bound.Contains bounds values) (before : List K) :
    (ofBounds before.length bounds).map (·.value (before ++ levelsOf bounds values)) = values := by
  induction contained generalizing before with
  | nil => rfl
  | @cons bound value bounds values first _ inductionHypothesis =>
      have next := inductionHypothesis (before ++ levels bound value)
      rw [List.length_append, length_levels, ← length_terms before.length, List.append_assoc]
        at next
      rw [ofBounds, List.map_cons, levelsOf_cons, next, value_levels first]

theorem forall₂_contains_value {point : List K} (nonnegative : ∀ value ∈ point, 0 ≤ value)
    (bounds : List (Bound K)) (next : Nat)
    (range : ∀ constraint ∈
      (List.zipWith StandardForm.rangeConstraint? bounds (ofBounds next bounds)).filterMap id,
      constraint.Holds point) :
    List.Forall₂ Bound.Contains bounds ((ofBounds next bounds).map (·.value point)) := by
  induction bounds generalizing next with
  | nil => exact .nil
  | cons bound bounds inductionHypothesis =>
      simp only [ofBounds, List.zipWith_cons_cons, List.map_cons] at range ⊢
      constructor
      · apply contains_value bound next nonnegative
        intro constraint found
        exact range constraint (List.mem_filterMap.mpr ⟨_, List.mem_cons_self, found⟩)
      · apply inductionHypothesis
        intro constraint membership
        obtain ⟨entry, inRest, found⟩ := List.mem_filterMap.mp membership
        exact range constraint
          (List.mem_filterMap.mpr ⟨entry, List.mem_cons_of_mem _ inRest, found⟩)

end Substitution

namespace StandardForm

/-- The constraints for the ranges of the columns say that the doubly bounded ones
stay below their upper sides. -/
theorem rangeConstraint?_holds {bound : Bound K} {next : Nat} {point : List K}
    (contained : bound.Contains ((Substitution.ofBound next bound).value point)) :
    ∀ constraint ∈ rangeConstraint? bound (Substitution.ofBound next bound),
      constraint.Holds point := by
  cases bound with
  | double least greatest =>
      simp [rangeConstraint?, Constraint.Holds, Relation.Holds, Substitution.ofBound,
        Substitution.value, Dense.dotCells_cons] at contained ⊢
      exact le_sub_iff_add_le'.mpr contained.2
  | _ => simp [rangeConstraint?]

theorem cells_of_rangeConstraint? {bound : Bound K} {substitution : Substitution K}
    {constraint : Constraint K} (found : constraint ∈ rangeConstraint? bound substitution) :
    constraint.cells = substitution.terms := by
  cases bound with
  | double least greatest =>
      obtain rfl := Option.some.inj found
      rfl
  | _ => simp [rangeConstraint?] at found

theorem rangeConstraints_hold {point : List K} (bounds : List (Bound K)) (next : Nat)
    (contained : List.Forall₂ Bound.Contains bounds
      ((Substitution.ofBounds next bounds).map (·.value point))) :
    ∀ constraint ∈
      (List.zipWith rangeConstraint? bounds (Substitution.ofBounds next bounds)).filterMap id,
      constraint.Holds point := by
  induction bounds generalizing next with
  | nil => simp
  | cons bound bounds inductionHypothesis =>
      simp only [Substitution.ofBounds, List.map_cons, List.forall₂_cons] at contained
      intro constraint membership
      obtain ⟨entry, inAll, found⟩ := List.mem_filterMap.mp membership
      rcases List.mem_cons.mp inAll with isFirst | inRest
      · exact rangeConstraint?_holds contained.1 constraint (isFirst ▸ found)
      · exact inductionHypothesis _ contained.2 constraint
          (List.mem_filterMap.mpr ⟨entry, inRest, found⟩)

theorem shift_cons (substitutions : List (Substitution K)) (cell : Nat × K)
    (cells : List (Nat × K)) :
    shift substitutions (cell :: cells) =
      cell.2 * Dense.entry (substitutions.map (·.offset)) cell.1 + shift substitutions cells :=
  Dense.dotCells_cons _ _ _

theorem spread_cons (substitutions : List (Substitution K)) (cell : Nat × K)
    (cells : List (Nat × K)) :
    spread substitutions (cell :: cells) =
      spread substitutions [cell] ++ spread substitutions cells := by
  simp [spread]

theorem dotCells_columns (substitutions : List (Substitution K)) (cells : List (Nat × K))
    (point : List K) :
    Dense.dotCells cells (substitutions.map (·.value point)) =
      shift substitutions cells + Dense.dotCells (spread substitutions cells) point := by
  induction cells with
  | nil => simp [shift, spread]
  | cons cell cells inductionHypothesis =>
      rw [Dense.dotCells_cons, inductionHypothesis, shift_cons, spread_cons,
        Dense.dotCells_append]
      cases found : substitutions[cell.1]? with
      | none => simp [Dense.entry, spread, found]
      | some substitution =>
          simp only [Dense.entry, spread, List.getD_eq_getElem?_getD, List.getElem?_map, found,
            Option.map_some, Option.getD_some, Substitution.value, List.flatMap_cons,
            List.flatMap_nil, List.append_nil, Dense.dotCells_scale]
          ring

theorem contains_iff_sides (bound : Bound K) (value : K) :
    bound.Contains value ↔ ∀ side ∈ sides bound, side.1.Holds value side.2 := by
  cases bound <;> simp [sides, Relation.Holds, eq_comm]

/-- A row of a program is met exactly if its constraints hold. -/
theorem rowConstraints_hold_iff (substitutions : List (Substitution K)) (index : Nat)
    (row : LinearRow K) (point : List K) :
    (∀ constraint ∈ rowConstraints substitutions index row, constraint.Holds point) ↔
      row.bound.Contains
        (Dense.dotCells row.cells (substitutions.map (·.value point))) := by
  simp only [contains_iff_sides, dotCells_columns, rowConstraints, List.forall_mem_map,
    Constraint.Holds, Relation.holds_sub_iff]

theorem dot_costOf (direction : Direction) (cost : K) (bound : Bound K) (next : Nat)
    (point : List K) :
    Dense.dot (costOf direction cost (Substitution.ofBound next bound)) (point.drop next) =
      direction.maximizingSign *
        (cost * Dense.dotCells (Substitution.ofBound next bound).terms point) := by
  cases bound with
  | free =>
      simp [costOf, Substitution.ofBound, Dense.dot_cons, Dense.dotCells_cons, Dense.entry]
      ring
  | fixed only => simp [costOf, Substitution.ofBound]
  | _ =>
      simp [costOf, Substitution.ofBound, Dense.dot_cons, Dense.dotCells_cons, Dense.entry]
      ring

theorem dot_flatten_costOf (direction : Direction) (cost : List K) (bounds : List (Bound K))
    (next : Nat) (point : List K) :
    Dense.dot
        (List.zipWith (costOf direction) cost (Substitution.ofBounds next bounds)).flatten
        (point.drop next) =
      direction.maximizingSign *
        Dense.dot cost ((Substitution.ofBounds next bounds).map fun substitution =>
          Dense.dotCells substitution.terms point) := by
  induction bounds generalizing cost next with
  | nil => simp [Substitution.ofBounds]
  | cons bound bounds inductionHypothesis =>
      cases cost with
      | nil => simp
      | cons first cost =>
          have rest := inductionHypothesis cost
            (next + (Substitution.ofBound next bound).terms.length)
          rw [Substitution.ofBounds, List.zipWith_cons_cons, List.flatten_cons,
            Dense.dot_append, dot_costOf, List.drop_drop, costOf, List.length_map, rest,
            List.map_cons, Dense.dot_cons]
          simp [mul_add]

theorem dot_cost_eq (program : Program K) (point : List K) (length : Nat) :
    Dense.dot (ofProgram program).cost point =
      program.direction.maximizingSign *
        (program.objective ((ofProgram program).columns point) -
          program.objective ((ofProgram program).columns (Dense.zeros length))) := by
  have collected := dot_flatten_costOf program.direction program.cost program.columns 0 point
  have difference := Dense.dot_map_sub program.cost (ofProgram program).substitutions
    (·.value point) (·.value (Dense.zeros length))
  rw [Program.objective, Program.objective, add_sub_add_left_eq_sub, columns, columns,
    ← difference]
  simpa [Substitution.value, ofProgram] using collected

theorem length_flatten_costOf (direction : Direction) {cost : List K} {bounds : List (Bound K)}
    (priced : cost.length = bounds.length) (next : Nat) :
    (List.zipWith (costOf direction) cost (Substitution.ofBounds next bounds)).flatten.length =
      (bounds.map Substitution.width).sum := by
  induction bounds generalizing cost next with
  | nil => simp [Substitution.ofBounds]
  | cons bound bounds inductionHypothesis =>
      obtain ⟨first, cost, rfl⟩ := List.exists_cons_of_length_eq_add_one priced
      have rest := inductionHypothesis (Nat.succ.inj priced)
        (next + (Substitution.ofBound next bound).terms.length)
      rw [Substitution.ofBounds, List.zipWith_cons_cons, List.flatten_cons, List.length_append,
        rest, costOf, List.length_map, Substitution.length_terms, List.map_cons, List.sum_cons]

theorem variableCount_ofProgram {program : Program K}
    (priced : program.cost.length = program.columns.length) :
    (ofProgram program).variableCount = (program.columns.map Substitution.width).sum :=
  length_flatten_costOf program.direction priced 0

theorem mem_constraints_iff (program : Program K) (constraint : Constraint K) :
    constraint ∈ (ofProgram program).constraints ↔
      (∃ index, ∃ row ∈ program.rows[index]?,
        constraint ∈ rowConstraints (ofProgram program).substitutions index row) ∨
      constraint ∈ (List.zipWith rangeConstraint? program.columns
        (ofProgram program).substitutions).filterMap id := by
  simp only [ofProgram, List.mem_append, List.mem_flatten, List.mem_mapIdx]
  apply or_congr_left
  constructor
  · rintro ⟨_, ⟨index, inside, rfl⟩, membership⟩
    exact ⟨index, program.rows[index], by simp [inside], membership⟩
  · rintro ⟨index, row, found, membership⟩
    obtain ⟨inside, rfl⟩ := List.getElem?_eq_some_iff.mp found
    exact ⟨_, ⟨index, inside, rfl⟩, membership⟩

theorem rows_contain_iff (program : Program K) (point : List K) :
    (∀ row ∈ program.rows,
        row.bound.Contains (Dense.dotCells row.cells ((ofProgram program).columns point))) ↔
      ∀ index, ∀ row ∈ program.rows[index]?,
        ∀ constraint ∈ rowConstraints (ofProgram program).substitutions index row,
          constraint.Holds point := by
  simp only [rowConstraints_hold_iff]
  constructor
  · intro contained index row found
    exact contained row (List.mem_of_getElem? found)
  · intro contained row membership
    obtain ⟨index, found⟩ := List.mem_iff_getElem?.mp membership
    exact contained index row found

theorem Feasible.columns_feasible {program : Program K} {point : List K}
    (feasible : (ofProgram program).Feasible point) :
    program.Feasible ((ofProgram program).columns point) where
  columns :=
    Substitution.forall₂_contains_value feasible.nonnegative program.columns 0
      fun constraint membership =>
        feasible.constraints constraint ((mem_constraints_iff _ _).mpr (.inr membership))
  rows :=
    (rows_contain_iff program point).mpr fun index row found constraint membership =>
      feasible.constraints constraint
        ((mem_constraints_iff _ _).mpr (.inl ⟨index, row, found, membership⟩))

theorem exists_feasible {program : Program K}
    (priced : program.cost.length = program.columns.length) {values : List K}
    (feasible : program.Feasible values) :
    ∃ point, (ofProgram program).Feasible point ∧ (ofProgram program).columns point = values := by
  have recovered : (ofProgram program).columns
      (Substitution.levelsOf program.columns values) = values :=
    Substitution.map_value_levelsOf feasible.columns []
  refine ⟨Substitution.levelsOf program.columns values, ?_, recovered⟩
  constructor
  case length_eq =>
    rw [variableCount_ofProgram priced, Substitution.length_levelsOf feasible.length_eq]
  case nonnegative => exact Substitution.levelsOf_nonneg feasible.columns
  case constraints =>
    intro constraint membership
    rcases (mem_constraints_iff _ _).mp membership with ⟨index, row, found, inRow⟩ | inRanges
    · apply (rows_contain_iff program _).mp _ index row found constraint inRow
      rw [recovered]
      exact feasible.rows
    · apply rangeConstraints_hold program.columns 0 _ constraint inRanges
      change List.Forall₂ Bound.Contains program.columns ((ofProgram program).columns _)
      rw [recovered]
      exact feasible.columns

def WellFormed (form : StandardForm K) : Prop :=
  ∀ constraint ∈ form.constraints, ∀ cell ∈ constraint.cells, cell.1 < form.variableCount

theorem index_lt_of_mem_spread {substitutions : List (Substitution K)} {limit : Nat}
    (inside : ∀ substitution ∈ substitutions, ∀ term ∈ substitution.terms, term.1 < limit)
    {cells : List (Nat × K)} {cell : Nat × K} (member : cell ∈ spread substitutions cells) :
    cell.1 < limit := by
  obtain ⟨⟨column, coefficient⟩, -, inColumn⟩ := List.mem_flatMap.mp member
  cases found : substitutions[column]? with
  | none => simp [found] at inColumn
  | some substitution =>
      simp only [found] at inColumn
      obtain ⟨term, isTerm, rfl⟩ := List.mem_map.mp inColumn
      exact inside substitution (List.mem_of_getElem? found) term isTerm

theorem ofProgram_wellFormed {program : Program K}
    (priced : program.cost.length = program.columns.length) :
    (ofProgram program).WellFormed := by
  have inside : ∀ substitution ∈ (ofProgram program).substitutions,
      ∀ term ∈ substitution.terms, term.1 < (ofProgram program).variableCount := by
    intro substitution member term isTerm
    have bound := Substitution.index_lt_of_mem_ofBounds member isTerm
    rwa [zero_add, ← variableCount_ofProgram priced] at bound
  intro constraint membership cell isCell
  rcases (mem_constraints_iff _ _).mp membership with ⟨index, row, -, inRow⟩ | inRanges
  · obtain ⟨side, -, rfl⟩ := List.mem_map.mp inRow
    exact index_lt_of_mem_spread inside isCell
  · obtain ⟨_, inZip, found⟩ := List.mem_filterMap.mp inRanges
    obtain ⟨⟨bound, substitution⟩, paired, rfl⟩ :=
      List.mem_map.mp (List.map_uncurry_zip_eq_zipWith ▸ inZip)
    rw [cells_of_rangeConstraint? found] at isCell
    exact inside substitution (List.of_mem_zip paired).2 cell isCell

/-- The standard form reformulates a program exactly: its feasible points are mapped
onto those of the program, and its objective is the program's, up to the value at
the origin and the sign of the direction. -/
theorem ofProgram_reformulates (program : Program K)
    (priced : program.cost.length = program.columns.length) :
    (∀ point, (ofProgram program).Feasible point →
      program.Feasible ((ofProgram program).columns point)) ∧
    (∀ values, program.Feasible values →
      ∃ point, (ofProgram program).Feasible point ∧
        (ofProgram program).columns point = values) ∧
    ∀ point, Dense.dot (ofProgram program).cost point =
      program.direction.maximizingSign *
        (program.objective ((ofProgram program).columns point) -
          program.objective ((ofProgram program).columns
            (Dense.zeros (ofProgram program).variableCount))) :=
  ⟨fun _ feasible => feasible.columns_feasible,
    fun _ feasible => exists_feasible priced feasible,
    fun point => dot_cost_eq program point _⟩

theorem ofProgram_reformulates_blend :
    Program.blend.cost.length = Program.blend.columns.length ∧
      (∀ point, (ofProgram Program.blend).Feasible point →
        Program.blend.Feasible ((ofProgram Program.blend).columns point)) ∧
      (∀ values, Program.blend.Feasible values →
        ∃ point, (ofProgram Program.blend).Feasible point ∧
          (ofProgram Program.blend).columns point = values) ∧
      ∀ point, Dense.dot (ofProgram Program.blend).cost point =
        Program.blend.direction.maximizingSign *
          (Program.blend.objective ((ofProgram Program.blend).columns point) -
            Program.blend.objective ((ofProgram Program.blend).columns
              (Dense.zeros (ofProgram Program.blend).variableCount))) :=
  ⟨rfl, ofProgram_reformulates Program.blend rfl⟩

end StandardForm

end LinearProgramming
