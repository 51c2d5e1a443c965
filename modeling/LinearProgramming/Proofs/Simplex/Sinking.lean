import Mathlib.Tactic.LinearCombination
import LinearProgramming.Proofs.Simplex.Termination
import LinearProgramming.Proofs.Workspace.Search

/-!
# How far pivots let rows sink

With a bound tolerance the ratio test lets the entering column grow beyond the ratio of a row,
whose right-hand side then sinks below zero.  The test counts a level below zero as zero, so a row
that has sunk may sink again: by the tolerance with every pivot in a row that has not sunk, and in
proportion to its depth with a pivot in one that has.  The depth after all pivots bounds what a
reported point misses of a row; the tolerance alone does not.
-/

namespace LinearProgramming.Simplex

variable {K : Type} [ExactScalar K]

/-! ## Depths of tableaux -/

def Tableau.WithinDepth (tableau : Tableau K) (depth : K) : Prop :=
  ∀ row ∈ tableau.rows, -depth ≤ row.equation.rhs

/-- How much a pivot in a row below zero can deepen the others, for each unit of its depth. -/
def Tableau.leverage (tableau : Tableau K) (column : Nat) (chosen : Row K) : K :=
  1 + (1 + (tableau.rows.map fun row => |row.equation.coefficient column|).sum) /
    chosen.equation.coefficient column

theorem Tableau.forall_abs_coefficient_nonneg (tableau : Tableau K) (column : Nat) :
    ∀ entry ∈ tableau.rows.map fun row => |row.equation.coefficient column|, 0 ≤ entry :=
  List.forall_mem_map.mpr fun _ _ => abs_nonneg _

theorem Tableau.leverage_nonneg (tableau : Tableau K) (column : Nat) {chosen : Row K}
    (positive : 0 ≤ chosen.equation.coefficient column) : 0 ≤ tableau.leverage column chosen := by
  have total := List.sum_nonneg (tableau.forall_abs_coefficient_nonneg column)
  exact add_nonneg zero_le_one (div_nonneg (add_nonneg zero_le_one total) positive)

section Pivot

variable {tableau : Tableau K} {row column : Nat} {chosen : Row K}

theorem rhs_of_mem_rows_pivot (found : tableau.rows[row]? = some chosen) {current : Row K}
    (member : current ∈ (tableau.pivot row column).rows) :
    current.equation.rhs = chosen.equation.rhs / chosen.equation.coefficient column ∨
      ∃ other ∈ tableau.rows, current.equation.rhs = other.equation.rhs -
        other.equation.coefficient column *
          (chosen.equation.rhs / chosen.equation.coefficient column) := by
  obtain ⟨index, at_index⟩ := List.mem_iff_getElem?.mp member
  rcases Tableau.getElem?_rows_pivot found at_index with ⟨-, rfl⟩ | ⟨-, other, at_old, rfl⟩
  · exact .inl rfl
  · refine .inr ⟨other, List.mem_of_getElem? at_old, ?_⟩
    rw [Equation.rhs_eliminate, Row.scaled, Equation.rhs_divide]

variable {depth : K} (within : tableau.WithinDepth depth) (nonneg : 0 ≤ depth)
  (found : tableau.rows[row]? = some chosen)
  (positive : 0 < chosen.equation.coefficient column)

include within nonneg found positive

/-- A pivot in a row that has not sunk lets rows sink by the tolerance of its ratio test. -/
theorem Tableau.WithinDepth.pivot_of_nonneg {tolerance : K} (tolerant : 0 ≤ tolerance)
    (level : 0 ≤ chosen.equation.rhs)
    (smallest : ∀ other ∈ tableau.rows, 0 < other.equation.coefficient column →
      chosen.level / chosen.equation.coefficient column ≤
        (other.level + tolerance) / other.equation.coefficient column) :
    (tableau.pivot row column).WithinDepth (depth + tolerance) := by
  intro current member
  have ratio := div_nonneg level positive.le
  rcases rhs_of_mem_rows_pivot found member with same | ⟨other, inside, moved⟩
  · rw [same]
    linarith
  · rw [moved]
    have sunk := within other inside
    rcases le_or_gt (other.equation.coefficient column) 0 with falls | grows
    · have gain := mul_nonneg (neg_nonneg.mpr falls) ratio
      linarith
    · have step := (le_div_iff₀' grows).mp (smallest other inside grows)
      rw [Row.level, Row.level, Scalar.larger_eq_max, Scalar.larger_eq_max,
        max_eq_left level] at step
      rcases max_cases other.equation.rhs 0 with ⟨isLevel, -⟩ | ⟨isLevel, -⟩ <;>
        rw [isLevel] at step <;> linarith

/-- A pivot in a row that has sunk deepens all rows by no more than its leverage. -/
theorem Tableau.WithinDepth.pivot_of_neg (level : chosen.equation.rhs < 0) :
    (tableau.pivot row column).WithinDepth (depth * tableau.leverage column chosen) := by
  intro current member
  have entries := tableau.forall_abs_coefficient_nonneg column
  have total := List.sum_nonneg entries
  have ratio : -(depth / chosen.equation.coefficient column) ≤
      chosen.equation.rhs / chosen.equation.coefficient column := by
    rw [← neg_div]
    exact div_le_div_of_nonneg_right (within chosen (List.mem_of_getElem? found)) positive.le
  have reach : 0 ≤ depth / chosen.equation.coefficient column := div_nonneg nonneg positive.le
  -- The part that the chosen row adds is the same for all rows but for their entries.
  have deepest : depth * tableau.leverage column chosen = depth +
      depth / chosen.equation.coefficient column *
        (1 + (tableau.rows.map fun row => |row.equation.coefficient column|).sum) := by
    rw [Tableau.leverage]
    ring
  rw [deepest]
  rcases rhs_of_mem_rows_pivot found member with same | ⟨other, inside, moved⟩
  · have rest := mul_nonneg reach total
    rw [same]
    linarith
  · have sunk := within other inside
    have entry := List.single_le_sum entries _ (List.mem_map.mpr ⟨other, inside, rfl⟩)
    have negative := (div_neg_of_neg_of_pos level positive).le
    have part : other.equation.coefficient column *
        (chosen.equation.rhs / chosen.equation.coefficient column) ≤
          |other.equation.coefficient column| * (depth / chosen.equation.coefficient column) := by
      have bound := mul_le_mul_of_nonneg_left
        (abs_le.mpr ⟨ratio, negative.trans reach⟩) (abs_nonneg (other.equation.coefficient column))
      rw [← abs_mul] at bound
      exact (le_abs_self _).trans bound
    have share := mul_le_mul_of_nonneg_left entry reach
    rw [moved]
    linarith

end Pivot

/-! ## Depths of runs -/

/-- The depth to which the chosen pivots on variables and slacks can have let rows sink. -/
inductive Sinks (options : Options K) (start : Tableau K) : Progress K → K → Prop
  | start : Sinks options start ⟨start, 0, 0⟩ 0
  | level {progress : Progress K} {depth : K} {row column : Nat} {chosen : Row K}
      (sinks : Sinks options start progress depth)
      (choice : Chosen options progress start.artificialStart row column)
      (found : progress.tableau.rows[row]? = some chosen) (level : 0 ≤ chosen.equation.rhs) :
      Sinks options start (progress.step options row column) (depth + options.boundTolerance)
  | sunk {progress : Progress K} {depth : K} {row column : Nat} {chosen : Row K}
      (sinks : Sinks options start progress depth)
      (choice : Chosen options progress start.artificialStart row column)
      (found : progress.tableau.rows[row]? = some chosen) (sunk : chosen.equation.rhs < 0) :
      Sinks options start (progress.step options row column)
        (depth * progress.tableau.leverage column chosen)

structure SunkBasis (start : Tableau K) (depth : K) (tableau : Tableau K) : Prop
    extends tableau.Canonical where
  equivalent : tableau.Equivalent start
  nonneg : 0 ≤ depth
  within : tableau.WithinDepth depth

section Run

variable {options : Options K} {start : Tableau K} {progress : Progress K} {depth : K}
  (eligible : options.pivotTolerance = 0) (tolerant : 0 ≤ options.boundTolerance)

include eligible tolerant

theorem SunkBasis.chosen (basis : SunkBasis start depth progress.tableau) {columns row column : Nat}
    {chosen : Row K} (choice : Chosen options progress columns row column)
    (found : progress.tableau.rows[row]? = some chosen) :
    progress.tableau.Pivotable row column chosen ∧ 0 < chosen.equation.coefficient column ∧
      ∀ other ∈ progress.tableau.rows, 0 < other.equation.coefficient column →
        chosen.level / chosen.equation.coefficient column ≤
          (other.level + options.boundTolerance) / other.equation.coefficient column := by
  obtain ⟨-, inside, -⟩ := enteringColumn_eq_some choice.entering
  obtain ⟨current, isChosen, passes, smallest⟩ :=
    leavingRow_eq_some tolerant eligible.ge choice.leaving
  obtain rfl : current = chosen := Option.some.inj (isChosen.symm.trans found)
  rw [eligible] at passes smallest
  exact ⟨⟨found, basis.objective ▸ inside, passes.ne'⟩, passes, smallest⟩

theorem Sinks.sunkBasis (canonical : start.Canonical) (nonnegative : start.NonNegative)
    (sinks : Sinks options start progress depth) : SunkBasis start depth progress.tableau := by
  induction sinks with
  | start =>
      refine ⟨canonical, .refl start, le_rfl, fun row member => ?_⟩
      rw [neg_zero]
      exact nonnegative row member
  | @level progress depth row column chosen _ choice found level inductionHypothesis =>
      obtain ⟨pivotable, positive, smallest⟩ :=
        inductionHypothesis.chosen eligible tolerant choice found
      have shaped := inductionHypothesis.toShaped
      exact ⟨inductionHypothesis.toCanonical.pivot pivotable,
        (Tableau.equivalent_pivot shaped pivotable).trans inductionHypothesis.equivalent,
        add_nonneg inductionHypothesis.nonneg tolerant,
        inductionHypothesis.within.pivot_of_nonneg inductionHypothesis.nonneg found positive
          tolerant level smallest⟩
  | @sunk progress depth row column chosen _ choice found sunk inductionHypothesis =>
      obtain ⟨pivotable, positive, -⟩ := inductionHypothesis.chosen eligible tolerant choice found
      have shaped := inductionHypothesis.toShaped
      refine ⟨inductionHypothesis.toCanonical.pivot pivotable,
        (Tableau.equivalent_pivot shaped pivotable).trans inductionHypothesis.equivalent, ?_,
        inductionHypothesis.within.pivot_of_neg inductionHypothesis.nonneg found positive sunk⟩
      exact mul_nonneg inductionHypothesis.nonneg
        (progress.tableau.leverage_nonneg column positive.le)

theorem Sinks.exists_step (sinks : Sinks options start progress depth) {row column : Nat}
    (choice : Chosen options progress start.artificialStart row column) :
    ∃ next, Sinks options start (progress.step options row column) next := by
  obtain ⟨chosen, found, -, -⟩ := leavingRow_eq_some tolerant eligible.ge choice.leaving
  rcases le_or_gt 0 chosen.equation.rhs with level | sunk
  · exact ⟨_, sinks.level choice found level⟩
  · exact ⟨_, sinks.sunk choice found sunk⟩

end Run

/-! ## Reported points -/

theorem abs_max_zero_sub_le {value depth : K} (nonneg : 0 ≤ depth) (within : -depth ≤ value) :
    |max value 0 - value| ≤ depth := by
  rcases max_cases value 0 with ⟨same, order⟩ | ⟨same, order⟩ <;> rw [same, abs_le] <;>
    constructor <;> linarith

def weight (cells : List (Nat × K)) : K :=
  (cells.map fun cell => |cell.2|).sum

/-- Between points that are near in every column an activity differs by no more than its weight
allows. -/
theorem abs_dotCells_sub_le {first second : List K} {depth : K} {cells : List (Nat × K)}
    (near : ∀ cell ∈ cells, |Dense.entry first cell.1 - Dense.entry second cell.1| ≤ depth) :
    |Dense.dotCells cells first - Dense.dotCells cells second| ≤ depth * weight cells := by
  induction cells with
  | nil => simp [weight]
  | cons cell cells inductionHypothesis =>
      have head : |cell.2 * Dense.entry first cell.1 - cell.2 * Dense.entry second cell.1| ≤
          depth * |cell.2| := by
        rw [← mul_sub, abs_mul, mul_comm]
        exact mul_le_mul_of_nonneg_right (near cell List.mem_cons_self) (abs_nonneg _)
      have tail :=
        inductionHypothesis fun other member => near other (List.mem_cons_of_mem _ member)
      rw [Dense.dotCells_cons, Dense.dotCells_cons, add_sub_add_comm]
      have moved := (abs_add_le _ _).trans (add_le_add head tail)
      simpa only [weight, List.map_cons, List.sum_cons, mul_add] using moved

theorem exists_lower_side {bound : Bound K} {least : K} (isLeast : least ∈ bound.lower?) :
    ∃ side ∈ StandardForm.sides bound, ∀ value, side.1.Holds value side.2 → least ≤ value := by
  cases bound <;> simp_all [Bound.lower?, StandardForm.sides, Relation.Holds]

theorem exists_upper_side {bound : Bound K} {greatest : K} (isGreatest : greatest ∈ bound.upper?) :
    ∃ side ∈ StandardForm.sides bound, ∀ value, side.1.Holds value side.2 → value ≤ greatest := by
  cases bound <;> simp_all [Bound.upper?, StandardForm.sides, Relation.Holds]

theorem containsUpTo_of_sides {bound : Bound K} {value slack : K}
    (near : ∀ side ∈ StandardForm.sides bound,
      ∃ exact, side.1.Holds exact side.2 ∧ |value - exact| ≤ slack) :
    bound.ContainsUpTo slack value := by
  constructor
  · intro least isLeast
    obtain ⟨side, member, below⟩ := exists_lower_side isLeast
    obtain ⟨exact, holds, close⟩ := near side member
    have order := below exact holds
    have distance := (abs_le.mp close).1
    linarith
  · intro greatest isGreatest
    obtain ⟨side, member, above⟩ := exists_upper_side isGreatest
    obtain ⟨exact, holds, close⟩ := near side member
    have order := above exact holds
    have distance := (abs_le.mp close).2
    linarith

theorem abs_signs_le_one (constraint : Constraint K) :
    |Tableau.entrySign constraint * Tableau.slackSign constraint| ≤ 1 := by
  unfold Tableau.entrySign Tableau.slackSign
  split <;> split <;> simp

theorem exists_near_of_slack {constraint : Constraint K} {left slack depth : K}
    (nonneg : 0 ≤ depth) (within : -depth ≤ slack)
    (equation : Tableau.entrySign constraint * (left - constraint.rhs) +
      Tableau.slackSign constraint * slack = 0) :
    ∃ exact, constraint.relation.Holds exact constraint.rhs ∧ |left - exact| ≤ depth := by
  have sign := Tableau.entrySign_mul_self constraint
  refine ⟨constraint.rhs -
    Tableau.entrySign constraint * Tableau.slackSign constraint * max slack 0,
    Tableau.holds_of_slack (le_max_right slack 0) ?_, ?_⟩
  · linear_combination -(Tableau.slackSign constraint * max slack 0) * sign
  · have difference : left - (constraint.rhs -
        Tableau.entrySign constraint * Tableau.slackSign constraint * max slack 0) =
          Tableau.entrySign constraint * Tableau.slackSign constraint * (max slack 0 - slack) := by
      linear_combination Tableau.entrySign constraint * equation - (left - constraint.rhs) * sign
    have raised := abs_max_zero_sub_le nonneg within
    rw [difference, abs_mul]
    exact (mul_le_of_le_one_left (abs_nonneg _) (abs_signs_le_one constraint)).trans raised

namespace SunkBasis

variable {start tableau : Tableau K} {depth : K} (basis : SunkBasis start depth tableau)

include basis

theorem solves_basicPoint : start.Solves tableau.basicPoint := by
  rw [← basis.equivalent.solves_iff, ← Tableau.raised_zero tableau 0]
  exact basis.toCanonical.solves_raised 0 0

theorem le_basicPoint (index : Nat) : -depth ≤ tableau.basicPoint index := by
  by_cases basic : index ∈ tableau.basis
  · obtain ⟨row, member, rfl⟩ := Tableau.mem_basis.mp basic
    obtain ⟨place, at_place⟩ := List.mem_iff_getElem?.mp member
    rw [basis.toCanonical.basicPoint_basic at_place]
    exact basis.within row member
  · rw [Tableau.basicPoint_of_not_mem_basis basic]
    exact neg_nonpos.mpr basis.nonneg

theorem basicPoint_of_le {index : Nat} (outside : tableau.columns ≤ index) :
    tableau.basicPoint index = 0 := by
  apply Tableau.basicPoint_of_not_mem_basis
  intro basic
  have inside := Finset.mem_range.mp (basis.toCanonical.basis_subset basic)
  exact absurd inside (Nat.not_lt.mpr outside)

theorem abs_entry_values_sub_le {index : Nat} (inside : index < tableau.variableCount) :
    |Dense.entry tableau.values index - tableau.basicPoint index| ≤ depth := by
  have sunk := basis.le_basicPoint index
  rw [basis.toCanonical.entry_values_eq_max inside]
  exact abs_max_zero_sub_le basis.nonneg sunk

end SunkBasis

section Start

variable {program : Program K} (priced : program.cost.length = program.columns.length)

/-- What a row of a program weighs over the variables of its standard form and its slack. -/
def rowWeight (program : Program K) (row : LinearRow K) : K :=
  weight (StandardForm.spread (StandardForm.ofProgram program).substitutions row.cells) + 1

theorem mem_constraints_of_side {index : Nat} {row : LinearRow K}
    (found : program.rows[index]? = some row) {side : Relation × K}
    (isSide : side ∈ StandardForm.sides row.bound) :
    (⟨StandardForm.spread (StandardForm.ofProgram program).substitutions row.cells, side.1,
      side.2 - StandardForm.shift (StandardForm.ofProgram program).substitutions row.cells,
      some index⟩ : Constraint K) ∈ (StandardForm.ofProgram program).constraints :=
  (StandardForm.mem_constraints_iff _ _).mpr
    (.inl ⟨index, row, found, List.mem_map.mpr ⟨side, isSide, rfl⟩⟩)

include priced

section Constraints

variable {tableau : Tableau K} {depth : K} (basis : SunkBasis (startOf program) depth tableau)
  {constraint : Constraint K} (member : constraint ∈ (StandardForm.ofProgram program).constraints)

include basis member

theorem SunkBasis.abs_activity_sub_le :
    |Dense.dotCells constraint.cells tableau.values - Dense.dotCells constraint.cells
      (Tableau.firstValues (StandardForm.ofProgram program).variableCount tableau.basicPoint)| ≤
        depth * weight constraint.cells := by
  have count : tableau.variableCount = (StandardForm.ofProgram program).variableCount :=
    basis.equivalent.variableCount
  apply abs_dotCells_sub_le
  intro cell isCell
  have inside := StandardForm.ofProgram_wellFormed priced _ member cell isCell
  rw [Tableau.entry_firstValues inside]
  exact basis.abs_entry_values_sub_le (count ▸ inside)

/-- Without artificial columns the values of a tableau miss a constraint by no more than the
depth, for each unit of what its cells and its slack weigh. -/
theorem SunkBasis.exists_near (without : (startOf program).artificials = 0) :
    ∃ exact, constraint.relation.Holds exact constraint.rhs ∧
      |Dense.dotCells constraint.cells tableau.values - exact| ≤
        depth * (weight constraint.cells + 1) := by
  have wellFormed := StandardForm.ofProgram_wellFormed priced
  obtain ⟨place, at_place⟩ := List.mem_iff_getElem?.mp member
  have equation := (Tableau.solves_ofStandardForm_iff wellFormed _).mp basis.solves_basicPoint
    place _ at_place
  have artificial : tableau.basicPoint
      (Tableau.artificialColumn (StandardForm.ofProgram program) place) = 0 := by
    apply basis.basicPoint_of_le
    rw [basis.equivalent.columns_eq, Tableau.columns, without, add_zero]
    exact Tableau.artificialStart_le_artificialColumn _ _
  rw [artificial, mul_zero, add_zero] at equation
  obtain ⟨exact, holds, close⟩ :=
    exists_near_of_slack basis.nonneg (basis.le_basicPoint _) equation
  refine ⟨exact, holds, ?_⟩
  rw [mul_add, mul_one]
  exact (abs_sub_le _ _ _).trans (add_le_add (basis.abs_activity_sub_le priced member) close)

end Constraints

theorem SunkBasis.containsUpTo {tableau : Tableau K} {depth : K}
    (basis : SunkBasis (startOf program) depth tableau)
    (without : (startOf program).artificials = 0) {row : LinearRow K}
    (member : row ∈ program.rows) :
    row.bound.ContainsUpTo (depth * rowWeight program row)
      (Dense.dotCells row.cells (pointOf program tableau).columnPrimal) := by
  obtain ⟨index, found⟩ := List.mem_iff_getElem?.mp member
  have activity : Dense.dotCells row.cells (pointOf program tableau).columnPrimal =
      StandardForm.shift (StandardForm.ofProgram program).substitutions row.cells +
        Dense.dotCells
          (StandardForm.spread (StandardForm.ofProgram program).substitutions row.cells)
          tableau.values :=
    StandardForm.dotCells_columns _ _ _
  apply containsUpTo_of_sides
  intro side isSide
  obtain ⟨exact, holds, close⟩ :=
    basis.exists_near priced (mem_constraints_of_side found isSide) without
  refine ⟨_, (Relation.holds_sub_iff _ _ _ _).mp holds, ?_⟩
  rw [activity, add_sub_add_left_eq_sub]
  exact close

variable {options : Options K} (eligible : options.pivotTolerance = 0)
  (tolerant : 0 ≤ options.boundTolerance) (without : (startOf program).artificials = 0)

include eligible tolerant without

omit priced in
/-- A point is reported of a tableau that the chosen pivots reach. -/
theorem exists_sinks_of_point {clock : Clock} {point : Point K}
    (reported : (solve options clock program).point = some point) :
    ∃ progress depth, Sinks options (startOf program) progress depth ∧
      point = pointOf program progress.tableau := by
  by_cases nonempty : program.columns.isEmpty = true
  · rw [solve, if_pos nonempty] at reported
    cases reported
  by_cases consistent : (!program.boundsConsistent) = true
  · rw [solve, if_neg nonempty, if_pos consistent] at reported
    cases reported
  have found : findBasis options clock (startOf program) = (⟨startOf program, 0, 0⟩, .feasible) :=
    if_pos without
  have reached : ∃ depth, Sinks options (startOf program)
      (phaseTwo options clock program (.ofProgram program) ⟨startOf program, 0, 0⟩).1 depth := by
    refine improve_progress_induction (motive := fun progress =>
      ∃ depth, Sinks options (startOf program) progress depth) ?_ _ ⟨0, .start⟩
    intro _ _ _ sunk choice
    obtain ⟨depth, sinks⟩ := sunk
    exact sinks.exists_step eligible tolerant choice
  cases continued : phaseTwo options clock program (.ofProgram program) ⟨startOf program, 0, 0⟩ with
  | mk final ending =>
      rw [continued] at reached
      rw [solve_of_feasible nonempty consistent found continued] at reported
      obtain ⟨depth, sinks⟩ := reached
      exact ⟨final, depth, sinks, (Option.some.inj reported).symm⟩

/-- Without artificial columns a run pivots through tableaux that keep within their depth, as do
the rows of their points, for each unit of what they weigh; and it reports one of these points. -/
theorem solve_sinks :
    (∀ progress depth, Sinks options (startOf program) progress depth →
      progress.tableau.WithinDepth depth ∧
        List.Forall₂
          (fun (row : LinearRow K) value =>
            row.bound.ContainsUpTo (depth * rowWeight program row) value)
          program.rows (pointOf program progress.tableau).rowPrimal) ∧
    ∀ clock point, (solve options clock program).point = some point →
      ∃ progress depth, Sinks options (startOf program) progress depth ∧
        point = pointOf program progress.tableau := by
  refine ⟨fun progress depth sinks => ?_, fun clock point reported =>
    exists_sinks_of_point eligible tolerant without reported⟩
  have basis := sinks.sunkBasis eligible tolerant (canonical_startOf priced)
    (Tableau.nonNegative_ofStandardForm _)
  refine ⟨basis.within, ?_⟩
  change List.Forall₂ _ program.rows (program.activities _)
  rw [Program.activities, List.forall₂_map_right_iff, List.forall₂_same]
  exact fun row member => basis.containsUpTo priced without member

end Start

/-! ## A row that sinks twice -/

/-- A program whose second pivot lets the first row sink further. -/
def overrun : Program ℚ where
  direction := .maximize
  constant := 0
  cost := [2, 1]
  columns := [.lower 0, .lower 0]
  rows := [⟨.upper 1, [(0, 1), (1, 1)]⟩, ⟨.upper 4, [(0, 2)]⟩, ⟨.upper 2, [(1, 2)]⟩]

def Options.lenient : Options ℚ :=
  { Options.exact with boundTolerance := 1 }

theorem exists_point_overrun :
    ∃ point, (solve Options.lenient .still overrun).point = some point ∧
      point.rowPrimal = [3, 4, 2] := by
  have rows : (solve Options.lenient .still overrun).point.map (·.rowPrimal) = some [3, 4, 2] := by
    decide +kernel
  exact Option.map_eq_some_iff.mp rows

theorem artificials_overrun : (startOf overrun).artificials = 0 := by
  decide +kernel

theorem solve_sinks_overrun :
    overrun.cost.length = overrun.columns.length ∧ Options.lenient.pivotTolerance = 0 ∧
      0 ≤ Options.lenient.boundTolerance ∧ (startOf overrun).artificials = 0 ∧
      ∃ progress depth, Sinks Options.lenient (startOf overrun) progress depth ∧
        (solve Options.lenient .still overrun).point = some (pointOf overrun progress.tableau) ∧
        progress.tableau.WithinDepth depth ∧
        List.Forall₂
          (fun (row : LinearRow ℚ) value =>
            row.bound.ContainsUpTo (depth * rowWeight overrun row) value)
          overrun.rows (pointOf overrun progress.tableau).rowPrimal := by
  have tolerant : 0 ≤ Options.lenient.boundTolerance := zero_le_one
  obtain ⟨within, reports⟩ :=
    solve_sinks rfl rfl tolerant artificials_overrun
  obtain ⟨point, reported, -⟩ := exists_point_overrun
  obtain ⟨progress, depth, sinks, rfl⟩ := reports .still point reported
  exact ⟨rfl, rfl, tolerant, artificials_overrun, progress, depth, sinks, reported,
    within progress depth sinks⟩

/-- A point is reported as optimal that misses a row by more than the tolerance. -/
theorem solve_misses_row :
    ∃ (options : Options ℚ) (program : Program ℚ) (point : Point ℚ),
      options.harris = true ∧ options.pivotTolerance = 0 ∧ options.reducedCostTolerance = 0 ∧
      0 ≤ options.boundTolerance ∧ program.cost.length = program.columns.length ∧
      program.boundsConsistent = true ∧ (startOf program).artificials = 0 ∧
      (solve options .still program).status = .optimal ∧
      (solve options .still program).point = some point ∧
      ¬ List.Forall₂ (fun (row : LinearRow ℚ) value =>
        row.bound.ContainsUpTo options.boundTolerance value) program.rows point.rowPrimal := by
  obtain ⟨point, reported, rows⟩ := exists_point_overrun
  refine ⟨.lenient, overrun, point, rfl, rfl, rfl, zero_le_one, rfl, by decide +kernel,
    artificials_overrun, by decide +kernel, reported, ?_⟩
  rw [rows]
  intro contained
  obtain ⟨first, -⟩ := List.forall₂_cons.mp contained
  have missed : (3 : ℚ) ≤ 1 + 1 := first.upper 1 rfl
  norm_num at missed

end LinearProgramming.Simplex
