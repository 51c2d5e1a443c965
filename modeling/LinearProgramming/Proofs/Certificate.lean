import Mathlib.Algebra.BigOperators.Fin
import Mathlib.Algebra.Order.BigOperators.Group.List
import Mathlib.Tactic.LinearCombination
import LinearProgramming.Proofs.StandardForm

/-!
# Certificates of optimality

A certificate of a standard form gives multipliers for its constraints: no variable
can still improve the objective, and what is not tight has no price.  Recovered for
the program, it gives duals whose signs agree with the active sides of the bounds.
-/

namespace LinearProgramming

variable {K : Type} [ExactScalar K]

/-- The sign of a dual agrees with the sides of the bound that are active at a value.
Where both sides are active, the dual is unrestricted. -/
structure Bound.DualSigns (bound : Bound K) (direction : Direction) (value dual : K) : Prop where
  inside : (∀ least ∈ bound.lower?, least < value) → (∀ greatest ∈ bound.upper?, value < greatest) →
    dual = 0
  onlyLower : value ∈ bound.lower? → value ∉ bound.upper? → direction.maximizingSign * dual ≤ 0
  onlyUpper : value ∈ bound.upper? → value ∉ bound.lower? → 0 ≤ direction.maximizingSign * dual

/-- The duals of a point certify it: the dual of a column is its cost less what the
rows charge for it, and all signs agree with the active bounds. -/
structure Program.Certified (program : Program K) (point : Point K) : Prop where
  length_rowDual : point.rowDual.length = program.rows.length
  length_columnDual : point.columnDual.length = program.columns.length
  columnDual_eq : ∀ column < program.columns.length,
    Dense.entry point.columnDual column =
      Dense.entry program.cost column -
        (List.zipWith (fun row dual => Dense.coefficientAt row.cells column * dual)
          program.rows point.rowDual).sum
  rows : ∀ index (row : LinearRow K), program.rows[index]? = some row →
    row.bound.DualSigns program.direction (Dense.entry point.rowPrimal index)
      (Dense.entry point.rowDual index)
  columns : ∀ index (bound : Bound K), program.columns[index]? = some bound →
    bound.DualSigns program.direction (Dense.entry point.columnPrimal index)
      (Dense.entry point.columnDual index)

theorem Direction.maximizingSign_mul_self (direction : Direction) :
    (direction.maximizingSign : K) * direction.maximizingSign = 1 := by
  cases direction <;> simp [maximizingSign]

theorem Direction.maximizingSign_mul_cancel (direction : Direction) (value : K) :
    direction.maximizingSign * (direction.maximizingSign * value) = value := by
  rw [← mul_assoc, maximizingSign_mul_self, one_mul]

namespace StandardForm

/-- The cost of a variable less what the constraints charge for it. -/
def reducedCost (form : StandardForm K) (multipliers : List K) (index : Nat) : K :=
  Dense.entry form.cost index -
    ((List.zip form.constraints multipliers).map fun pair =>
      Dense.coefficientAt pair.1.cells index * pair.2).sum

structure Certificate (form : StandardForm K) (point multipliers : List K) : Prop where
  reducedCost_nonpos : ∀ index < form.variableCount, form.reducedCost multipliers index ≤ 0
  reducedCost_eq_zero : ∀ index < form.variableCount,
    Dense.entry point index ≠ 0 → form.reducedCost multipliers index = 0
  atMost : ∀ pair ∈ List.zip form.constraints multipliers,
    pair.1.relation = .atMost → 0 ≤ pair.2
  atLeast : ∀ pair ∈ List.zip form.constraints multipliers,
    pair.1.relation = .atLeast → pair.2 ≤ 0
  tight : ∀ pair ∈ List.zip form.constraints multipliers,
    Dense.dotCells pair.1.cells point ≠ pair.1.rhs → pair.2 = 0

section Rows

variable {program : Program K} {point multipliers : List K}

def rowPrice (form : StandardForm K) (multipliers : List K) (row : Nat) : K :=
  ((List.zip form.constraints multipliers).map fun pair =>
    if pair.1.row? = some row then pair.2 else 0).sum

theorem foldl_price (factor : K) (row : Nat) (pairs : List (Constraint K × K)) (start : K) :
    pairs.foldl (fun sum (constraint, multiplier) =>
        if constraint.row? = some row then sum + factor * multiplier else sum) start =
      start + factor *
        (pairs.map fun pair => if pair.1.row? = some row then pair.2 else 0).sum := by
  induction pairs generalizing start with
  | nil => simp
  | cons pair pairs inductionHypothesis =>
      obtain ⟨constraint, multiplier⟩ := pair
      rw [List.foldl_cons, inductionHypothesis, List.map_cons, List.sum_cons, mul_add, ← add_assoc]
      by_cases fromRow : constraint.row? = some row <;> simp [fromRow]

theorem rowDual_eq (form : StandardForm K) (program : Program K) (multipliers : List K)
    (row : Nat) :
    form.rowDual program multipliers row =
      program.direction.maximizingSign * form.rowPrice multipliers row := by
  rw [rowDual, foldl_price, zero_add, rowPrice]

theorem exists_side_of_row? {constraint : Constraint K}
    (member : constraint ∈ (ofProgram program).constraints) {index : Nat}
    (origin : constraint.row? = some index) :
    ∃ row, program.rows[index]? = some row ∧ ∃ side ∈ sides row.bound,
      constraint.cells = spread (ofProgram program).substitutions row.cells ∧
      constraint.relation = side.1 ∧
      constraint.rhs = side.2 - shift (ofProgram program).substitutions row.cells := by
  rcases (mem_constraints_iff _ _).mp member with ⟨place, row, at_place, inRow⟩ | inRanges
  · obtain ⟨side, isSide, rfl⟩ := List.mem_map.mp inRow
    obtain rfl : place = index := Option.some.inj origin
    exact ⟨row, at_place, side, isSide, rfl, rfl, rfl⟩
  · obtain ⟨_, inZip, found⟩ := List.mem_filterMap.mp inRanges
    obtain ⟨⟨bound, substitution⟩, -, rfl⟩ :=
      List.mem_map.mp (List.map_uncurry_zip_eq_zipWith ▸ inZip)
    cases bound <;> simp [rangeConstraint?] at found
    simp [← found] at origin

omit [ExactScalar K] in
theorem mem_lower?_of_mem_sides {bound : Bound K} {side : Relation × K}
    (member : side ∈ sides bound) (notAtMost : side.1 ≠ .atMost) : side.2 ∈ bound.lower? := by
  cases bound with
  | free => simp [sides] at member
  | upper greatest =>
      obtain rfl := List.mem_singleton.mp member
      exact absurd rfl notAtMost
  | double least greatest =>
      rcases List.mem_pair.mp member with rfl | rfl
      · rfl
      · exact absurd rfl notAtMost
  | _ =>
      obtain rfl := List.mem_singleton.mp member
      rfl

omit [ExactScalar K] in
theorem mem_upper?_of_mem_sides {bound : Bound K} {side : Relation × K}
    (member : side ∈ sides bound) (notAtLeast : side.1 ≠ .atLeast) : side.2 ∈ bound.upper? := by
  cases bound with
  | free => simp [sides] at member
  | lower least =>
      obtain rfl := List.mem_singleton.mp member
      exact absurd rfl notAtLeast
  | double least greatest =>
      rcases List.mem_pair.mp member with rfl | rfl
      · exact absurd rfl notAtLeast
      · rfl
  | _ =>
      obtain rfl := List.mem_singleton.mp member
      rfl

/-- The multiplier of a side of a row is zero unless the row is at that side. -/
theorem Certificate.exists_side (certificate : (ofProgram program).Certificate point multipliers)
    {index : Nat} {row : LinearRow K} (at_index : program.rows[index]? = some row)
    {pair : Constraint K × K} (member : pair ∈ List.zip (ofProgram program).constraints multipliers)
    (origin : pair.1.row? = some index) :
    ∃ side ∈ sides row.bound, pair.1.relation = side.1 ∧
      (pair.2 ≠ 0 →
        Dense.dotCells row.cells ((ofProgram program).columns point) = side.2) := by
  obtain ⟨found, at_found, side, isSide, cells, relation, rhs⟩ :=
    exists_side_of_row? (List.of_mem_zip member).1 origin
  obtain rfl := Option.some.inj (at_found.symm.trans at_index)
  refine ⟨side, isSide, relation, fun priced => ?_⟩
  have tight := mt (certificate.tight pair member) priced
  rw [not_not, cells, rhs] at tight
  rw [StandardForm.columns, dotCells_columns, tight, add_sub_cancel]

/-- The dual of a row has the sign of its active side: a side that is not active has no
multiplier, and the multiplier of an active one has the sign of its relation. -/
theorem Certificate.rowDual_signs
    (certificate : (ofProgram program).Certificate point multipliers) {index : Nat}
    {row : LinearRow K} (at_index : program.rows[index]? = some row) :
    row.bound.DualSigns program.direction
      (Dense.dotCells row.cells ((ofProgram program).columns point))
      ((ofProgram program).rowDual program multipliers index) := by
  -- What holds of zero and of the row's own multipliers holds of every term of the dual.
  have forall_price {motive : K → Prop} (zero : motive 0)
      (own : ∀ pair ∈ List.zip (ofProgram program).constraints multipliers,
        pair.1.row? = some index → motive pair.2) :
      ∀ price ∈ (List.zip (ofProgram program).constraints multipliers).map fun pair =>
        if pair.1.row? = some index then pair.2 else 0, motive price := by
    rw [List.forall_mem_map]
    intro pair member
    split
    · exact own pair member ‹_›
    · exact zero
  rw [rowDual_eq, rowPrice]
  constructor
  case inside =>
    intro aboveLower belowUpper
    have zeros := forall_price (motive := (· = 0)) rfl fun pair member origin => by
      obtain ⟨side, isSide, -, tight⟩ := certificate.exists_side at_index member origin
      by_contra priced
      by_cases atMost : side.1 = .atMost
      · exact (belowUpper _ (mem_upper?_of_mem_sides isSide (by simp [atMost]))).ne (tight priced)
      · exact (aboveLower _ (mem_lower?_of_mem_sides isSide atMost)).ne' (tight priced)
    rw [List.sum_eq_zero zeros, mul_zero]
  case onlyLower =>
    intro _ notUpper
    rw [Direction.maximizingSign_mul_cancel]
    have nonpositive := forall_price (motive := (· ≤ 0)) le_rfl fun pair member origin => by
      obtain ⟨side, isSide, relation, tight⟩ := certificate.exists_side at_index member origin
      by_cases atLeast : side.1 = .atLeast
      · exact certificate.atLeast pair member (relation.trans atLeast)
      · by_contra positive
        have active := tight (not_le.mp positive).ne'
        exact notUpper (active ▸ mem_upper?_of_mem_sides isSide atLeast)
    simpa using List.sum_le_card_nsmul _ 0 nonpositive
  case onlyUpper =>
    intro _ notLower
    rw [Direction.maximizingSign_mul_cancel]
    apply List.sum_nonneg
    apply forall_price (motive := (0 ≤ ·)) le_rfl
    intro pair member origin
    obtain ⟨side, isSide, relation, tight⟩ := certificate.exists_side at_index member origin
    by_cases atMost : side.1 = .atMost
    · exact certificate.atMost pair member (relation.trans atMost)
    · by_contra negative
      have active := tight (not_le.mp negative).ne
      exact notLower (active ▸ mem_lower?_of_mem_sides isSide atMost)

end Rows

section Columns

variable {program : Program K}

structure Owns (form : StandardForm K) (column index : Nat) (sign : K) : Prop where
  own : ∃ substitution, form.substitutions[column]? = some substitution ∧
    Dense.coefficientAt substitution.terms index = sign
  other : ∀ place (substitution : Substitution K), form.substitutions[place]? = some substitution →
    place ≠ column → Dense.coefficientAt substitution.terms index = 0

def firstVariable (program : Program K) (column : Nat) : Nat :=
  ((program.columns.take column).map Substitution.width).sum

theorem getElem?_ofBounds (next : Nat) (bounds : List (Bound K)) (column : Nat) :
    (Substitution.ofBounds next bounds)[column]? =
      bounds[column]?.map
        (Substitution.ofBound (next + ((bounds.take column).map Substitution.width).sum)) := by
  induction bounds generalizing next column with
  | nil => simp [Substitution.ofBounds]
  | cons bound bounds inductionHypothesis =>
      cases column with
      | zero => simp [Substitution.ofBounds]
      | succ column =>
          simp [Substitution.ofBounds, inductionHypothesis, Nat.add_assoc]

theorem getElem?_substitutions (program : Program K) (column : Nat) :
    (ofProgram program).substitutions[column]? =
      program.columns[column]?.map (Substitution.ofBound (firstVariable program column)) := by
  simp [ofProgram, getElem?_ofBounds, firstVariable]

omit [ExactScalar K] in
theorem firstVariable_succ {column : Nat} {bound : Bound K}
    (at_column : program.columns[column]? = some bound) :
    firstVariable program (column + 1) =
      firstVariable program column + Substitution.width bound := by
  simp [firstVariable, List.take_add_one, at_column]

omit [ExactScalar K] in
theorem firstVariable_mono (program : Program K) : Monotone (firstVariable program) := by
  apply monotone_nat_of_le_succ
  intro column
  cases at_column : program.columns[column]? with
  | none => simp [firstVariable, List.take_add_one, at_column]
  | some bound => rw [firstVariable_succ at_column]; exact Nat.le_add_right _ _

theorem owns {column : Nat} {bound : Bound K} (at_column : program.columns[column]? = some bound)
    {offset : Nat} (inside : offset < Substitution.width bound) :
    (ofProgram program).Owns column (firstVariable program column + offset)
      (Dense.coefficientAt
        (Substitution.ofBound (firstVariable program column) bound).terms
        (firstVariable program column + offset)) where
  own := ⟨_, by rw [getElem?_substitutions, at_column, Option.map_some], rfl⟩
  other := by
    intro place substitution at_place differs
    rw [getElem?_substitutions, Option.map_eq_some_iff] at at_place
    obtain ⟨otherBound, at_other, rfl⟩ := at_place
    apply Dense.coefficientAt_of_forall_ne
    intro term member
    have upper := Substitution.index_lt_of_mem_terms member
    have lower := Substitution.le_index_of_mem_terms member
    have nextColumn := firstVariable_succ at_column
    have nextPlace := firstVariable_succ at_other
    rcases Nat.lt_or_gt_of_ne differs with before | after
    · have order := firstVariable_mono program (Nat.succ_le_of_lt before)
      rw [Nat.succ_eq_add_one] at order
      omega
    · have order := firstVariable_mono program (Nat.succ_le_of_lt after)
      rw [Nat.succ_eq_add_one] at order
      omega

namespace Owns

variable {column index : Nat} {sign : K} (owned : (ofProgram program).Owns column index sign)

include owned

theorem coefficientAt_spread (cells : List (Nat × K)) :
    Dense.coefficientAt (spread (ofProgram program).substitutions cells) index =
      sign * Dense.coefficientAt cells column := by
  induction cells with
  | nil => simp [spread]
  | cons cell cells inductionHypothesis =>
      rw [spread_cons, Dense.coefficientAt_append, inductionHypothesis, Dense.coefficientAt_cons,
        mul_add]
      congr 1
      obtain ⟨place, coefficient⟩ := cell
      by_cases same : place = column
      · subst same
        obtain ⟨substitution, at_place, isSign⟩ := owned.own
        simp [spread, at_place, Dense.coefficientAt_scale, isSign, mul_comm]
      · rw [if_neg same, mul_zero]
        cases at_place : (ofProgram program).substitutions[place]? with
        | none => simp [spread, at_place]
        | some substitution =>
            simp [spread, at_place, Dense.coefficientAt_scale, owned.other place _ at_place same]

theorem entry_map_terms (place : Nat) :
    Dense.entry ((ofProgram program).substitutions.map fun substitution =>
      Dense.dotCells substitution.terms (Dense.single index)) place =
        if place = column then sign else 0 := by
  simp only [Dense.dotCells_single, Dense.entry, List.getD_eq_getElem?_getD, List.getElem?_map]
  split
  · rename_i same
    obtain ⟨substitution, at_column, isSign⟩ := owned.own
    simp [same, at_column, isSign]
  · rename_i differs
    cases at_place : (ofProgram program).substitutions[place]? with
    | none => rfl
    | some substitution =>
        have absent := owned.other place substitution at_place differs
        exact absent

theorem entry_cost :
    Dense.entry (ofProgram program).cost index =
      program.direction.maximizingSign * (sign * Dense.entry program.cost column) := by
  have collected := dot_flatten_costOf program.direction program.cost program.columns 0
    (Dense.single index)
  have terms : Dense.dot program.cost ((ofProgram program).substitutions.map fun substitution =>
      Dense.dotCells substitution.terms (Dense.single index)) =
        sign * Dense.entry program.cost column := by
    simp only [Dense.dot_eq_sum, owned.entry_map_terms, mul_ite, mul_zero, Finset.sum_ite_eq',
      Finset.mem_range]
    split
    · rw [mul_comm]
    · rename_i outside
      rw [Dense.entry_of_length_le (Nat.le_of_not_lt outside), mul_zero]
  rw [List.drop_zero, Dense.dot_single] at collected
  rw [← terms]
  exact collected

end Owns

/-- What the ranges of the columns charge for a variable. -/
def rangeCharge (form : StandardForm K) (multipliers : List K) (index : Nat) : K :=
  ((List.zip form.constraints multipliers).map fun pair =>
    if pair.1.row? = none then Dense.coefficientAt pair.1.cells index * pair.2 else 0).sum

def columnDual (program : Program K) (multipliers : List K) (column : Nat) : K :=
  Dense.entry program.cost column -
    ∑ place : Fin program.rows.length,
      Dense.coefficientAt program.rows[place.val].cells column *
        (ofProgram program).rowDual program multipliers place.val

theorem sum_map_add_sum {A : Type} {count : Nat} (items : List A) (first : A → K)
    (factor : Fin count → K) (second : Fin count → A → K) :
    (items.map fun item => first item + ∑ place, factor place * second place item).sum =
      (items.map first).sum + ∑ place, factor place * (items.map (second place)).sum := by
  induction items with
  | nil => simp
  | cons item items inductionHypothesis =>
      simp only [List.map_cons, List.sum_cons, inductionHypothesis, mul_add,
        Finset.sum_add_distrib]
      ring

/-- A constraint charges for a variable what its row charges for the column, or it is a range. -/
theorem Owns.charge_eq {column index : Nat} {sign : K}
    (owned : (ofProgram program).Owns column index sign) {multipliers : List K}
    {pair : Constraint K × K}
    (member : pair ∈ List.zip (ofProgram program).constraints multipliers) :
    Dense.coefficientAt pair.1.cells index * pair.2 =
      (if pair.1.row? = none then Dense.coefficientAt pair.1.cells index * pair.2 else 0) +
        ∑ place : Fin program.rows.length,
          sign * Dense.coefficientAt program.rows[place.val].cells column *
            if pair.1.row? = some place.val then pair.2 else 0 := by
  cases origin : pair.1.row? with
  | none => simp
  | some index =>
      obtain ⟨row, at_index, side, -, cells, -⟩ :=
        exists_side_of_row? (List.of_mem_zip member).1 origin
      obtain ⟨inside, rfl⟩ := List.getElem?_eq_some_iff.mp at_index
      rw [cells, owned.coefficientAt_spread]
      have onlyOne (place : Fin program.rows.length) :
          index = place.val ↔ place = ⟨index, inside⟩ := by
        rw [Fin.ext_iff, eq_comm]
      simp [onlyOne]

theorem Owns.reducedCost_eq {column index : Nat} {sign : K}
    (owned : (ofProgram program).Owns column index sign) (multipliers : List K) :
    (ofProgram program).reducedCost multipliers index =
      sign * (program.direction.maximizingSign * columnDual program multipliers column) -
        (ofProgram program).rangeCharge multipliers index := by
  have squared : (program.direction.maximizingSign : K) * program.direction.maximizingSign = 1 :=
    program.direction.maximizingSign_mul_self
  have rowsCharge : ∑ place : Fin program.rows.length,
      sign * Dense.coefficientAt program.rows[place.val].cells column *
        (ofProgram program).rowPrice multipliers place.val =
      sign * ∑ place : Fin program.rows.length,
        Dense.coefficientAt program.rows[place.val].cells column *
          (ofProgram program).rowPrice multipliers place.val := by
    simp only [Finset.mul_sum, mul_assoc]
  have rowsDual : ∑ place : Fin program.rows.length,
      Dense.coefficientAt program.rows[place.val].cells column *
        (ofProgram program).rowDual program multipliers place.val =
      program.direction.maximizingSign * ∑ place : Fin program.rows.length,
        Dense.coefficientAt program.rows[place.val].cells column *
          (ofProgram program).rowPrice multipliers place.val := by
    simp only [Finset.mul_sum, rowDual_eq, mul_left_comm]
  have allCharge : ((List.zip (ofProgram program).constraints multipliers).map fun pair =>
      Dense.coefficientAt pair.1.cells index * pair.2).sum =
      (ofProgram program).rangeCharge multipliers index +
        ∑ place : Fin program.rows.length,
          sign * Dense.coefficientAt program.rows[place.val].cells column *
            (ofProgram program).rowPrice multipliers place.val := by
    rw [List.map_congr_left fun pair member => owned.charge_eq member, sum_map_add_sum]
    rfl
  rw [reducedCost, allCharge, rowsCharge, owned.entry_cost, columnDual, rowsDual]
  linear_combination (sign * ∑ place : Fin program.rows.length,
    Dense.coefficientAt program.rows[place.val].cells column *
      (ofProgram program).rowPrice multipliers place.val) * squared

/-- The range of a column is the only one that charges for its variables, and it does so
only for a doubly bounded column. -/
theorem Owns.eq_range {column index : Nat} {sign : K}
    (owned : (ofProgram program).Owns column index sign) {constraint : Constraint K}
    (member : constraint ∈ (ofProgram program).constraints) (origin : constraint.row? = none)
    (charges : Dense.coefficientAt constraint.cells index ≠ 0) :
    ∃ least greatest, program.columns[column]? = some (.double least greatest) ∧
      constraint =
        ⟨[(firstVariable program column, 1)], .atMost, greatest - least, none⟩ := by
  rcases (mem_constraints_iff _ _).mp member with ⟨place, row, -, inRow⟩ | inRanges
  · obtain ⟨side, -, rfl⟩ := List.mem_map.mp inRow
    simp at origin
  · obtain ⟨range, inZip, found⟩ := List.mem_filterMap.mp inRanges
    obtain ⟨place, at_place⟩ := List.mem_iff_getElem?.mp inZip
    obtain ⟨bound, substitution, at_bound, at_substitution, rfl⟩ :=
      List.getElem?_zipWith_eq_some.mp at_place
    have isRange : constraint ∈ rangeConstraint? bound substitution := found
    rw [cells_of_rangeConstraint? isRange] at charges
    have same : place = column := by
      by_contra differs
      exact charges (owned.other place substitution at_substitution differs)
    subst same
    rw [getElem?_substitutions, at_bound, Option.map_some] at at_substitution
    obtain rfl := Option.some.inj at_substitution
    cases bound with
    | double least greatest => exact ⟨least, greatest, at_bound, (Option.some.inj isRange).symm⟩
    | _ => simp [rangeConstraint?] at isRange

variable {point multipliers : List K}
  (certificate : (ofProgram program).Certificate point multipliers)

theorem rangeCharge_eq_zero {column index : Nat} {sign : K}
    (owned : (ofProgram program).Owns column index sign)
    (free : ∀ least greatest, program.columns[column]? = some (.double least greatest) →
      ∀ pair ∈ List.zip (ofProgram program).constraints multipliers,
        pair.1 = ⟨[(firstVariable program column, 1)], .atMost, greatest - least, none⟩ →
          pair.2 = 0) :
    (ofProgram program).rangeCharge multipliers index = 0 := by
  apply List.sum_eq_zero
  rw [List.forall_mem_map]
  intro pair member
  split
  · rename_i origin
    by_contra charged
    obtain ⟨coefficient, price⟩ := mul_ne_zero_iff.mp charged
    obtain ⟨least, greatest, at_column, isRange⟩ :=
      owned.eq_range (List.of_mem_zip member).1 origin coefficient
    exact price (free least greatest at_column pair member isRange)
  · rfl

include certificate

theorem rangeCharge_nonneg {column index : Nat} {sign : K}
    (owned : (ofProgram program).Owns column index sign) :
    0 ≤ (ofProgram program).rangeCharge multipliers index := by
  apply List.sum_nonneg
  rw [List.forall_mem_map]
  intro pair member
  split
  · rename_i origin
    by_cases charges : Dense.coefficientAt pair.1.cells index = 0
    · rw [charges, zero_mul]
    · obtain ⟨least, greatest, -, isRange⟩ :=
        owned.eq_range (List.of_mem_zip member).1 origin charges
      refine mul_nonneg ?_ (certificate.atMost pair member (by rw [isRange]))
      rw [isRange]
      simp only [Dense.coefficientAt_cons, Dense.coefficientAt_nil]
      split <;> simp
  · exact le_rfl

omit certificate in
theorem entry_columns {column : Nat} {bound : Bound K}
    (at_column : program.columns[column]? = some bound) (point : List K) :
    Dense.entry ((ofProgram program).columns point) column =
      (Substitution.ofBound (firstVariable program column) bound).value point := by
  simp [columns, Dense.entry, getElem?_substitutions, at_column]

variable (priced : program.cost.length = program.columns.length)

include priced

omit certificate in
theorem variable_lt {column : Nat} {bound : Bound K}
    (at_column : program.columns[column]? = some bound) {offset : Nat}
    (inside : offset < Substitution.width bound) :
    firstVariable program column + offset < (ofProgram program).variableCount := by
  obtain ⟨columnInside, -⟩ := List.getElem?_eq_some_iff.mp at_column
  have next := firstVariable_succ at_column
  have last := firstVariable_mono program (Nat.succ_le_of_lt columnInside)
  have total : firstVariable program program.columns.length =
      (ofProgram program).variableCount := by
    rw [variableCount_ofProgram priced, firstVariable, List.take_length]
  rw [Nat.succ_eq_add_one] at last
  omega

/-- The variables of a column price it from their side, and exactly where they are used. -/
theorem Certificate.columnDual_of_variable {column : Nat} {bound : Bound K}
    (at_column : program.columns[column]? = some bound) (offset : Nat) (sign : K)
    (inside : offset < Substitution.width bound)
    (isSign : Dense.coefficientAt
      (Substitution.ofBound (firstVariable program column) bound).terms
        (firstVariable program column + offset) = sign) :
    let charge :=
      (ofProgram program).rangeCharge multipliers (firstVariable program column + offset)
    sign * (program.direction.maximizingSign * columnDual program multipliers column) ≤ charge ∧
      (Dense.entry point (firstVariable program column + offset) ≠ 0 →
        sign * (program.direction.maximizingSign * columnDual program multipliers column) =
          charge) := by
  have owned := owns at_column inside
  rw [isSign] at owned
  have below := variable_lt priced at_column inside
  have nonpositive := certificate.reducedCost_nonpos _ below
  have zero := certificate.reducedCost_eq_zero _ below
  rw [owned.reducedCost_eq multipliers] at nonpositive zero
  exact ⟨sub_nonpos.mp nonpositive, fun used => sub_eq_zero.mp (zero used)⟩

theorem Certificate.columnDual_of_unranged {column : Nat} {bound : Bound K}
    (at_column : program.columns[column]? = some bound)
    (unranged : ∀ least greatest, bound ≠ .double least greatest) (offset : Nat) (sign : K)
    (inside : offset < Substitution.width bound)
    (isSign : Dense.coefficientAt
      (Substitution.ofBound (firstVariable program column) bound).terms
        (firstVariable program column + offset) = sign) :
    sign * (program.direction.maximizingSign * columnDual program multipliers column) ≤ 0 ∧
      (Dense.entry point (firstVariable program column + offset) ≠ 0 →
        sign * (program.direction.maximizingSign * columnDual program multipliers column) = 0) := by
  have uncharged : (ofProgram program).rangeCharge multipliers
      (firstVariable program column + offset) = 0 :=
    rangeCharge_eq_zero (owns at_column inside) fun least greatest isDouble =>
      absurd (Option.some.inj (at_column.symm.trans isDouble)) (unranged least greatest)
  simpa only [uncharged] using
    certificate.columnDual_of_variable priced at_column offset sign inside isSign

omit certificate priced in
theorem columnDual_eq_zero {column : Nat}
    (zero : program.direction.maximizingSign * columnDual program multipliers column = 0) :
    columnDual program multipliers column = 0 := by
  rw [← program.direction.maximizingSign_mul_cancel (columnDual program multipliers column), zero,
    mul_zero]

/-- At a doubly bounded column only the range charges, and only where the column is at its upper
side. -/
theorem Certificate.double_signs {column : Nat} {least greatest : K}
    (at_column : program.columns[column]? = some (.double least greatest)) :
    (Bound.double least greatest).DualSigns program.direction
      ((Substitution.ofBound (firstVariable program column)
        (.double least greatest)).value point)
      (columnDual program multipliers column) := by
  obtain ⟨charged, used⟩ := certificate.columnDual_of_variable priced at_column 0 1
    (by simp [Substitution.width]) (by simp [Substitution.ofBound])
  have owned := owns at_column (show 0 < Substitution.width (.double least greatest) by
    simp [Substitution.width])
  have nonnegative := rangeCharge_nonneg certificate owned
  -- Below the upper side the range is not tight and charges nothing.
  have loose (below : Dense.entry point (firstVariable program column) ≠ greatest - least) :
      (ofProgram program).rangeCharge multipliers (firstVariable program column + 0) = 0 := by
    apply rangeCharge_eq_zero owned
    intro lower upper isDouble pair member isRange
    obtain ⟨rfl, rfl⟩ := Bound.double.inj (Option.some.inj (at_column.symm.trans isDouble))
    apply certificate.tight pair member
    simpa [isRange, Dense.dotCells_cons] using below
  have value : (Substitution.ofBound (firstVariable program column)
      (.double least greatest)).value point =
        least + Dense.entry point (firstVariable program column) := by
    simp [Substitution.value, Substitution.ofBound, Dense.dotCells_cons]
  rw [one_mul] at charged used
  rw [value]
  constructor
  case inside =>
    intro above below
    have strictLower := above least rfl
    have strictUpper := below greatest rfl
    have isUsed := used (by simpa using strictLower.ne')
    apply columnDual_eq_zero
    rw [isUsed, loose (lt_sub_iff_add_lt'.mpr strictUpper).ne]
  case onlyLower =>
    intro _ notUpper
    have isLoose := loose fun atUpper => notUpper (by simp [Bound.upper?, atUpper])
    rwa [isLoose] at charged
  case onlyUpper =>
    intro _ notLower
    have isUsed := used fun atLower => notLower (by simp [Bound.lower?, ← atLower])
    rwa [isUsed]

theorem Certificate.columnDual_signs {column : Nat} {bound : Bound K}
    (at_column : program.columns[column]? = some bound) :
    bound.DualSigns program.direction
      (Dense.entry ((ofProgram program).columns point) column)
      (columnDual program multipliers column) := by
  have price := certificate.columnDual_of_unranged priced at_column
  rw [entry_columns at_column]
  cases bound with
  | free =>
      -- The two variables of a free column have opposite signs, and only zero suits both.
      obtain ⟨plus, -⟩ :=
        price (by simp) 0 1 (by simp [Substitution.width]) (by simp [Substitution.ofBound])
      obtain ⟨minus, -⟩ :=
        price (by simp) 1 (-1) (by simp [Substitution.width]) (by simp [Substitution.ofBound])
      rw [one_mul] at plus
      rw [neg_one_mul, neg_nonpos] at minus
      exact ⟨fun _ _ => columnDual_eq_zero (plus.antisymm minus), by simp [Bound.lower?],
        by simp [Bound.upper?]⟩
  | lower least =>
      obtain ⟨nonpositive, used⟩ :=
        price (by simp) 0 1 (by simp [Substitution.width]) (by simp [Substitution.ofBound])
      rw [one_mul] at nonpositive used
      constructor
      case inside =>
        intro above _
        apply columnDual_eq_zero (used _)
        have strict := above least rfl
        simp [Substitution.value, Substitution.ofBound, Dense.dotCells_cons] at strict
        exact strict.ne'
      case onlyLower => exact fun _ _ => nonpositive
      case onlyUpper => simp [Bound.upper?]
  | upper greatest =>
      obtain ⟨nonnegative, used⟩ :=
        price (by simp) 0 (-1) (by simp [Substitution.width]) (by simp [Substitution.ofBound])
      rw [neg_one_mul] at nonnegative used
      constructor
      case inside =>
        intro _ below
        apply columnDual_eq_zero (neg_eq_zero.mp (used _))
        have strict := below greatest rfl
        simp [Substitution.value, Substitution.ofBound, Dense.dotCells_cons] at strict
        exact strict.ne'
      case onlyLower => simp [Bound.lower?]
      case onlyUpper => exact fun _ _ => neg_nonpos.mp nonnegative
  | double least greatest => exact certificate.double_signs priced at_column
  | fixed only =>
      have isOnly : (Substitution.ofBound (firstVariable program column)
          (.fixed only)).value point = only := by
        simp [Substitution.value, Substitution.ofBound]
      rw [isOnly]
      exact ⟨fun above below => absurd (above only rfl) (below only rfl).not_gt,
        fun _ notUpper => absurd rfl notUpper, fun _ notLower => absurd rfl notLower⟩

end Columns

section Recover

variable {program : Program K} {point multipliers : List K}

theorem entry_foldl_charge (cells : List (Nat × K)) (dual : K) (costs : List K) {column : Nat}
    (inside : column < costs.length) :
    Dense.entry (cells.foldl (fun costs (column, coefficient) =>
        costs.modify column (· - coefficient * dual)) costs) column =
      Dense.entry costs column - Dense.coefficientAt cells column * dual := by
  induction cells generalizing costs with
  | nil => simp
  | cons cell cells inductionHypothesis =>
      rw [List.foldl_cons, inductionHypothesis _ (by simpa using inside), Dense.entry_modify,
        Dense.coefficientAt_cons]
      by_cases same : cell.1 = column
      · simp only [same, inside, and_self, if_true]
        ring
      · simp [same]

theorem length_foldl_charge (cells : List (Nat × K)) (dual : K) (costs : List K) :
    (cells.foldl (fun costs (column, coefficient) =>
      costs.modify column (· - coefficient * dual)) costs).length = costs.length := by
  induction cells generalizing costs with
  | nil => rfl
  | cons cell cells inductionHypothesis => rw [List.foldl_cons, inductionHypothesis]; simp

theorem foldl_charges_spec (pairs : List (LinearRow K × K)) (costs : List K) :
    let charged := pairs.foldl (fun costs (row, dual) =>
      row.cells.foldl (fun costs (column, coefficient) =>
        costs.modify column (· - coefficient * dual)) costs) costs
    charged.length = costs.length ∧
      ∀ column < costs.length,
        Dense.entry charged column =
          Dense.entry costs column -
            (pairs.map fun pair => Dense.coefficientAt pair.1.cells column * pair.2).sum := by
  induction pairs generalizing costs with
  | nil => simp
  | cons pair pairs inductionHypothesis =>
      obtain ⟨row, dual⟩ := pair
      obtain ⟨length, entries⟩ := inductionHypothesis
        (row.cells.foldl (fun costs (column, coefficient) =>
          costs.modify column (· - coefficient * dual)) costs)
      rw [length_foldl_charge] at length entries
      refine ⟨length, ?_⟩
      intro column inside
      rw [List.foldl_cons, entries column inside, entry_foldl_charge _ _ _ inside, List.map_cons,
        List.sum_cons, sub_sub]

theorem reducedCosts_spec (program : Program K) (duals : List K) :
    (reducedCosts program duals).length = program.cost.length ∧
      ∀ column < program.cost.length,
        Dense.entry (reducedCosts program duals) column =
          Dense.entry program.cost column -
            (List.zipWith (fun row dual => Dense.coefficientAt row.cells column * dual)
              program.rows duals).sum := by
  obtain ⟨length, entries⟩ := foldl_charges_spec (List.zip program.rows duals) program.cost
  refine ⟨length, ?_⟩
  intro column inside
  apply (entries column inside).trans
  rw [List.zip, List.map_zipWith]

/-- The rows charge a column as the duals of the recovered point say. -/
theorem sum_zipWith_rowDual (program : Program K) (multipliers : List K) (column : Nat) :
    (List.zipWith (fun row dual => Dense.coefficientAt row.cells column * dual) program.rows
      ((List.range program.rows.length).map
        ((ofProgram program).rowDual program multipliers))).sum =
      ∑ place : Fin program.rows.length,
        Dense.coefficientAt program.rows[place.val].cells column *
          (ofProgram program).rowDual program multipliers place.val := by
  have asOfFn : List.zipWith (fun row dual => Dense.coefficientAt row.cells column * dual)
      program.rows
        ((List.range program.rows.length).map ((ofProgram program).rowDual program multipliers)) =
      List.ofFn fun place : Fin program.rows.length =>
        Dense.coefficientAt program.rows[place.val].cells column *
          (ofProgram program).rowDual program multipliers place.val :=
    List.ext_getElem (by simp) (by simp)
  rw [asOfFn, List.sum_ofFn]

/-- A certificate of the standard form is recovered as one of the program. -/
theorem Certificate.certified (priced : program.cost.length = program.columns.length)
    (certificate : (ofProgram program).Certificate point multipliers) :
    program.Certified ((ofProgram program).recover program point multipliers) := by
  obtain ⟨length, entries⟩ := reducedCosts_spec program
    ((List.range program.rows.length).map ((ofProgram program).rowDual program multipliers))
  constructor
  case length_rowDual => simp [recover]
  case length_columnDual => exact length.trans priced
  case columnDual_eq =>
    intro column inside
    exact entries column (priced ▸ inside)
  case rows =>
    intro index row at_index
    have signs := certificate.rowDual_signs at_index
    obtain ⟨inside, rfl⟩ := List.getElem?_eq_some_iff.mp at_index
    have activity : Dense.entry
        ((ofProgram program).recover program point multipliers).rowPrimal index =
          Dense.dotCells program.rows[index].cells ((ofProgram program).columns point) := by
      simp [recover, Program.activities, Dense.entry, inside]
    have dual : Dense.entry
        ((ofProgram program).recover program point multipliers).rowDual index =
          (ofProgram program).rowDual program multipliers index := by
      simp [recover, Dense.entry, inside]
    rw [activity, dual]
    exact signs
  case columns =>
    intro index bound at_index
    have signs := certificate.columnDual_signs priced at_index
    obtain ⟨inside, -⟩ := List.getElem?_eq_some_iff.mp at_index
    have dual : Dense.entry
        ((ofProgram program).recover program point multipliers).columnDual index =
          columnDual program multipliers index := by
      rw [columnDual, ← sum_zipWith_rowDual]
      exact entries index (priced ▸ inside)
    rw [dual]
    exact signs

end Recover

end StandardForm

end LinearProgramming
