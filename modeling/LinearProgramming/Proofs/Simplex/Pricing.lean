import LinearProgramming.Proofs.Fold
import LinearProgramming.Proofs.Simplex.Pivot
import LinearProgramming.Simplex.Pricing

/-!
# The choice of a pivot

Whatever the pricing rule, a column enters whose reduced cost passes the tolerance,
if there is one.  Whatever the ratio test, a row leaves whose entry passes the
tolerance and whose ratio is within the smallest relaxed ratio, if there is one: by
the two-pass test the row with the greatest entry, else the one with the smallest
ratio.
-/

namespace LinearProgramming.Simplex

variable {K : Type} [ExactScalar K]

section Entering

theorem columnNorms_spec {tableau : Tableau K} (shaped : tableau.Shaped) :
    (columnNorms tableau).length = tableau.columns ∧ ∀ norm ∈ columnNorms tableau, 0 ≤ norm := by
  unfold columnNorms
  apply List.foldlRecOn (motive := fun norms : List K =>
    norms.length = tableau.columns ∧ ∀ norm ∈ norms, 0 ≤ norm)
  · simp [Dense.zeros]
  · rintro norms ⟨length, nonneg⟩ row member
    constructor
    · simp [length, shaped.rows row member]
    · intro norm isNorm
      obtain ⟨place, inside, rfl⟩ := List.mem_iff_getElem.mp isNorm
      rw [List.getElem_zipWith]
      exact add_nonneg (nonneg _ (List.getElem_mem _)) (mul_self_nonneg _)

theorem length_worths (options : Options K) {tableau : Tableau K} (shaped : tableau.Shaped) :
    (worths options tableau).length = tableau.columns := by
  unfold worths
  split
  · simp [(columnNorms_spec shaped).1, shaped.objective]
  · exact shaped.objective

theorem worths_pos (options : Options K) {tableau : Tableau K} (shaped : tableau.Shaped)
    {column : Nat} (positive : 0 < tableau.objective.coefficient column) :
    0 < Dense.entry (worths options tableau) column := by
  unfold worths
  split
  · obtain ⟨length, nonneg⟩ := columnNorms_spec shaped
    have norm := Dense.entry_nonneg nonneg column
    have sameLength : tableau.objective.coefficients.length = (columnNorms tableau).length :=
      shaped.objective.trans length.symm
    rw [Dense.entry_zipWith (by simp) sameLength]
    exact div_pos (mul_pos positive positive) (by linarith)
  · exact positive

/-- What a fold over columns keeps: the greatest worth above zero that was seen. -/
theorem bestColumn_fold (options : Options K) (columns : List (K × K)) (start : Nat)
    (best : K × Option Nat) :
    let result := (columns.zipIdx start).foldl
      (fun (best : K × Option Nat) ((reducedCost, worth), column) =>
        if reducedCost ≤ options.reducedCostTolerance then best
        else if best.1 < worth then (worth, some column)
        else best) best
    (result = best ∨ ∃ place pair, columns[place]? = some pair ∧
      result.2 = some (start + place) ∧ options.reducedCostTolerance < pair.1) ∧
    best.1 ≤ result.1 ∧
    ∀ pair ∈ columns, options.reducedCostTolerance < pair.1 → pair.2 ≤ result.1 := by
  induction columns generalizing start best with
  | nil => simp
  | cons pair columns inductionHypothesis =>
      obtain ⟨reducedCost, worth⟩ := pair
      simp only [List.zipIdx_cons, List.foldl_cons]
      have shift {result : K × Option Nat}
          (inRest : ∃ place pair, columns[place]? = some pair ∧
            result.2 = some (start + 1 + place) ∧ options.reducedCostTolerance < pair.1) :
          ∃ place pair, ((reducedCost, worth) :: columns)[place]? = some pair ∧
            result.2 = some (start + place) ∧ options.reducedCostTolerance < pair.1 := by
        obtain ⟨place, pair, found, position, passes⟩ := inRest
        exact ⟨place + 1, pair, by simpa using found, by rw [position]; congr 1; omega, passes⟩
      by_cases fails : reducedCost ≤ options.reducedCostTolerance
      · obtain ⟨origin, grows, bounds⟩ := inductionHypothesis (start + 1) best
        simp only [if_pos fails]
        refine ⟨origin.imp_right shift, grows, List.forall_mem_cons.mpr ⟨?_, bounds⟩⟩
        intro passes
        exact absurd fails (not_le.mpr passes)
      · by_cases better : best.1 < worth
        · obtain ⟨origin, grows, bounds⟩ :=
            inductionHypothesis (start + 1) (worth, some start)
          simp only [if_neg fails, if_pos better]
          refine ⟨.inr ?_, better.le.trans grows, List.forall_mem_cons.mpr ⟨fun _ => grows, bounds⟩⟩
          rcases origin with unchanged | inRest
          · exact ⟨0, (reducedCost, worth), rfl, by rw [unchanged]; rfl, not_le.mp fails⟩
          · exact shift inRest
        · obtain ⟨origin, grows, bounds⟩ := inductionHypothesis (start + 1) best
          simp only [if_neg fails, if_neg better]
          refine ⟨origin.imp_right shift, grows, List.forall_mem_cons.mpr ⟨?_, bounds⟩⟩
          intro _
          exact (not_lt.mp better).trans grows

theorem bestColumn_eq_some {options : Options K} {columns : List (K × K)} {column : Nat}
    (found : bestColumn options columns = some column) :
    ∃ pair, columns[column]? = some pair ∧ options.reducedCostTolerance < pair.1 := by
  obtain ⟨origin, -, -⟩ := bestColumn_fold options columns 0 (0, none)
  rcases origin with unchanged | ⟨place, pair, at_place, position, passes⟩
  · simp [bestColumn, unchanged] at found
  · obtain rfl : place = column := by simpa [bestColumn, position] using found
    exact ⟨pair, at_place, passes⟩

theorem bestColumn_eq_none {options : Options K} {columns : List (K × K)}
    (missing : bestColumn options columns = none) :
    ∀ pair ∈ columns, options.reducedCostTolerance < pair.1 → pair.2 ≤ 0 := by
  obtain ⟨origin, -, bounds⟩ := bestColumn_fold options columns 0 (0, none)
  rcases origin with unchanged | ⟨place, pair, -, position, -⟩
  · simpa only [unchanged] using bounds
  · simp [bestColumn, position] at missing

variable {options : Options K} {bland : Bool} {tableau : Tableau K} {limit : Nat}

theorem enteringColumn_eq_some {column : Nat}
    (found : enteringColumn options bland tableau limit = some column) :
    column < limit ∧ column < tableau.objective.coefficients.length ∧
      options.reducedCostTolerance < tableau.objective.coefficient column := by
  have read {value : K}
      (at_column : (tableau.objective.coefficients.take limit)[column]? = some value) :
      column < limit ∧ column < tableau.objective.coefficients.length ∧
        tableau.objective.coefficient column = value := by
    obtain ⟨inside, rfl⟩ := List.getElem?_eq_some_iff.mp at_column
    have bounds : column < limit ∧ column < tableau.objective.coefficients.length := by
      simpa using inside
    exact ⟨bounds.1, bounds.2, by simp [Equation.coefficient, Dense.entry, bounds.2]⟩
  cases bland with
  | true =>
      obtain ⟨inside, passes, -⟩ := List.findIdx?_eq_some_iff_getElem.mp found
      obtain ⟨below, width, value⟩ := read (List.getElem?_eq_getElem inside)
      exact ⟨below, width, value ▸ by simpa using passes⟩
  | false =>
      obtain ⟨pair, at_column, passes⟩ := bestColumn_eq_some found
      obtain ⟨at_reduced, -⟩ := List.getElem?_zip_eq_some.mp at_column
      obtain ⟨below, width, value⟩ := read at_reduced
      exact ⟨below, width, value ▸ passes⟩

/-- Under Bland's rule no reduced cost before that of the entering column passes the
tolerance. -/
theorem enteringColumn_bland {column earlier : Nat}
    (found : enteringColumn options true tableau limit = some column)
    (before : earlier < column) :
    tableau.objective.coefficient earlier ≤ options.reducedCostTolerance := by
  obtain ⟨inside, -, fails⟩ := List.findIdx?_eq_some_iff_getElem.mp found
  have bounds : column < limit ∧ column < tableau.objective.coefficients.length := by
    simpa using inside
  have value : tableau.objective.coefficient earlier =
      (tableau.objective.coefficients.take limit)[earlier] := by
    rw [List.getElem_take]
    exact Dense.entry_eq_getElem (before.trans bounds.2)
  rw [value]
  simpa using fails earlier before

theorem enteringColumn_eq_none (shaped : tableau.Shaped)
    (tolerance : 0 ≤ options.reducedCostTolerance)
    (missing : enteringColumn options bland tableau limit = none) :
    ∀ column < limit, tableau.objective.coefficient column ≤ options.reducedCostTolerance := by
  intro column below
  by_contra passes
  replace passes := not_le.mp passes
  have width : column < tableau.objective.coefficients.length := by
    by_contra outside
    have zero : tableau.objective.coefficient column = 0 :=
      Dense.entry_of_length_le (Nat.le_of_not_lt outside)
    exact absurd (zero ▸ passes) (not_lt.mpr tolerance)
  have reduced : (tableau.objective.coefficients.take limit)[column]? =
      some (tableau.objective.coefficient column) := by
    simp [below, Equation.coefficient, Dense.entry, width]
  cases bland with
  | true =>
      have fails := List.findIdx?_eq_none_iff.mp missing _ (List.mem_of_getElem? reduced)
      exact absurd passes (by simpa using fails)
  | false =>
      have worthWidth : column < (worths options tableau).length := by
        rw [length_worths options shaped, ← shaped.objective]
        exact width
      have worth : (worths options tableau)[column]? =
          some (Dense.entry (worths options tableau) column) := by
        simp [Dense.entry, worthWidth]
      have listed : (tableau.objective.coefficient column,
          Dense.entry (worths options tableau) column) ∈
            List.zip (tableau.objective.coefficients.take limit) (worths options tableau) :=
        List.mem_of_getElem? (List.getElem?_zip_eq_some.mpr ⟨reduced, worth⟩)
      have small := bestColumn_eq_none missing _ listed passes
      have positive := worths_pos options shaped (tolerance.trans_lt passes)
      exact absurd positive (not_lt.mpr small)

def Tableau.improvingColumns (tableau : Tableau K) (tolerance : K) (limit : Nat) : Set Nat :=
  {column | column < limit ∧ tolerance < tableau.objective.coefficient column}

theorem mem_improvingColumns {column : Nat}
    (found : enteringColumn options bland tableau limit = some column) :
    column ∈ tableau.improvingColumns options.reducedCostTolerance limit := by
  obtain ⟨below, -, passes⟩ := enteringColumn_eq_some found
  exact ⟨below, passes⟩

theorem enteringColumn_eq_none_iff (shaped : tableau.Shaped)
    (tolerance : 0 ≤ options.reducedCostTolerance) :
    enteringColumn options bland tableau limit = none ↔
      tableau.improvingColumns options.reducedCostTolerance limit = ∅ := by
  constructor
  · intro missing
    rw [Set.eq_empty_iff_forall_notMem]
    rintro column ⟨below, passes⟩
    exact absurd passes (not_lt.mpr (enteringColumn_eq_none shaped tolerance missing column below))
  · intro empty
    rw [Option.eq_none_iff_forall_ne_some]
    intro column found
    exact Set.eq_empty_iff_forall_notMem.mp empty column (mem_improvingColumns found)

end Entering

section Leaving

namespace Row

/-- How far a column can grow before the basic column of the row is zero. -/
def ratio (row : Row K) (column : Nat) : K :=
  max row.equation.rhs 0 / row.equation.coefficient column

theorem ratio_eq_zero {row : Row K} (zero : row.equation.rhs = 0) (column : Nat) :
    row.ratio column = 0 := by
  simp [ratio, zero]

def relaxedRatio (options : Options K) (row : Row K) (column : Nat) : K :=
  (max row.equation.rhs 0 + options.boundTolerance) / row.equation.coefficient column

def candidate (row : Row K) (column index : Nat) : Candidate K :=
  ⟨index, row.basic, row.equation.coefficient column, row.level⟩

@[simp]
theorem ratio_candidate (row : Row K) (column index : Nat) :
    (row.candidate column index).ratio = row.ratio column := by
  simp [candidate, Candidate.ratio, level, ratio]

@[simp]
theorem relaxedRatio_candidate (options : Options K) (row : Row K) (column index : Nat) :
    (row.candidate column index).relaxedRatio options = row.relaxedRatio options column := by
  simp [candidate, Candidate.relaxedRatio, level, relaxedRatio]

end Row

namespace Tableau

def eligibleRows (tableau : Tableau K) (tolerance : K) (column : Nat) : Set (Row K) :=
  {row | row ∈ tableau.rows ∧ tolerance < row.equation.coefficient column}

/-- The rows that pass the pivot tolerance with a ratio within the smallest relaxed ratio. -/
def reachedRows (tableau : Tableau K) (options : Options K) (column : Nat) : Set (Row K) :=
  {row ∈ tableau.eligibleRows options.pivotTolerance column | ∃ reach,
    IsLeast {ratio | ∃ other ∈ tableau.eligibleRows options.pivotTolerance column,
      other.relaxedRatio options column = ratio} reach ∧ row.ratio column ≤ reach}

/-- The ratio of the row is the smallest of all eligible rows, and of those with the same ratio
it has the smallest basic column. -/
structure SmallestRatio (tableau : Tableau K) (tolerance : K) (column : Nat) (row : Row K) :
    Prop where
  eligible : row ∈ tableau.eligibleRows tolerance column
  least : ∀ other ∈ tableau.eligibleRows tolerance column, row.ratio column ≤ other.ratio column
  first : ∀ other ∈ tableau.eligibleRows tolerance column,
    other.ratio column = row.ratio column → row.basic ≤ other.basic

/-- The entry of the row is the greatest of all rows within the smallest relaxed ratio. -/
structure GreatestPivot (tableau : Tableau K) (options : Options K) (column : Nat) (row : Row K) :
    Prop where
  reached : row ∈ tableau.reachedRows options column
  greatest : ∀ other ∈ tableau.reachedRows options column,
    other.equation.coefficient column ≤ row.equation.coefficient column

end Tableau

theorem mem_candidates_iff {options : Options K} {tableau : Tableau K} {column : Nat}
    {candidate : Candidate K} :
    candidate ∈ candidates options tableau column ↔
      ∃ row ∈ tableau.eligibleRows options.pivotTolerance column,
        tableau.rows[candidate.row]? = some row ∧
          candidate = row.candidate column candidate.row := by
  simp only [candidates, List.mem_filterMap, List.mem_zipIdx_iff_getElem?,
    Option.ite_none_right_eq_some, Option.some.injEq, Prod.exists]
  constructor
  · rintro ⟨row, index, at_index, passes, rfl⟩
    exact ⟨row, ⟨List.mem_of_getElem? at_index, passes⟩, at_index, rfl⟩
  · rintro ⟨row, ⟨-, passes⟩, at_row, same⟩
    exact ⟨row, candidate.row, at_row, passes, same.symm⟩

theorem exists_candidate {options : Options K} {tableau : Tableau K} {column : Nat} {row : Row K}
    (eligible : row ∈ tableau.eligibleRows options.pivotTolerance column) :
    ∃ index, row.candidate column index ∈ candidates options tableau column := by
  obtain ⟨index, at_index⟩ := List.mem_iff_getElem?.mp eligible.1
  exact ⟨index, mem_candidates_iff.mpr ⟨row, eligible, at_index, rfl⟩⟩

theorem relaxedRatios_candidates (options : Options K) (tableau : Tableau K) (column : Nat) :
    {ratio | ∃ candidate ∈ candidates options tableau column,
      candidate.relaxedRatio options = ratio} =
        {ratio | ∃ row ∈ tableau.eligibleRows options.pivotTolerance column,
          row.relaxedRatio options column = ratio} := by
  ext ratio
  constructor
  · rintro ⟨candidate, member, rfl⟩
    obtain ⟨row, eligible, -, same⟩ := mem_candidates_iff.mp member
    exact ⟨row, eligible, by rw [same, Row.relaxedRatio_candidate]⟩
  · rintro ⟨row, eligible, rfl⟩
    obtain ⟨index, member⟩ := exists_candidate eligible
    exact ⟨_, member, Row.relaxedRatio_candidate _ _ _ _⟩

/-- The order in which rows leave: the smaller ratio first, and of equal ratios the smaller
basic column. -/
def Candidate.Precedes (left right : Candidate K) : Prop :=
  left.ratio < right.ratio ∨ left.ratio = right.ratio ∧ left.basic ≤ right.basic

theorem Candidate.Precedes.ratio_le {left right : Candidate K} (precedes : left.Precedes right) :
    left.ratio ≤ right.ratio := by
  rcases precedes with less | ⟨equal, -⟩
  · exact less.le
  · exact equal.le

theorem prefers_smallestRatio :
    Prefers
      (fun (best : Option (Candidate K)) candidate =>
        match best with
        | none => if Scalar.belowInfinity candidate.ratio then some candidate else none
        | some current =>
            if candidate.ratio < current.ratio ||
                (candidate.ratio == current.ratio && decide (candidate.basic < current.basic)) then
              some candidate
            else best)
      Candidate.Precedes where
  first value := by simp
  next current value := by
    by_cases less : value.ratio < current.ratio
    · exact .inl ⟨by simp [less], .inl less⟩
    · by_cases tie : value.ratio = current.ratio ∧ value.basic < current.basic
      · exact .inl ⟨by simp [tie.1, tie.2], .inr ⟨tie.1, tie.2.le⟩⟩
      · have keeps : ¬ (value.ratio < current.ratio ∨
            value.ratio = current.ratio ∧ value.basic < current.basic) := by
          simp only [less, tie, or_self, not_false_eq_true]
        refine .inr ⟨if_neg (by simpa using keeps), ?_⟩
        rcases (not_lt.mp less).lt_or_eq with greater | equal
        · exact .inl greater
        · exact .inr ⟨equal, Nat.le_of_not_lt fun smaller => tie ⟨equal.symm, smaller⟩⟩
  refl _ := .inr ⟨rfl, le_rfl⟩
  trans first second := by
    rcases first with less | ⟨equal, smaller⟩
    · exact .inl (less.trans_le second.ratio_le)
    · rcases second with less | ⟨same, next⟩
      · exact .inl (equal.trans_lt less)
      · exact .inr ⟨equal.trans same, smaller.trans next⟩

theorem prefers_greatestPivot :
    Prefers
      (fun (best : Option (Candidate K)) candidate =>
        match best with
        | none => some candidate
        | some current =>
            if Scalar.precedes candidate.pivot current.pivot then best else some candidate)
      fun left right => right.pivot ≤ left.pivot where
  first _ := rfl
  next current value := by
    by_cases less : value.pivot < current.pivot
    · exact .inr ⟨by simp [less], less.le⟩
    · exact .inl ⟨by simp [less], not_lt.mp less⟩
  refl _ := le_rfl
  trans first second := second.trans first

theorem prefers_least :
    Prefers
      (fun (least : Option K) value =>
        match least with
        | none => if Scalar.isNaN value then none else some value
        | some current => some (Scalar.smaller current value))
      fun left right => left ≤ right where
  first value := by simp
  next current value := by
    rcases le_total current value with order | order
    · exact .inr ⟨by simp [order], order⟩
    · exact .inl ⟨by simp [order], order⟩
  refl _ := le_rfl
  trans := le_trans

/-- The two-pass ratio test takes the greatest pivot of the candidates whose ratios stay within
the smallest relaxed ratio. -/
theorem harrisRow_eq_some {options : Options K} {rows : List (Candidate K)}
    {chosen : Candidate K} (found : harrisRow options rows = some chosen) :
    ∃ reach, IsLeast {ratio | ∃ candidate ∈ rows, candidate.relaxedRatio options = ratio} reach ∧
      (chosen ∈ rows ∧ chosen.ratio ≤ reach) ∧
        ∀ candidate ∈ rows, candidate.ratio ≤ reach → candidate.pivot ≤ chosen.pivot := by
  unfold harrisRow at found
  cases least : Scalar.least? (rows.map (·.relaxedRatio options)) with
  | none => simp [least] at found
  | some reach =>
      simp only [least, LawfulScalar.isFinite_eq, if_true] at found
      obtain ⟨attained, smallest⟩ := prefers_least.foldl_eq_some least
      obtain ⟨membership, greatest⟩ := prefers_greatestPivot.foldl_eq_some found
      refine ⟨reach, ⟨List.mem_map.mp attained, ?_⟩, ?_, ?_⟩
      · rintro _ ⟨candidate, member, rfl⟩
        exact smallest _ (List.mem_map_of_mem member)
      · simpa using List.mem_filter.mp membership
      · intro candidate member within
        exact greatest candidate (List.mem_filter.mpr ⟨member, decide_eq_true within⟩)

theorem harrisRow_eq_none {options : Options K} (tolerance : 0 ≤ options.boundTolerance)
    {rows : List (Candidate K)} (pivots : ∀ candidate ∈ rows, 0 < candidate.pivot)
    (missing : harrisRow options rows = none) : rows = [] := by
  unfold harrisRow at missing
  cases least : Scalar.least? (rows.map (·.relaxedRatio options)) with
  | none => simpa using (prefers_least.foldl_eq_none_iff _).mp least
  | some reach =>
      simp only [least, LawfulScalar.isFinite_eq, if_true] at missing
      obtain ⟨attained, -⟩ := prefers_least.foldl_eq_some least
      obtain ⟨candidate, member, rfl⟩ := List.mem_map.mp attained
      have within : candidate.ratio ≤ candidate.relaxedRatio options := by
        have pivot := pivots candidate member
        exact div_le_div_of_nonneg_right (by linarith) pivot.le
      have empty := (prefers_greatestPivot.foldl_eq_none_iff _).mp missing
      have excluded := List.filter_eq_nil_iff.mp empty candidate member
      exact absurd (decide_eq_true within) excluded

variable {options : Options K} {bland : Bool} {tableau : Tableau K} {column : Nat}

theorem smallestRatio_of_leavingRow {index : Nat} (plain : (options.harris && !bland) = false)
    (found : leavingRow options bland tableau column = some index) :
    ∃ row, tableau.rows[index]? = some row ∧
      tableau.SmallestRatio options.pivotTolerance column row := by
  obtain ⟨candidate, isChosen, rfl⟩ := Option.map_eq_some_iff.mp found
  rw [plain, if_neg Bool.false_ne_true] at isChosen
  obtain ⟨membership, preferred⟩ := prefers_smallestRatio.foldl_eq_some isChosen
  obtain ⟨row, eligible, at_row, same⟩ := mem_candidates_iff.mp membership
  have precedes (other : Row K)
      (isOther : other ∈ tableau.eligibleRows options.pivotTolerance column) :
      row.ratio column < other.ratio column ∨
        row.ratio column = other.ratio column ∧ row.basic ≤ other.basic := by
    obtain ⟨place, member⟩ := exists_candidate isOther
    have order := preferred _ member
    rw [same] at order
    simp only [Candidate.Precedes, Row.ratio_candidate] at order
    exact order
  refine ⟨row, at_row, eligible, fun other isOther => ?_, fun other isOther tie => ?_⟩
  · rcases precedes other isOther with less | ⟨equal, -⟩
    · exact less.le
    · exact equal.le
  · rcases precedes other isOther with less | ⟨-, smaller⟩
    · exact absurd tie less.ne'
    · exact smaller

theorem greatestPivot_of_leavingRow {index : Nat} (twoPass : (options.harris && !bland) = true)
    (found : leavingRow options bland tableau column = some index) :
    ∃ row, tableau.rows[index]? = some row ∧ tableau.GreatestPivot options column row := by
  obtain ⟨candidate, isChosen, rfl⟩ := Option.map_eq_some_iff.mp found
  rw [twoPass, if_pos rfl] at isChosen
  obtain ⟨reach, least, ⟨membership, within⟩, greatest⟩ := harrisRow_eq_some isChosen
  obtain ⟨row, eligible, at_row, same⟩ := mem_candidates_iff.mp membership
  rw [relaxedRatios_candidates] at least
  rw [same, Row.ratio_candidate] at within
  refine ⟨row, at_row, ⟨eligible, reach, least, within⟩, ?_⟩
  rintro other ⟨isOther, otherReach, otherLeast, otherWithin⟩
  obtain rfl := otherLeast.unique least
  obtain ⟨place, member⟩ := exists_candidate isOther
  have order := greatest _ member ((Row.ratio_candidate _ _ _).trans_le otherWithin)
  rwa [same] at order

theorem mem_eligibleRows {index : Nat}
    (found : leavingRow options bland tableau column = some index) :
    ∃ row ∈ tableau.eligibleRows options.pivotTolerance column,
      tableau.rows[index]? = some row := by
  cases rule : options.harris && !bland with
  | false =>
      obtain ⟨row, at_row, smallest⟩ := smallestRatio_of_leavingRow rule found
      exact ⟨row, smallest.eligible, at_row⟩
  | true =>
      obtain ⟨row, at_row, greatest⟩ := greatestPivot_of_leavingRow rule found
      exact ⟨row, greatest.reached.1, at_row⟩

/-- The leaving row passes the pivot tolerance, and its ratio is within the relaxed
ratios of all rows that do. -/
theorem leavingRow_eq_some (boundTolerance : 0 ≤ options.boundTolerance)
    (pivotTolerance : 0 ≤ options.pivotTolerance) {row : Nat}
    (found : leavingRow options bland tableau column = some row) :
    ∃ chosen, tableau.rows[row]? = some chosen ∧
      options.pivotTolerance < chosen.equation.coefficient column ∧
      ∀ other ∈ tableau.rows, options.pivotTolerance < other.equation.coefficient column →
        chosen.level / chosen.equation.coefficient column ≤
          (other.level + options.boundTolerance) / other.equation.coefficient column := by
  simp only [Row.level, Scalar.larger_eq_max]
  cases rule : options.harris && !bland with
  | false =>
      obtain ⟨chosen, at_row, smallest⟩ := smallestRatio_of_leavingRow rule found
      refine ⟨chosen, at_row, smallest.eligible.2, fun other member passes => ?_⟩
      apply (smallest.least other ⟨member, passes⟩).trans
      exact div_le_div_of_nonneg_right (by linarith) (pivotTolerance.trans passes.le)
  | true =>
      obtain ⟨chosen, at_row, greatest⟩ := greatestPivot_of_leavingRow rule found
      obtain ⟨eligible, reach, least, within⟩ := greatest.reached
      refine ⟨chosen, at_row, eligible.2, fun other member passes => ?_⟩
      exact within.trans (least.2 ⟨other, ⟨member, passes⟩, rfl⟩)

theorem leavingRow_eq_none (boundTolerance : 0 ≤ options.boundTolerance)
    (pivotTolerance : 0 ≤ options.pivotTolerance)
    (missing : leavingRow options bland tableau column = none) :
    ∀ row ∈ tableau.rows, row.equation.coefficient column ≤ options.pivotTolerance := by
  have pivots : ∀ candidate ∈ candidates options tableau column, 0 < candidate.pivot := by
    intro candidate member
    obtain ⟨row, eligible, -, same⟩ := mem_candidates_iff.mp member
    rw [same]
    exact pivotTolerance.trans_lt eligible.2
  have empty : candidates options tableau column = [] := by
    replace missing := Option.map_eq_none_iff.mp missing
    split at missing
    · exact harrisRow_eq_none boundTolerance pivots missing
    · exact (prefers_smallestRatio.foldl_eq_none_iff _).mp missing
  intro row member
  by_contra passes
  have eligible : row ∈ tableau.eligibleRows options.pivotTolerance column :=
    ⟨member, not_le.mp passes⟩
  obtain ⟨index, listed⟩ := exists_candidate eligible
  rw [empty] at listed
  cases listed

theorem leavingRow_eq_none_iff (boundTolerance : 0 ≤ options.boundTolerance)
    (pivotTolerance : 0 ≤ options.pivotTolerance) :
    leavingRow options bland tableau column = none ↔
      tableau.eligibleRows options.pivotTolerance column = ∅ := by
  constructor
  · intro missing
    rw [Set.eq_empty_iff_forall_notMem]
    rintro row ⟨member, passes⟩
    exact absurd passes
      (not_lt.mpr (leavingRow_eq_none boundTolerance pivotTolerance missing row member))
  · intro empty
    rw [Option.eq_none_iff_forall_ne_some]
    intro index found
    obtain ⟨row, eligible, -⟩ := mem_eligibleRows found
    exact Set.eq_empty_iff_forall_notMem.mp empty row eligible

end Leaving

end LinearProgramming.Simplex
