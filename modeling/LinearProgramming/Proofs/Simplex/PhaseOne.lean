import LinearProgramming.Proofs.Simplex.Improve

/-!
# Phase one

Phase one starts from a feasible basis for minus the sum of the artificial columns.
It ends infeasible only where no non-negative solution has all artificial columns at
zero; otherwise the artificial columns that stay basic belong to redundant rows, and
pricing out puts the objective back in place.
-/

namespace LinearProgramming.Simplex

variable {K : Type} [ExactScalar K]

section Repricing

variable {tableau : Tableau K} {goal : Equation K} {step : Equation K → Row K → Equation K}

theorem Equation.excess_subtract_eq {equation other : Equation K}
    (sameWidth : equation.coefficients.length = other.coefficients.length) (factor : K) :
    (equation.subtract factor other).excess = equation.excess - factor • other.excess :=
  funext fun assignment => Equation.excess_subtract sameWidth factor assignment

theorem Equation.add_eq_subtract (equation other : Equation K) :
    equation.add other = equation.subtract (-1) other := by
  simp [Equation.add, Equation.subtract]

theorem Tableau.Canonical.unit_split (canonical : tableau.Canonical) {before after : List (Row K)}
    {row : Row K} (split : tableau.rows = before ++ row :: after) :
    row.equation.coefficient row.basic = 1 ∧
      (∀ other ∈ before, other.equation.coefficient row.basic = 0) ∧
        ∀ other ∈ after, other.equation.coefficient row.basic = 0 := by
  have at_row : tableau.rows[before.length]? = some row := by simp [split]
  refine ⟨by simpa using canonical.unit at_row at_row, fun other member => ?_,
    fun other member => ?_⟩
  · obtain ⟨place, inside, rfl⟩ := List.mem_iff_getElem.mp member
    have at_place : tableau.rows[place]? = some before[place] := by
      rw [split, List.getElem?_append_left inside, List.getElem?_eq_getElem inside]
    rw [canonical.unit at_row at_place, if_neg (by omega)]
  · obtain ⟨place, inside, rfl⟩ := List.mem_iff_getElem.mp member
    have at_place : tableau.rows[before.length + (place + 1)]? = some after[place] := by
      rw [split, List.getElem?_append_right (by omega)]
      simp [List.getElem?_eq_getElem inside]
    rw [canonical.unit at_row at_place, if_neg (by omega)]

structure PricesOut (tableau : Tableau K) (goal : Equation K)
    (step : Equation K → Row K → Equation K) : Prop where
  change : ∀ equation row, step equation row = equation ∨
    ∃ factor, step equation row = equation.subtract factor row.equation
  settles : ∀ equation, equation.coefficients.length = tableau.columns →
    ∀ row ∈ tableau.rows, row.equation.coefficient row.basic = 1 →
      equation.coefficient row.basic = goal.coefficient row.basic →
        (step equation row).coefficient row.basic = 0

variable (shaped : tableau.Shaped) (prices : PricesOut tableau goal step)

include shaped prices

namespace PricesOut

theorem foldl_sub_mem {rows : List (Row K)} (fromTableau : ∀ row ∈ rows, row ∈ tableau.rows)
    {equation : Equation K} (width : equation.coefficients.length = tableau.columns) :
    (rows.foldl step equation).coefficients.length = tableau.columns ∧
      (rows.foldl step equation).excess - equation.excess ∈ tableau.rowSpace := by
  induction rows generalizing equation with
  | nil => simp [width]
  | cons row rows inductionHypothesis =>
      have member := fromTableau row List.mem_cons_self
      have rest := fun other inRest => fromTableau other (List.mem_cons_of_mem _ inRest)
      rw [List.foldl_cons]
      rcases prices.change equation row with same | ⟨factor, changed⟩
      · rw [same]
        exact inductionHypothesis rest width
      · have sameWidth := width.trans (shaped.rows row member).symm
        have newWidth : (step equation row).coefficients.length = tableau.columns := by
          rw [changed, Equation.length_subtract sameWidth, width]
        obtain ⟨finalWidth, membership⟩ := inductionHypothesis rest newWidth
        refine ⟨finalWidth, ?_⟩
        rw [← sub_add_sub_cancel _ (step equation row).excess]
        apply Submodule.add_mem _ membership
        rw [changed, Equation.excess_subtract_eq sameWidth, sub_sub_cancel_left]
        exact Submodule.neg_mem _ (Submodule.smul_mem _ _ (Tableau.excess_mem_rowSpace member))

theorem coefficient_foldl_of_zero {rows : List (Row K)}
    (fromTableau : ∀ row ∈ rows, row ∈ tableau.rows) {column : Nat}
    (empty : ∀ row ∈ rows, row.equation.coefficient column = 0) {equation : Equation K}
    (width : equation.coefficients.length = tableau.columns) :
    (rows.foldl step equation).coefficient column = equation.coefficient column := by
  induction rows generalizing equation with
  | nil => rfl
  | cons row rows inductionHypothesis =>
      have member := fromTableau row List.mem_cons_self
      have rest {equation : Equation K}
          (width : equation.coefficients.length = tableau.columns) :
          (rows.foldl step equation).coefficient column = equation.coefficient column :=
        inductionHypothesis
          (fun other inRest => fromTableau other (List.mem_cons_of_mem _ inRest))
          (fun other inRest => empty other (List.mem_cons_of_mem _ inRest)) width
      rw [List.foldl_cons]
      rcases prices.change equation row with same | ⟨factor, changed⟩
      · rw [same]
        exact rest width
      · have sameWidth := width.trans (shaped.rows row member).symm
        rw [changed, rest (by rw [Equation.length_subtract sameWidth, width]),
          Equation.coefficient_subtract sameWidth, empty row List.mem_cons_self, mul_zero, sub_zero]

omit shaped in
theorem coefficient_foldl_basic (canonical : tableau.Canonical)
    (width : goal.coefficients.length = tableau.columns) :
    ∀ row ∈ tableau.rows, (tableau.rows.foldl step goal).coefficient row.basic = 0 := by
  intro row member
  obtain ⟨before, after, split⟩ := List.append_of_mem member
  obtain ⟨one, emptyBefore, emptyAfter⟩ := canonical.unit_split split
  have fromBefore : ∀ other ∈ before, other ∈ tableau.rows := by
    simp +contextual [split]
  have fromAfter : ∀ other ∈ after, other ∈ tableau.rows := by
    simp +contextual [split]
  have fromRow : ∀ other ∈ before ++ [row], other ∈ tableau.rows := by
    simp only [split, List.mem_append, List.mem_cons, List.not_mem_nil, or_false]
    rintro other (inBefore | isRow)
    · exact .inl inBefore
    · exact .inr (.inl isRow)
  have reached := prices.coefficient_foldl_of_zero canonical.toShaped fromBefore emptyBefore width
  have settled := prices.settles _
    (prices.foldl_sub_mem canonical.toShaped fromBefore width).1 row member one reached
  have newWidth := (prices.foldl_sub_mem canonical.toShaped fromRow width).1
  rw [List.foldl_append] at newWidth
  have kept := prices.coefficient_foldl_of_zero canonical.toShaped fromAfter emptyAfter newWidth
  rw [split, List.foldl_append, List.foldl_cons]
  exact kept.trans settled

end PricesOut

omit shaped in
/-- A canonical tableau gets a feasible basis for an objective by pricing it out. -/
theorem FeasibleBasis.reprice {start : Tableau K} (canonical : tableau.Canonical)
    (equivalent : tableau.Equivalent start) (nonnegative : tableau.NonNegative)
    (width : goal.coefficients.length = tableau.columns) :
    FeasibleBasis start goal { tableau with objective := tableau.rows.foldl step goal } := by
  obtain ⟨newWidth, membership⟩ :=
    prices.foldl_sub_mem canonical.toShaped (fun _ member => member) width
  exact {
    rows := canonical.rows
    objective := newWidth
    basic_lt := canonical.basic_lt
    unit := canonical.unit
    equivalent := ⟨equivalent.variableCount, equivalent.slacks, equivalent.artificials,
      equivalent.markers, equivalent.rowSpace⟩
    nonnegative := nonnegative
    priced := prices.coefficient_foldl_basic canonical width
    objective_mem := membership }

end Repricing

theorem pricesOut_eliminate (goal : Equation K) {tableau : Tableau K} (shaped : tableau.Shaped) :
    PricesOut tableau goal fun objective row => objective.eliminate row.basic row.equation where
  change := by
    intro equation row
    unfold Equation.eliminate
    split
    · exact .inr ⟨_, rfl⟩
    · exact .inl rfl
  settles := by
    intro equation width row member one _
    rw [Equation.coefficient_eliminate (width.trans (shaped.rows row member).symm), one, mul_one,
      sub_self]

section Penalty

/-- Minus the sum of the artificial columns. -/
def Tableau.penalty (tableau : Tableau K) : Equation K :=
  ⟨Dense.zeros tableau.artificialStart ++ List.replicate tableau.artificials (-1), 0⟩

variable (tableau : Tableau K)

theorem Tableau.length_penalty : tableau.penalty.coefficients.length = tableau.columns := by
  simp [penalty, columns, Dense.zeros]

variable {tableau}

theorem Tableau.coefficient_penalty {column : Nat} (inside : column < tableau.columns) :
    tableau.penalty.coefficient column = if tableau.artificialStart ≤ column then -1 else 0 := by
  unfold Equation.coefficient penalty
  split
  · rename_i artificial
    obtain ⟨offset, rfl⟩ := Nat.exists_eq_add_of_le artificial
    have offsetInside : offset < tableau.artificials := Nat.add_lt_add_iff_left.mp inside
    simp [Dense.entry, Dense.zeros, offsetInside]
  · rename_i structural
    have below : column < (Dense.zeros tableau.artificialStart : List K).length := by
      simpa [Dense.zeros] using structural
    rw [Dense.entry_append_left _ below, Dense.entry_zeros]

theorem Tableau.excess_penalty (assignment : Nat → K) :
    tableau.penalty.excess assignment =
      -∑ column ∈ Finset.range tableau.columns,
        if tableau.artificialStart ≤ column then assignment column else 0 := by
  have rhs : tableau.penalty.rhs = 0 := rfl
  rw [Equation.excess, length_penalty, rhs, sub_zero, ← Finset.sum_neg_distrib]
  apply Finset.sum_congr rfl
  intro column member
  rw [coefficient_penalty (Finset.mem_range.mp member)]
  split <;> simp

theorem Tableau.excess_penalty_of_zero {assignment : Nat → K}
    (artificial : ∀ index, tableau.artificialStart ≤ index → assignment index = 0) :
    tableau.penalty.excess assignment = 0 := by
  rw [excess_penalty, neg_eq_zero]
  apply Finset.sum_eq_zero
  intro column _
  split
  · exact artificial column ‹_›
  · rfl

/-- A positive artificial column costs at least its value. -/
theorem Tableau.excess_penalty_le {assignment : Nat → K}
    (nonnegative : ∀ index, 0 ≤ assignment index) {index : Nat}
    (artificial : tableau.artificialStart ≤ index) (inside : index < tableau.columns) :
    tableau.penalty.excess assignment ≤ -assignment index := by
  have terms : ∀ column ∈ Finset.range tableau.columns,
      0 ≤ if tableau.artificialStart ≤ column then assignment column else 0 := by
    intro column _
    split
    · exact nonnegative column
    · exact le_rfl
  have one := Finset.single_le_sum terms (Finset.mem_range.mpr inside)
  rw [if_pos artificial] at one
  rw [excess_penalty]
  exact neg_le_neg one

theorem Tableau.excess_penalty_nonpos {assignment : Nat → K}
    (nonnegative : ∀ index, 0 ≤ assignment index) : tableau.penalty.excess assignment ≤ 0 := by
  rw [excess_penalty, neg_nonpos]
  apply Finset.sum_nonneg
  intro column _
  split
  · exact nonnegative column
  · exact le_rfl

theorem pricesOut_artificial (canonical : tableau.Canonical) :
    PricesOut tableau tableau.penalty fun objective row =>
      if tableau.artificialStart ≤ row.basic then objective.add row.equation else objective where
  change := by
    intro equation row
    split
    · exact .inr ⟨-1, Equation.add_eq_subtract _ _⟩
    · exact .inl rfl
  settles := by
    intro equation width row member one reached
    rw [Tableau.coefficient_penalty (canonical.basic_lt row member)] at reached
    split
    · rename_i artificial
      rw [if_pos artificial] at reached
      rw [Equation.coefficient_add (width.trans (canonical.rows row member).symm), reached, one,
        neg_add_cancel]
    · rename_i structural
      rwa [if_neg structural] at reached

theorem feasibleBasis_artificialObjective (canonical : tableau.Canonical)
    (nonnegative : tableau.NonNegative) :
    FeasibleBasis tableau tableau.penalty
      { tableau with objective := artificialObjective tableau } :=
  FeasibleBasis.reprice (pricesOut_artificial canonical) canonical (.refl tableau) nonnegative
    tableau.length_penalty

end Penalty

section DriveOut

/-- Driving artificial columns out of the first rows: they are at zero, and rows that
keep one have no other entry. -/
structure Clearing (start : Tableau K) (goal : Equation K) (count : Nat) (tableau : Tableau K) :
    Prop extends FeasibleBasis start goal tableau where
  levels : ∀ row ∈ tableau.rows, tableau.artificialStart ≤ row.basic → row.equation.rhs = 0
  redundant : ∀ index row, index < count → tableau.rows[index]? = some row →
    tableau.artificialStart ≤ row.basic →
      ∀ column < tableau.artificialStart, row.equation.coefficient column = 0

variable {start tableau : Tableau K} {goal : Equation K} {count : Nat}

theorem Clearing.advance (clearing : Clearing start goal count tableau)
    (done : ∀ row, tableau.rows[count]? = some row → tableau.artificialStart ≤ row.basic →
      ∀ column < tableau.artificialStart, row.equation.coefficient column = 0) :
    Clearing start goal (count + 1) tableau where
  toFeasibleBasis := clearing.toFeasibleBasis
  levels := clearing.levels
  redundant := by
    intro index row below at_index
    rcases Nat.lt_succ_iff_lt_or_eq.mp below with before | rfl
    · exact clearing.redundant index row before at_index
    · exact done row at_index

/-- A pivot in a row at zero moves no level, and rows already done have no entry to
eliminate. -/
theorem Clearing.pivot (clearing : Clearing start goal count tableau) {column : Nat}
    {chosen : Row K} (pivotable : tableau.Pivotable count column chosen)
    (structural : column < tableau.artificialStart)
    (artificial : tableau.artificialStart ≤ chosen.basic) :
    Clearing start goal (count + 1) (tableau.pivot count column) := by
  have level := clearing.levels chosen (List.mem_of_getElem? pivotable.found) artificial
  have scaledLevel : (chosen.scaled column).rhs = 0 := by simp [Row.scaled, level]
  -- The chosen row is at zero, so the pivot moves no right-hand side.
  have stays (equation : Equation K) :
      (equation.eliminate column (chosen.scaled column)).rhs = equation.rhs := by
    rw [Equation.rhs_eliminate, scaledLevel, mul_zero, sub_zero]
  have nonnegative : (tableau.pivot count column).NonNegative := by
    intro current member
    obtain ⟨index, at_index⟩ := List.mem_iff_getElem?.mp member
    rcases Tableau.getElem?_rows_pivot pivotable.found at_index with
      ⟨-, rfl⟩ | ⟨-, other, at_old, rfl⟩
    · exact scaledLevel.ge
    · rw [stays]
      exact clearing.nonnegative other (List.mem_of_getElem? at_old)
  refine ⟨clearing.toFeasibleBasis.pivot pivotable nonnegative, ?_, ?_⟩
  · intro current member atArtificial
    rw [Tableau.artificialStart_pivot] at atArtificial
    obtain ⟨index, at_index⟩ := List.mem_iff_getElem?.mp member
    rcases Tableau.getElem?_rows_pivot pivotable.found at_index with
      ⟨-, rfl⟩ | ⟨-, other, at_old, rfl⟩
    · exact scaledLevel
    · rw [stays]
      exact clearing.levels other (List.mem_of_getElem? at_old) atArtificial
  · intro index current below at_index atArtificial place inside
    rw [Tableau.artificialStart_pivot] at atArtificial inside
    rcases Tableau.getElem?_rows_pivot pivotable.found at_index with
      ⟨-, rfl⟩ | ⟨differs, other, at_old, rfl⟩
    · exact absurd structural (Nat.not_lt.mpr atArtificial)
    · have empty := clearing.redundant index other (by omega) at_old atArtificial
      have width := clearing.rows other (List.mem_of_getElem? at_old)
      rw [pivotable.coefficient_eliminate clearing.toShaped width, empty column structural,
        empty place inside, zero_mul, sub_zero]

variable {options : Options K} (zero : options.ZeroTolerances)

include zero

theorem Clearing.driveOut (clearing : Clearing start goal count tableau) :
    Clearing start goal (count + 1) (driveOut options tableau count) := by
  unfold Simplex.driveOut
  cases found : tableau.rows[count]? with
  | none => exact clearing.advance fun row at_count => by simp [found] at at_count
  | some row =>
      have only {other : Row K} (at_count : tableau.rows[count]? = some other) : row = other :=
        Option.some.inj (found.symm.trans at_count)
      simp only
      split
      · rename_i structural
        exact clearing.advance fun other at_count artificial =>
          absurd structural (Nat.not_lt.mpr (only at_count ▸ artificial))
      · rename_i artificial
        have width := clearing.rows row (List.mem_of_getElem? found)
        have structuralWidth := Tableau.artificialStart_le_columns tableau
        split
        · rename_i missing
          -- Without an entry to pivot on the row says nothing about the other columns.
          apply clearing.advance
          intro other at_count _ column inside
          have inRow : column < row.equation.coefficients.length := by omega
          have member : Dense.entry row.equation.coefficients column ∈
              row.equation.coefficients.take tableau.artificialStart := by
            rw [Dense.entry_eq_getElem inRow]
            exact List.mem_take_iff_getElem.mpr ⟨column, by omega, rfl⟩
          have small := List.findIdx?_eq_none_iff.mp missing _ member
          rw [zero.pivot, LawfulScalar.absolute_eq, decide_eq_false_iff_not, abs_pos,
            not_not] at small
          exact only at_count ▸ small
        · rename_i column located
          obtain ⟨inside, passes, -⟩ := List.findIdx?_eq_some_iff_getElem.mp located
          have bounds : column < tableau.artificialStart ∧
              column < row.equation.coefficients.length := by
            simpa using inside
          rw [List.getElem_take, zero.pivot, LawfulScalar.absolute_eq, decide_eq_true_iff,
            abs_pos, ← Dense.entry_eq_getElem] at passes
          exact clearing.pivot ⟨found, by omega, passes⟩ (by omega) (Nat.not_lt.mp artificial)

/-- After a pass over all rows the tableau is cleared. -/
theorem Clearing.foldl_driveOut (clearing : Clearing start goal 0 tableau) (count : Nat) :
    Clearing start goal count ((List.range count).foldl (Simplex.driveOut options) tableau) := by
  induction count with
  | zero => exact clearing
  | succ count inductionHypothesis =>
      rw [List.range_succ, List.foldl_append]
      exact inductionHypothesis.driveOut zero

omit zero in
theorem length_rows_driveOut (tableau : Tableau K) (index : Nat) :
    (Simplex.driveOut options tableau index).rows.length = tableau.rows.length := by
  unfold Simplex.driveOut
  split
  · rfl
  · dsimp only
    split
    · rfl
    · split <;> simp

omit zero in
theorem length_rows_foldl_driveOut (indices : List Nat) (tableau : Tableau K) :
    (indices.foldl (Simplex.driveOut options) tableau).rows.length = tableau.rows.length := by
  induction indices generalizing tableau with
  | nil => rfl
  | cons index indices inductionHypothesis =>
      rw [List.foldl_cons, inductionHypothesis, length_rows_driveOut]

end DriveOut

section Run

def phaseOneStart (start : Tableau K) : Progress K :=
  ⟨{ start with objective := artificialObjective start }, 0, 0⟩

def restored (options : Options K) (objective : Equation K) (tableau : Tableau K) : Tableau K :=
  let cleared := (List.range tableau.rows.length).foldl (driveOut options) tableau
  { cleared with objective := priceOut objective cleared.rows }

variable {start : Tableau K} {options : Options K} (clock : Clock)
  (zero : options.ZeroTolerances) (canonical : start.Canonical)
  (startNonnegative : start.NonNegative)

include zero canonical startNonnegative

theorem feasibleBasis_improve_phaseOneStart (remaining : Nat) :
    FeasibleBasis start start.penalty
      (improve options clock start.columns (fun _ => none) remaining
        (phaseOneStart start)).1.tableau :=
  improve_induction (motive := FeasibleBasis start start.penalty)
    (fun basis choice => (basis.chosen zero choice).2.2) remaining
    (feasibleBasis_artificialObjective canonical startNonnegative)

theorem improve_phaseOneStart_ne_unbounded (remaining : Nat) (final : Progress K) :
    improve options clock start.columns (fun _ => none) remaining (phaseOneStart start) ≠
      (final, .unbounded) := by
  intro ended
  have basis := feasibleBasis_improve_phaseOneStart clock zero canonical startNonnegative remaining
  rw [ended] at basis
  obtain ⟨column, entering, missing⟩ := improve_unbounded ended
  obtain ⟨level, nonnegative, target⟩ := basis.exists_raised zero entering missing 1
  have nonpositive : start.penalty.excess _ ≤ 0 := Tableau.excess_penalty_nonpos nonnegative
  linarith

/-- Where phase one ends with an artificial column left at a positive level, no
non-negative solution is without artificial columns. -/
theorem ne_zero_of_artificialRemains {remaining : Nat} {final : Progress K}
    (ended : improve options clock start.columns (fun _ => none) remaining
      (phaseOneStart start) = (final, .optimal))
    (remains : artificialRemains options final.tableau = true) {assignment : Nat → K}
    (solves : start.Solves assignment) (nonnegative : ∀ index, 0 ≤ assignment index) :
    ∃ index, start.artificialStart ≤ index ∧ assignment index ≠ 0 := by
  have basis := feasibleBasis_improve_phaseOneStart clock zero canonical startNonnegative remaining
  rw [ended] at basis
  by_contra without
  push Not at without
  obtain ⟨row, member, atRow⟩ := List.any_eq_true.mp remains
  simp only [Bool.and_eq_true, decide_eq_true_eq, zero.bound] at atRow
  obtain ⟨place, at_place⟩ := List.mem_iff_getElem?.mp member
  have columns := basis.equivalent.columns_eq
  have artificial := basis.equivalent.artificialStart_eq
  have best := basis.le_basicPoint_of_enteringColumn zero (improve_optimal ended) solves nonnegative
    fun index inside outside => absurd inside (by omega)
  have free := Tableau.excess_penalty_of_zero without
  have cost : start.penalty.excess final.tableau.basicPoint ≤ -final.tableau.basicPoint row.basic :=
    Tableau.excess_penalty_le basis.nonnegative.basicPoint_nonneg (artificial ▸ atRow.1)
      (columns ▸ basis.basic_lt row member)
  rw [basis.toCanonical.basicPoint_basic at_place] at cost
  linarith [atRow.2]

omit startNonnegative in
/-- Where phase one leaves no artificial column at a positive level, driving them out and
pricing out gives a cleared feasible basis for the original objective. -/
theorem feasibleBasis_cleared {tableau : Tableau K}
    (basis : FeasibleBasis start start.penalty tableau)
    (noneRemains : artificialRemains options tableau = false) :
    FeasibleBasis start start.objective (restored options start.objective tableau) ∧
      (restored options start.objective tableau).Cleared := by
  have clearing : Clearing start start.penalty 0 tableau := by
    refine ⟨basis, fun row member artificial => ?_, fun index row below => by omega⟩
    have small := List.any_eq_false.mp noneRemains row member
    simp only [artificial, zero.bound, decide_true, Bool.true_and, decide_eq_true_eq,
      not_lt] at small
    exact small.antisymm (basis.nonnegative row member)
  let cleared := (List.range tableau.rows.length).foldl (driveOut options) tableau
  have done : Clearing start start.penalty tableau.rows.length cleared :=
    clearing.foldl_driveOut zero tableau.rows.length
  have width : start.objective.coefficients.length = cleared.columns := by
    rw [canonical.objective, done.equivalent.columns_eq]
  refine ⟨FeasibleBasis.reprice (pricesOut_eliminate _ done.toShaped) done.toCanonical
    done.equivalent done.nonnegative width, fun row member artificial => ?_⟩
  obtain ⟨index, inside, rfl⟩ := List.mem_iff_getElem.mp member
  have sameLength : cleared.rows.length = tableau.rows.length :=
    length_rows_foldl_driveOut _ _
  exact ⟨done.levels _ member artificial,
    done.redundant index _ (sameLength ▸ inside) (List.getElem?_eq_getElem inside) artificial⟩

omit zero canonical startNonnegative in
theorem phaseOne_eq {final : Progress K} {ending : Ending}
    (run : improve options clock start.columns (fun _ => none) options.pivotLimit
      (phaseOneStart start) = (final, ending))
    (notStopped : ∀ limit, ending ≠ .stopped limit) :
    phaseOne options clock start =
      if artificialRemains options final.tableau then
        ({ final with
            tableau :=
              { final.tableau with objective := priceOut start.objective final.tableau.rows } },
          .infeasible)
      else
        ({ final with tableau := restored options start.objective final.tableau }, .feasible) := by
  rw [phaseOneStart] at run
  rw [phaseOne, run]
  cases remains : artificialRemains options final.tableau <;> cases ending <;>
    simp_all [restored]

omit zero canonical startNonnegative in
theorem phaseOne_stopped {final : Progress K} {limit : Limit}
    (run : improve options clock start.columns (fun _ => none) options.pivotLimit
      (phaseOneStart start) = (final, .stopped limit)) :
    (phaseOne options clock start).2 = .stopped limit := by
  rw [phaseOneStart] at run
  rw [phaseOne, run]

theorem phaseOne_feasible {progress : Progress K}
    (ended : phaseOne options clock start = (progress, .feasible)) :
    FeasibleBasis start start.objective progress.tableau ∧ progress.tableau.Cleared := by
  have basis := feasibleBasis_improve_phaseOneStart clock zero canonical startNonnegative
    options.pivotLimit
  cases run : improve options clock start.columns (fun _ => none) options.pivotLimit
    (phaseOneStart start) with
  | mk final ending =>
      rw [run] at basis
      by_cases stopped : ∃ limit, ending = .stopped limit
      · obtain ⟨limit, rfl⟩ := stopped
        have verdict := phaseOne_stopped clock run
        simp [ended] at verdict
      · rw [phaseOne_eq clock run fun limit same => stopped ⟨limit, same⟩] at ended
        split at ended
        · simp at ended
        · rename_i noneRemains
          obtain rfl := congrArg Prod.fst ended
          exact feasibleBasis_cleared zero canonical basis (Bool.eq_false_iff.mpr noneRemains)

/-- Where phase one ends infeasible, every non-negative solution has an artificial column
that is not at zero. -/
theorem phaseOne_infeasible {progress : Progress K}
    (ended : phaseOne options clock start = (progress, .infeasible)) {assignment : Nat → K}
    (solves : start.Solves assignment) (nonnegative : ∀ index, 0 ≤ assignment index) :
    ∃ index, start.artificialStart ≤ index ∧ assignment index ≠ 0 := by
  cases run : improve options clock start.columns (fun _ => none) options.pivotLimit
    (phaseOneStart start) with
  | mk final ending =>
      cases ending with
      | stopped limit =>
          have verdict := phaseOne_stopped clock run
          simp [ended] at verdict
      | unbounded =>
          exact absurd run (improve_phaseOneStart_ne_unbounded clock zero canonical
            startNonnegative options.pivotLimit final)
      | optimal =>
          rw [phaseOne_eq clock run (by simp)] at ended
          split at ended
          · rename_i remains
            exact ne_zero_of_artificialRemains clock zero canonical startNonnegative run remains
              solves nonnegative
          · simp at ended

end Run

end LinearProgramming.Simplex
