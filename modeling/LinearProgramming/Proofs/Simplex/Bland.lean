import Mathlib.Data.Set.Finite.Lemmas
import Mathlib.Order.Filter.AtTopBot.Basic
import Mathlib.Order.Filter.Finite
import LinearProgramming.Proofs.Simplex.Basis

/-!
# Bland's rule

Under Bland's rule pivots in rows at zero come to an end.  In an endless sequence of them some
columns enter again and again; the greatest of these enters once and leaves another time.  When
it leaves, raising the column that enters in its place improves the objective, so in terms of the
tableau where it entered one of the columns that move improves it: but those before it have no
positive reduced cost there, and one with a negative reduced cost that falls would have left in
its place.
-/

namespace LinearProgramming.Simplex

variable {K : Type} [ExactScalar K]

structure Endless (options : Options K) (columns : Nat) where
  progress : Nat → Progress K
  row : Nat → Nat
  column : Nat → Nat
  chosen : ∀ time, Chosen options (progress time) columns (row time) (column time)
  next : ∀ time, progress (time + 1) = (progress time).step options (row time) (column time)

/-! ## The exchange of two columns -/

section Exchange

variable {start first second : Tableau K} {goal : Equation K}

/-- Where raising a column improves the objective, one of the columns that move with it improves
the objective of any other tableau. -/
theorem FeasibleBasis.exists_moved (firstBasis : FeasibleBasis start goal first)
    (secondBasis : FeasibleBasis start goal second) {column : Nat}
    (improving : 0 < second.objective.coefficient column) :
    ∃ moved, 0 < first.objective.coefficient moved *
      (second.raised column 1 moved - second.basicPoint moved) := by
  have gain : first.objective.excess (second.raised column 1) -
      first.objective.excess second.basicPoint = second.objective.coefficient column := by
    rw [← firstBasis.goal_eq (secondBasis.solves_raised column 1),
      ← firstBasis.goal_eq secondBasis.solves_basicPoint, secondBasis.goal_raised,
      secondBasis.goal_basicPoint]
    ring
  have terms : first.objective.excess (second.raised column 1) -
      first.objective.excess second.basicPoint =
        ∑ moved ∈ Finset.range first.objective.coefficients.length,
          first.objective.coefficient moved *
            (second.raised column 1 moved - second.basicPoint moved) := by
    simp only [Equation.excess, mul_sub, Finset.sum_sub_distrib]
    ring
  rw [gain] at terms
  by_contra none
  push Not at none
  have nonpositive := Finset.sum_nonpos fun moved
    (_ : moved ∈ Finset.range first.objective.coefficients.length) => none moved
  linarith

/-- The column `last` enters the first tableau as Bland's rule asks for, and leaves the second one,
which has the same basic point, from a row at zero as the column `column` enters. -/
structure Exchange (first second : Tableau K) (last row column : Nat) (chosen : Row K) : Prop
    extends Improves second row column chosen where
  samePoint : first.basicPoint = second.basicPoint
  enters : 0 < first.objective.coefficient last
  before : ∀ other < last, first.objective.coefficient other ≤ 0
  leaves : chosen.basic = last
  smallest : ∀ other ∈ second.rows, 0 < other.equation.coefficient column →
    other.equation.rhs = 0 → last ≤ other.basic

namespace Exchange

variable {last row column : Nat} {chosen : Row K}
  (exchange : Exchange first second last row column chosen)

include exchange

theorem lt_of_basic (secondBasis : FeasibleBasis start goal second) {index : Nat}
    {current : Row K} (at_index : second.rows[index]? = some current)
    (outside : current.basic ∉ first.basis)
    (gains : 0 < first.objective.coefficient current.basic *
      -current.equation.coefficient column) : last < current.basic := by
  have canonical := secondBasis.toCanonical
  rcases lt_trichotomy current.basic last with earlier | same | later
  · -- It has no positive reduced cost, so it falls; but it is at zero, and comes before `last`.
    have cost := exchange.before _ earlier
    have falls : 0 < current.equation.coefficient column := by
      by_contra stays
      have product := mul_nonneg (neg_nonneg.mpr cost) (neg_nonneg.mpr (not_lt.mp stays))
      linarith
    have level : current.equation.rhs = 0 := by
      rw [← canonical.basicPoint_basic at_index, ← exchange.samePoint,
        Tableau.basicPoint_of_not_mem_basis outside]
    have atLeast := exchange.smallest current (List.mem_of_getElem? at_index) falls level
    exact absurd atLeast (Nat.not_le.mpr earlier)
  · -- It is `last` itself, which falls and would improve by rising.
    have isChosen : current = chosen := by
      have sameIndex := canonical.basic_injective at_index exchange.found
        (same.trans exchange.leaves.symm)
      exact Option.some.inj ((sameIndex ▸ at_index).symm.trans exchange.found)
    have product := mul_pos (same ▸ exchange.enters) (isChosen ▸ exchange.positive)
    linarith
  · exact later

theorem lt_of_entering (secondBasis : FeasibleBasis start goal second)
    (gains : 0 < first.objective.coefficient column) : last < column := by
  rcases lt_trichotomy column last with earlier | same | later
  · exact absurd gains (not_lt.mpr (exchange.before column earlier))
  · have basic := Tableau.mem_basis.mpr
      ⟨chosen, List.mem_of_getElem? exchange.found, exchange.leaves.trans same.symm⟩
    exact absurd basic (exchange.not_mem_basis secondBasis.priced)
  · exact later

/-- A column after `last` is exchanged as well: the one that enters the second tableau, or one that
has entered since the first. -/
theorem exists_beyond (firstBasis : FeasibleBasis start goal first)
    (secondBasis : FeasibleBasis start goal second) :
    ∃ moved, last < moved ∧
      (moved = column ∨ moved ∉ first.basis ∧ moved ∈ second.basis) := by
  have columnOutside := exchange.not_mem_basis secondBasis.priced
  obtain ⟨moved, gains⟩ := firstBasis.exists_moved secondBasis exchange.improving
  have outside : moved ∉ first.basis := by
    intro basic
    rw [firstBasis.priced.coefficient_eq_zero basic, zero_mul] at gains
    exact gains.false
  by_cases basic : moved ∈ second.basis
  · obtain ⟨current, member, rfl⟩ := Tableau.mem_basis.mp basic
    obtain ⟨index, at_index⟩ := List.mem_iff_getElem?.mp member
    have moves : second.raised column 1 current.basic - second.basicPoint current.basic =
        -current.equation.coefficient column := by
      rw [secondBasis.toCanonical.raised_basic at_index columnOutside,
        secondBasis.toCanonical.basicPoint_basic at_index, Tableau.follow]
      ring
    rw [moves] at gains
    exact ⟨_, exchange.lt_of_basic secondBasis at_index outside gains, .inr ⟨outside, basic⟩⟩
  · rw [Tableau.raised_of_not_mem_basis basic, Tableau.basicPoint_of_not_mem_basis basic,
      sub_zero] at gains
    by_cases entering : moved = column
    · subst entering
      rw [if_pos rfl, mul_one] at gains
      exact ⟨moved, exchange.lt_of_entering secondBasis gains, .inl rfl⟩
    · -- All other columns outside the basis stay at zero.
      rw [if_neg entering, mul_zero] at gains
      exact absurd gains (lt_irrefl 0)

end Exchange

end Exchange

namespace Endless

variable {options : Options K} {columns : Nat} (endless : Endless options columns)

def tableau (time : Nat) : Tableau K :=
  (endless.progress time).tableau

theorem tableau_next (time : Nat) :
    endless.tableau (time + 1) =
      (endless.tableau time).pivot (endless.row time) (endless.column time) := by
  rw [tableau, endless.next]
  rfl

def drop (start : Nat) : Endless options columns where
  progress time := endless.progress (start + time)
  row time := endless.row (start + time)
  column time := endless.column (start + time)
  chosen time := endless.chosen (start + time)
  next time := endless.next (start + time)

def DegenerateAt (time : Nat) : Prop :=
  ∀ chosen, (endless.tableau time).rows[endless.row time]? = some chosen →
    chosen.equation.rhs = 0

variable {start : Tableau K} {goal : Equation K} (zero : options.ZeroTolerances)
  (basis : FeasibleBasis start goal (endless.tableau 0))

include zero basis

theorem feasibleBasis (time : Nat) : FeasibleBasis start goal (endless.tableau time) := by
  induction time with
  | zero => exact basis
  | succ time inductionHypothesis =>
      rw [tableau_next]
      exact (inductionHypothesis.chosen zero (endless.chosen time)).2.2

theorem exists_improves (time : Nat) :
    ∃ chosen, Improves (endless.tableau time) (endless.row time) (endless.column time) chosen :=
  (endless.feasibleBasis zero basis time).exists_improves zero (endless.chosen time)

theorem mem_basis_next_iff {time : Nat} {chosen : Row K}
    (improves : Improves (endless.tableau time) (endless.row time) (endless.column time) chosen)
    {column : Nat} :
    column ∈ (endless.tableau (time + 1)).basis ↔
      column = endless.column time ∨
        column ∈ (endless.tableau time).basis ∧ column ≠ chosen.basic := by
  rw [tableau_next]
  exact (endless.feasibleBasis zero basis time).toCanonical.mem_basis_pivot improves.toPivotable

theorem column_lt (time : Nat) : endless.column time < start.columns := by
  obtain ⟨chosen, improves⟩ := endless.exists_improves zero basis time
  rw [← (endless.feasibleBasis zero basis time).equivalent.columns_eq]
  exact improves.inside

/-! ## Columns that enter again and again -/

def Recurs (column : Nat) : Prop :=
  ∃ᶠ time in Filter.atTop, endless.column time = column

/-- From this time on the column stays in the basis, or stays out of it. -/
def SettledAt (column time : Nat) : Prop :=
  (∀ later, time ≤ later → column ∈ (endless.tableau later).basis) ∨
    ∀ later, time ≤ later → column ∉ (endless.tableau later).basis

omit zero basis in
theorem settledAt_mono {column time later : Nat} (settled : endless.SettledAt column time)
    (after : time ≤ later) : endless.SettledAt column later :=
  settled.imp (fun stays other order => stays other (after.trans order))
    fun stays other order => stays other (after.trans order)

omit zero basis in
theorem mem_basis_iff_of_settledAt {column time first second : Nat}
    (settled : endless.SettledAt column time) (firstAfter : time ≤ first)
    (secondAfter : time ≤ second) :
    column ∈ (endless.tableau first).basis ↔ column ∈ (endless.tableau second).basis := by
  rcases settled with inside | outside
  · exact iff_of_true (inside first firstAfter) (inside second secondAfter)
  · exact iff_of_false (outside first firstAfter) (outside second secondAfter)

theorem not_settledAt_column {time later : Nat} (after : time ≤ later) :
    ¬ endless.SettledAt (endless.column later) time := by
  intro settled
  obtain ⟨chosen, improves⟩ := endless.exists_improves zero basis later
  have outside := improves.not_mem_basis (endless.feasibleBasis zero basis later).priced
  rw [endless.mem_basis_iff_of_settledAt settled after (after.trans (Nat.le_succ later)),
    endless.mem_basis_next_iff zero basis improves] at outside
  exact outside (.inl rfl)

theorem not_mem_basis_next {column time : Nat} (stays : endless.column time ≠ column)
    (outside : column ∉ (endless.tableau time).basis) :
    column ∉ (endless.tableau (time + 1)).basis := by
  obtain ⟨chosen, improves⟩ := endless.exists_improves zero basis time
  rw [endless.mem_basis_next_iff zero basis improves]
  rintro (entered | ⟨basic, -⟩)
  · exact stays entered.symm
  · exact outside basic

/-- A column that does not recur settles. -/
theorem exists_settled {column : Nat} (ends : ¬ endless.Recurs column) :
    ∃ time, endless.SettledAt column time := by
  obtain ⟨last, never⟩ := Filter.eventually_atTop.mp (Filter.not_frequently.mp ends)
  by_cases leaves : ∃ time, last ≤ time ∧ column ∉ (endless.tableau time).basis
  · obtain ⟨time, after, outside⟩ := leaves
    refine ⟨time, .inr fun later order => ?_⟩
    induction later, order using Nat.le_induction with
    | base => exact outside
    | succ later order inductionHypothesis =>
        exact endless.not_mem_basis_next zero basis (never later (after.trans order))
          inductionHypothesis
  · push Not at leaves
    exact ⟨last, .inl leaves⟩

theorem exists_all_settled :
    ∃ time, ∀ column < start.columns, endless.Recurs column ∨ endless.SettledAt column time := by
  have eventually : ∀ᶠ time in Filter.atTop, ∀ column ∈ Finset.range start.columns,
      endless.Recurs column ∨ endless.SettledAt column time := by
    refine (Finset.eventually_all _).mpr fun column _ => ?_
    by_cases recurs : endless.Recurs column
    · exact .of_forall fun _ => .inl recurs
    · obtain ⟨time, settled⟩ := endless.exists_settled zero basis recurs
      exact Filter.eventually_atTop.mpr
        ⟨time, fun later after => .inr (endless.settledAt_mono settled after)⟩
  obtain ⟨time, settled⟩ := eventually.exists
  exact ⟨time, fun column inside => settled column (Finset.mem_range.mpr inside)⟩

/-- There is a greatest column that recurs. -/
theorem exists_last_recurring :
    ∃ last, endless.Recurs last ∧ ∀ column, endless.Recurs column → column ≤ last := by
  have finite : {column | endless.Recurs column}.Finite := by
    apply (Finset.range start.columns).finite_toSet.subset
    intro column recurs
    obtain ⟨time, rfl⟩ := recurs.exists
    exact Finset.mem_coe.mpr (Finset.mem_range.mpr (endless.column_lt zero basis time))
  have nonempty : {column | endless.Recurs column}.Nonempty := by
    -- The columns that do not recur have all entered for the last time at some point.
    by_contra none
    have ends : ∀ᶠ time in Filter.atTop, ∀ column ∈ Finset.range start.columns,
        endless.column time ≠ column := by
      refine (Finset.eventually_all _).mpr fun column _ => ?_
      exact Filter.not_frequently.mp fun recurs => none ⟨column, recurs⟩
    obtain ⟨time, never⟩ := ends.exists
    exact never _ (Finset.mem_range.mpr (endless.column_lt zero basis time)) rfl
  obtain ⟨last, recurs, greatest⟩ := Set.exists_max_image _ id finite nonempty
  exact ⟨last, recurs, greatest⟩

/-- A column that recurs leaves after each time it enters. -/
theorem exists_leaves {last time : Nat} (recurs : endless.Recurs last)
    (enters : endless.column time = last) :
    ∃ later, time < later ∧ ∃ chosen,
      Improves (endless.tableau later) (endless.row later) (endless.column later) chosen ∧
        chosen.basic = last := by
  have inside : last ∈ (endless.tableau (time + 1)).basis := by
    obtain ⟨chosen, improves⟩ := endless.exists_improves zero basis time
    exact (endless.mem_basis_next_iff zero basis improves).mpr (.inl enters.symm)
  obtain ⟨again, after, entersAgain⟩ := Filter.frequently_atTop.mp recurs (time + 1)
  by_contra stays
  push Not at stays
  have remains : ∀ later, time + 1 ≤ later → last ∈ (endless.tableau later).basis := by
    intro later order
    induction later, order using Nat.le_induction with
    | base => exact inside
    | succ later order inductionHypothesis =>
        obtain ⟨chosen, improves⟩ := endless.exists_improves zero basis later
        exact (endless.mem_basis_next_iff zero basis improves).mpr
          (.inr ⟨inductionHypothesis, (stays later order chosen improves).symm⟩)
  obtain ⟨chosen, improves⟩ := endless.exists_improves zero basis again
  have outside := improves.not_mem_basis (endless.feasibleBasis zero basis again).priced
  exact outside (entersAgain ▸ remains again after)

/-! ## No endless sequence under the rule -/

theorem basicPoint_eq (degenerate : ∀ time, endless.DegenerateAt time) (time : Nat) :
    (endless.tableau time).basicPoint = (endless.tableau 0).basicPoint := by
  induction time with
  | zero => rfl
  | succ time inductionHypothesis =>
      obtain ⟨chosen, improves⟩ := endless.exists_improves zero basis time
      have next := endless.feasibleBasis zero basis (time + 1)
      rw [tableau_next] at next ⊢
      exact ((endless.feasibleBasis zero basis time).basicPoint_pivot next improves.toPivotable
        (degenerate time chosen improves.found)).trans inductionHypothesis

/-- Under Bland's rule a column that enters and leaves later is exchanged. -/
theorem exchange_of_bland (degenerate : ∀ time, endless.DegenerateAt time)
    (bland : ∀ time, (endless.progress time).bland = true) {last time later : Nat}
    (enters : endless.column time = last) {chosen : Row K}
    (improves : Improves (endless.tableau later) (endless.row later) (endless.column later) chosen)
    (leaves : chosen.basic = last) :
    Exchange (endless.tableau time) (endless.tableau later) last (endless.row later)
      (endless.column later) chosen where
  toImproves := improves
  samePoint := by
    rw [endless.basicPoint_eq zero basis degenerate,
      endless.basicPoint_eq zero basis degenerate later]
  enters := by
    obtain ⟨entered, entering⟩ := endless.exists_improves zero basis time
    exact enters ▸ entering.improving
  before := by
    intro column earlier
    have entering := (endless.chosen time).entering
    rw [bland time, enters] at entering
    exact zero.reducedCost ▸ enteringColumn_bland entering earlier
  leaves := leaves
  smallest := by
    intro other member entry level
    have leaving := (endless.chosen later).leaving
    rw [bland later] at leaving
    obtain ⟨current, found, smallest⟩ := smallestRatio_of_leavingRow (Bool.and_false _) leaving
    obtain rfl : current = chosen := Option.some.inj (found.symm.trans improves.found)
    have tie : other.ratio (endless.column later) = current.ratio (endless.column later) := by
      rw [Row.ratio_eq_zero (degenerate later current found), Row.ratio_eq_zero level]
    exact leaves ▸ smallest.first other ⟨member, zero.pivot.symm ▸ entry⟩ tie

/-- Bland's rule chooses no endless sequence of pivots in rows at zero. -/
theorem not_bland (degenerate : ∀ time, endless.DegenerateAt time) :
    ¬ ∀ time, (endless.progress time).bland = true := by
  intro bland
  obtain ⟨last, recurs, greatest⟩ := endless.exists_last_recurring zero basis
  obtain ⟨settledTime, settled⟩ := endless.exists_all_settled zero basis
  obtain ⟨time, after, enters⟩ := Filter.frequently_atTop.mp recurs settledTime
  obtain ⟨later, order, chosen, improves, leaves⟩ :=
    endless.exists_leaves zero basis recurs enters
  have laterAfter : settledTime ≤ later := after.trans order.le
  have second := endless.feasibleBasis zero basis later
  have exchange := endless.exchange_of_bland zero basis degenerate bland enters improves leaves
  obtain ⟨moved, beyond, exchanged⟩ :=
    exchange.exists_beyond (endless.feasibleBasis zero basis time) second
  have within : moved < start.columns := by
    rcases exchanged with rfl | ⟨-, inside⟩
    · exact endless.column_lt zero basis later
    · rw [← second.equivalent.columns_eq]
      exact Finset.mem_range.mp (second.toCanonical.basis_subset inside)
  have unsettled : ¬ endless.SettledAt moved settledTime := by
    rcases exchanged with rfl | ⟨outside, inside⟩
    · exact endless.not_settledAt_column zero basis laterAfter
    · exact fun settled =>
        outside ((endless.mem_basis_iff_of_settledAt settled after laterAfter).mpr inside)
  exact absurd (greatest moved ((settled moved within).resolve_right unsettled))
    (Nat.not_le.mpr beyond)

end Endless

end LinearProgramming.Simplex
