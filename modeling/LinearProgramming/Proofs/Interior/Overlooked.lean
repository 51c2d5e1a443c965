import LinearProgramming.Proofs.Spoiled
import LinearProgramming.Proofs.Workspace.Solved
import LinearProgramming.Proofs.Interior.Step
import LinearProgramming.Proofs.Interior.Run

/-!
# What the merit passes over

The merit is a maximum of norms, so that a merit below the tolerance bounds the residuals that are
numbers and says nothing of the others.  A coefficient that is not finite is found by the first
factorization.  A cost that is no number is not: it spoils the first direction, and the iterate
after it, which holds no number at all, is as good as one can be.
-/

namespace LinearProgramming

open LinearProgramming.Dense

variable {K : Type} [Scalar K]

namespace Interior

/-! ## Optimal ends -/

/-- What a merit below the tolerance says of an iterate. -/
structure EqualityForm.Accepts (form : EqualityForm K) (iterate : Iterate K) : Prop where
  primal : Scalar.Passes tolerance (maxNorm (primalResidual form iterate) / scaleOf form.rhs)
  dual : Scalar.Passes tolerance (maxNorm (dualResidual form iterate) / scaleOf form.cost)
  gap : Scalar.Passes tolerance
    (Scalar.absolute (dot form.cost iterate.values - dot form.rhs iterate.multipliers) /
      (1 + Scalar.absolute (dot form.cost iterate.values)))
  primalNorm : ∀ residual ∈ primalResidual form iterate, Scalar.isNaN residual = true ∨
    Scalar.absolute residual ≤ maxNorm (primalResidual form iterate)
  dualNorm : ∀ residual ∈ dualResidual form iterate, Scalar.isNaN residual = true ∨
    Scalar.absolute residual ≤ maxNorm (dualResidual form iterate)
  primalNumber : (∀ value ∈ mulVec form.rows iterate.values, Scalar.isFinite value = true) →
    (∀ value ∈ form.rhs, Scalar.isFinite value = true) →
      ∀ residual ∈ primalResidual form iterate, Scalar.isNaN residual = false
  dualNumber : (∀ value ∈ List.zipWith (· + ·)
      (transposeMulVec form.rows form.columns iterate.multipliers) iterate.reducedCosts,
        Scalar.isFinite value = true) →
    (∀ value ∈ form.cost, Scalar.isFinite value = true) →
      ∀ residual ∈ dualResidual form iterate, Scalar.isNaN residual = false

section Propagating

variable [PropagatingScalar K] {form : EqualityForm K}

open PropagatingScalar

theorem isNaN_of_mem_zipWith_sub {left right : List K}
    (leftFinite : ∀ value ∈ left, Scalar.isFinite value = true)
    (rightFinite : ∀ value ∈ right, Scalar.isFinite value = true) {difference : K}
    (member : difference ∈ List.zipWith (· - ·) left right) :
    Scalar.isNaN difference = false := by
  obtain ⟨index, inside, rfl⟩ := List.mem_iff_getElem.mp member
  rw [List.getElem_zipWith]
  exact keepsFinite_sub.number (leftFinite _ (List.getElem_mem _))
    (rightFinite _ (List.getElem_mem _))

theorem accepts_of_merit {iterate : Iterate K} (small : merit form iterate < tolerance) :
    form.Accepts iterate := by
  obtain ⟨residuals, gap⟩ := Scalar.passes_of_passes_larger (.inr small)
  obtain ⟨primal, dual⟩ := Scalar.passes_of_passes_larger residuals
  exact ⟨primal, dual, gap, fun _ member => absolute_le_maxNorm member,
    fun _ member => absolute_le_maxNorm member,
    fun applied rhs _ member => isNaN_of_mem_zipWith_sub applied rhs member,
    fun priced cost _ member => isNaN_of_mem_zipWith_sub priced cost member⟩

/-! ## Iterates without numbers -/

structure Iterate.Void (iterate : Iterate K) : Prop where
  values : Dense.Void iterate.values
  multipliers : Dense.Void iterate.multipliers
  reducedCosts : Dense.Void iterate.reducedCosts

theorem void_forwardSolve {factor : List (List K)} {rhs : List K}
    (same : factor.length = rhs.length) (void : Dense.Void rhs) :
    Dense.Void (forwardSolve factor rhs) := by
  induction factor using List.reverseRecOn generalizing rhs with
  | nil =>
      obtain rfl := List.eq_nil_of_length_eq_zero same.symm
      exact void
  | append_singleton factor last inductionHypothesis =>
      obtain ⟨rhs, value, rfl, shorter⟩ := exists_concat same
      rw [forwardSolve_append shorter]
      intro solved member
      rcases List.mem_append.mp member with before | isLast
      · exact inductionHypothesis shorter
          (fun value inside => void value (List.mem_append_left _ inside)) solved before
      · obtain rfl := List.mem_singleton.mp isLast
        exact spreads_div.left _ (spreads_sub.left _ (void value (by simp)))

theorem void_backwardSolve (index : Nat) {factor : List (List K)} {rhs : List K}
    (void : Dense.Void rhs) : Dense.Void (backwardSolve index factor rhs) := by
  fun_induction backwardSolve index factor rhs with
  | case1 index row factor value rhs solved column inductionHypothesis =>
      rw [Dense.Void, List.forall_mem_cons] at void ⊢
      exact ⟨spreads_div.left _ (spreads_sub.left _ void.1), inductionHypothesis void.2⟩
  | case2 => simp [Dense.Void]

theorem void_choleskySolve {factor : List (List K)} {rhs : List K}
    (same : factor.length = rhs.length) (void : Dense.Void rhs) :
    Dense.Void (choleskySolve factor rhs) :=
  void_backwardSolve 0 (void_forwardSolve same void)

theorem spreads_withdraw : Spreads fun (applied residual : K) => -residual - applied where
  left _ none := spreads_sub.right _ none
  right _ _ none := spreads_sub.left _ ((isNaN_neg _).trans none)

theorem spreads_advance (share : K) : Spreads fun (value change : K) => value + share * change where
  left _ none := spreads_add.left _ none
  right _ _ none := spreads_add.right _ (spreads_mul.right _ none)

variable (shaped : form.Shaped) (constrained : form.rows ≠ [])

include shaped constrained

omit constrained in
theorem spoiled_pulled {iterate : Iterate K} (fits : iterate.Fits form) {target : List K}
    (targets : target.length = form.columns) (spoiled : Spoiled (dualResidual form iterate)) :
    Spoiled (pulled form iterate target) := by
  have scaled := length_scalingOf fits
  have dual := length_dualResidual shaped fits
  refine spoiled_zipWith_right spreads_add ?_ (spoiled_zipWith_right spreads_mul ?_ spoiled)
  · simp [targets, fits.reducedCosts, scaled, dual]
  · exact scaled.trans dual.symm

theorem void_newton {iterate : Iterate K} (fits : iterate.Fits form) {factor : List (List K)}
    (length : factor.length = form.rows.length) {target : List K}
    (targets : target.length = form.columns) (spoiled : Spoiled (dualResidual form iterate)) :
    let step := newton form (.of form iterate factor) target
    Dense.Void step.values ∧ Dense.Void step.multipliers ∧ Dense.Void step.reducedCosts := by
  have primal := length_primalResidual shaped iterate
  have applied : Dense.Void (mulVec form.rows (pulled form iterate target)) :=
    void_mulVec (fun row member =>
      (shaped.wide row member).trans (length_pulled shaped fits targets).symm)
        (spoiled_pulled shaped fits targets spoiled)
  have multipliers : Dense.Void (newton form (.of form iterate factor) target).multipliers := by
    refine void_choleskySolve ?_ (void_zipWith_left spreads_withdraw applied _)
    simp [Linearization.of, length, primal]
  have reducedCosts : Dense.Void (newton form (.of form iterate factor) target).reducedCosts := by
    have fitting := fits_newton shaped fits length targets
    exact void_zipWith_left spreads_withdraw
      (void_transposeMulVec _ constrained fitting.multipliers multipliers) _
  refine ⟨?_, multipliers, reducedCosts⟩
  exact void_zipWith_left spreads_div (void_zipWith_right spreads_sub _
    (void_zipWith_right spreads_mul _ reducedCosts)) _

theorem void_nextIterate {iterate : Iterate K} (fits : iterate.Fits form)
    {point : Linearization K} (linearized : linearize form iterate = some point)
    (spoiled : Spoiled (dualResidual form iterate)) : (nextIterate form point).Void := by
  obtain ⟨factor, rfl, -, length⟩ := exists_factor_of_linearize linearized
  obtain ⟨values, multipliers, reducedCosts⟩ := void_newton shaped constrained fits length
    (length_correctorTarget shaped fits length) spoiled
  exact ⟨void_zipWith_right (spreads_advance _) _ values,
    void_zipWith_right (spreads_advance _) _ multipliers,
    void_zipWith_right (spreads_advance _) _ reducedCosts⟩

omit shaped constrained in
theorem scaleOf_pos (values : List K) : 0 < scaleOf values :=
  add_pos ComparableScalar.zero_lt_one (zero_le_maxNorm values)

omit constrained in
/-- An iterate without numbers has the least merit. -/
theorem merit_of_void {iterate : Iterate K} (fits : iterate.Fits form) (wide : 0 < form.columns)
    (void : iterate.Void) : merit form iterate = 0 := by
  have filled : iterate.values ≠ [] := List.ne_nil_of_length_pos (fits.values.symm ▸ wide)
  have spoiled := void.values.spoiled filled
  have primal : Dense.Void (primalResidual form iterate) :=
    void_zipWith_left spreads_sub (void_mulVec (fun row member =>
      (shaped.wide row member).trans fits.values.symm) spoiled) _
  have dual : Dense.Void (dualResidual form iterate) :=
    void_zipWith_left spreads_sub (void_zipWith_right spreads_add _ void.reducedCosts) _
  have objective : Scalar.isNaN (dot form.cost iterate.values) = true :=
    isNaN_dot_right fits.values.symm spoiled
  have gap : Scalar.isNaN
      (Scalar.absolute (dot form.cost iterate.values - dot form.rhs iterate.multipliers) /
        (1 + Scalar.absolute (dot form.cost iterate.values))) = true :=
    spreads_div.left _ ((isNaN_absolute _).trans (spreads_sub.left _ objective))
  unfold merit
  dsimp only
  rw [primal.maxNorm_eq, dual.maxNorm_eq, PropagatingScalar.zero_div (scaleOf_pos _),
    PropagatingScalar.zero_div (scaleOf_pos _), Scalar.larger_self,
    Scalar.larger_of_isNaN Scalar.isNaN_zero gap]

omit constrained in
/-- The iteration ends at an iterate without numbers, and calls it optimal. -/
theorem iterateFrom_of_void (remaining iteration : Nat) (record : Record K) {iterate : Iterate K}
    (fits : iterate.Fits form) (wide : 0 < form.columns) (void : iterate.Void) :
    iterateFrom form (remaining + 1) iteration record iterate =
      ⟨.optimal, iterate, iteration, iteration + 1⟩ := by
  rw [iterateFrom]
  dsimp only
  rw [merit_of_void shaped fits wide void, ExtendedScalar.isFinite_zero]
  exact if_pos billionth_pos

/-- A spoiled dual residual leaves one iteration at most, and if it is made, its iterate counts as
optimal without a number in it. -/
theorem ends_of_spoiled (remaining iteration : Nat) (record : Record K) {iterate : Iterate K}
    (fits : iterate.Fits form) (spoiled : Spoiled (dualResidual form iterate)) :
    let final := iterateFrom form (remaining + 2) iteration record iterate
    final.iterations = iteration ∨
      final.iterations = iteration + 1 ∧ final.ending = .optimal ∧ final.iterate.Void := by
  have wide : 0 < form.columns := by
    rw [← length_dualResidual shaped fits]
    obtain ⟨residual, member, -⟩ := spoiled
    exact List.length_pos_of_mem member
  dsimp only
  rcases iterateFrom_succ_cases form (remaining + 1) iteration record iterate with
    ends | ⟨point, linearized, goesOn⟩
  · exact .inl ends
  · have void := void_nextIterate shaped constrained fits linearized spoiled
    have nextFits := fits_nextIterate shaped fits linearized
    rw [goesOn, iterateFrom_of_void shaped _ _ _ nextFits wide void]
    exact .inr ⟨rfl, rfl, void⟩

/-! ## Coefficients -/

omit shaped constrained in
/-- All entries on the diagonal of a matrix with a factor are finite. -/
theorem isFinite_of_cholesky {rows factor : List (List K)}
    (factored : cholesky rows = some factor) {index : Nat} (inside : index < rows.length) :
    Scalar.isFinite (entry (rowAt rows index) index) = true := by
  have finite (scale : K) (rest above : List (List K)) {factor : List (List K)}
      (found : rest.foldlM (fun above row =>
        (factorRow? scale above row).map fun next => above ++ [next]) above = some factor)
      (index : Nat) (inside : index < rest.length) :
      Scalar.isFinite (entry rest[index] (above.length + index)) = true := by
    induction rest generalizing above index with
    | nil => cases inside
    | cons row rest inductionHypothesis =>
        rw [List.foldlM_cons] at found
        obtain ⟨longer, next, last⟩ := Option.bind_eq_some_iff.mp found
        obtain ⟨appended, isNext, rfl⟩ := Option.map_eq_some_iff.mp next
        cases index with
        | zero =>
            unfold factorRow? at isNext
            dsimp only at isNext
            split at isNext
            · rename_i pivot
              exact (keepsFinite_sub.operands pivot).1
            · cases isNext
        | succ index =>
            have later := inductionHypothesis _ last index (Nat.lt_of_succ_lt_succ inside)
            rwa [List.length_append, List.length_singleton, Nat.add_assoc, Nat.add_comm 1] at later
  rw [rowAt_eq_getElem inside]
  simpa using finite _ rows [] factored index inside

omit [PropagatingScalar K] shaped constrained in
theorem entry_normalMatrix_self (weights : List K) {index : Nat}
    (inside : index < form.rows.length) :
    entry (rowAt (form.normalMatrix weights) index) index =
      dot (List.zipWith (· * ·) form.rows[index] form.rows[index]) weights := by
  rw [rowAt_eq_getElem (inside.trans_eq (length_normalMatrix form weights).symm)]
  simp [EqualityForm.normalMatrix, entry, inside]

omit constrained in
/-- A run starts only if all coefficients are finite, since their squares are on the diagonal of the
first normal matrix. -/
theorem isFinite_of_startingIterate {start : Iterate K}
    (starts : startingIterate form = some start) {row : List K} (inRows : row ∈ form.rows)
    {coefficient : K} (inRow : coefficient ∈ row) : Scalar.isFinite coefficient = true := by
  obtain ⟨factor, factored, -⟩ := Option.map_eq_some_iff.mp starts
  obtain ⟨index, inside, rfl⟩ := List.mem_iff_getElem.mp inRows
  obtain ⟨column, within, rfl⟩ := List.mem_iff_getElem.mp inRow
  have diagonal := isFinite_of_cholesky factored
    (inside.trans_eq (length_normalMatrix form _).symm)
  rw [entry_normalMatrix_self _ inside] at diagonal
  have width := shaped.wide _ inRows
  have term : column < (List.zipWith (· * ·)
      (List.zipWith (· * ·) form.rows[index] form.rows[index])
      (List.replicate form.columns (1 : K))).length := by
    simp [← width, within]
  have square := isFinite_of_total diagonal _ (List.getElem_mem term)
  rw [List.getElem_zipWith, List.getElem_zipWith] at square
  exact (keepsFinite_mul.operands (keepsFinite_mul.operands square).1).1

omit constrained in
theorem spoiled_dualResidual {iterate : Iterate K} (fits : iterate.Fits form)
    (spoiled : Spoiled form.cost) : Spoiled (dualResidual form iterate) := by
  refine spoiled_zipWith_right spreads_sub ?_ spoiled
  have priced : form.cost.length = form.columns := rfl
  simp [length_transposeMulVec shaped.wide, fits.reducedCosts, priced]

end Propagating

end Interior

/-! ## Programs -/

section Programs

variable [PropagatingScalar K]

open PropagatingScalar

/-- A column that is not fixed has a cost that is no number. -/
def Program.LacksCost (program : Program K) : Prop :=
  ∃ pair ∈ List.zip program.columns program.cost,
    (∀ value, pair.1 ≠ .fixed value) ∧ Scalar.isNaN pair.2 = true

omit [PropagatingScalar K] in
theorem Substitution.exists_term {bound : Bound K} (loose : ∀ value, bound ≠ .fixed value)
    (next : Nat) : ∃ term, term ∈ (ofBound next bound).terms := by
  cases bound with
  | fixed value => exact absurd rfl (loose value)
  | _ => exact ⟨_, List.mem_cons_self⟩

theorem StandardForm.spoiled_flatten_costOf (direction : Direction) {cost : List K}
    {bounds : List (Bound K)} (next : Nat) {pair : Bound K × K}
    (member : pair ∈ List.zip bounds cost) (loose : ∀ value, pair.1 ≠ .fixed value)
    (none : Scalar.isNaN pair.2 = true) :
    Spoiled (List.zipWith (costOf direction) cost (Substitution.ofBounds next bounds)).flatten := by
  induction bounds generalizing cost next with
  | nil => cases member
  | cons bound bounds inductionHypothesis =>
      cases cost with
      | nil => cases member
      | cons first cost =>
          rw [Substitution.ofBounds, List.zipWith_cons_cons, List.flatten_cons]
          rcases List.mem_cons.mp member with rfl | inRest
          · obtain ⟨term, inTerms⟩ := Substitution.exists_term loose next
            exact ⟨_, List.mem_append_left _ (List.mem_map_of_mem inTerms),
              spreads_mul.left _ (spreads_mul.right _ none)⟩
          · obtain ⟨value, inside, spoiled⟩ := inductionHypothesis _ inRest
            exact ⟨value, List.mem_append_right _ inside, spoiled⟩

namespace Program

variable {program : Program K}

theorem LacksCost.spoiled (lacks : program.LacksCost) : Spoiled program.equalityForm.cost := by
  obtain ⟨pair, member, loose, none⟩ := lacks
  obtain ⟨value, inside, spoiled⟩ :=
    StandardForm.spoiled_flatten_costOf program.direction 0 member loose none
  exact ⟨-value, List.mem_append_left _ (List.mem_map_of_mem inside),
    (isNaN_neg value).trans spoiled⟩

theorem LacksCost.isNaN_objective (lacks : program.LacksCost) {point : List K}
    (fits : program.cost.length = point.length) :
    Scalar.isNaN (program.objective point) = true := by
  obtain ⟨pair, member, -, none⟩ := lacks
  exact spreads_add.right _ (isNaN_dot_left fits ⟨pair.2, (List.of_mem_zip member).2, none⟩)

def unknownCost : Program Float where
  direction := .minimize
  constant := 0
  cost := [Double.nan]
  columns := [.lower 0]
  rows := [⟨.fixed 1, [(0, 1)]⟩]

end Program

namespace Interior

variable {program : Program K}

/-- Where the iteration is entered, all coefficients are finite.  A success bounds what is a number
among the residuals and the gap, and a residual whose sides are finite is a number.  If a cost is no
number, then neither is the objective nor all of the dual residual, and still the run can only end
at its start or, after one iteration, as optimal without a single number. -/
theorem ends_despite_missing_numbers (priced : program.Priced) {final : Final K}
    (entered : iteration? program = some final) :
    (∀ row ∈ program.equalityForm.rows, ∀ coefficient ∈ row,
      Scalar.isFinite coefficient = true) ∧
    ((solve program).code = .ok → program.equalityForm.Accepts final.iterate) ∧
    (program.LacksCost →
      Scalar.isNaN (dot program.equalityForm.cost final.iterate.values) = true ∧
      Spoiled (dualResidual program.equalityForm final.iterate) ∧
      (∀ point, (solve program).point = some point → Scalar.isNaN point.objective = true) ∧
      (final.iterations = 0 ∨ final.iterations = 1 ∧ (solve program).code = .ok ∧
        (solve program).status = .optimal ∧ final.iterate.Void)) := by
  have shaped : program.equalityForm.Shaped := EqualityForm.shaped_ofStandardForm _
  obtain ⟨constrained, start, starts, isFinal⟩ := exists_start_of_iteration? entered
  have startFits : start.Fits program.equalityForm := by
    obtain ⟨_, _, _, fits, rfl⟩ := exists_startingFrom shaped starts
    exact Iterate.Fits.startingFrom fits
  have fits : final.iterate.Fits program.equalityForm := by
    rw [← isFinal]
    exact iterateFrom_induction (motive := fun _ => Iterate.Fits program.equalityForm)
      (fun fits linearized => fits_nextIterate shaped fits linearized) _ _ startFits
  refine ⟨fun row inRows coefficient inRow =>
      isFinite_of_startingIterate shaped starts inRows inRow, fun succeeded => ?_, fun lacks => ?_⟩
  · have ended := (code_solve_eq_ok_iff entered).mp succeeded
    rw [← isFinal] at ended ⊢
    exact accepts_of_merit (merit_of_optimal ended).2
  · refine ⟨isNaN_dot_left fits.values.symm lacks.spoiled,
      spoiled_dualResidual shaped fits lacks.spoiled, fun point returned => ?_, ?_⟩
    · have given := (congrArg Outcome.point (solve_of_iteration? entered)).symm.trans returned
      rw [Final.eq_recover_of_point given]
      have columns := (priced.recover_fits
        (final.iterate.values.take (StandardForm.ofProgram program).variableCount)
        (final.iterate.multipliers.map (-·))).columnPrimal
      exact lacks.isNaN_objective (priced.trans columns.symm)
    · have ends := ends_of_spoiled shaped constrained 98 0 ⟨none, 0⟩ startFits
        (spoiled_dualResidual shaped startFits lacks.spoiled)
      rw [show iterateFrom _ (98 + 2) 0 _ start = final from isFinal] at ends
      exact ends.imp_right fun ⟨once, ended, void⟩ =>
        ⟨once, (code_solve_eq_ok_iff entered).mpr ended, status_of_optimal entered ended, void⟩

theorem ends_unknownCost :
    (iteration? Program.unknownCost).map (fun final =>
      (final.ending,
        Scalar.isNaN (dot Program.unknownCost.equalityForm.cost final.iterate.values),
        (dualResidual Program.unknownCost.equalityForm final.iterate).any Scalar.isNaN)) =
      some (.optimal, true, true) := by
  decide +kernel

/-- A run succeeds although neither the objective nor the dual residual is a number. -/
theorem succeeds_without_number :
    ∃ final, iteration? Program.unknownCost = some final ∧
      (solve Program.unknownCost).code = .ok ∧ (solve Program.unknownCost).status = .optimal ∧
      Scalar.isNaN (dot Program.unknownCost.equalityForm.cost final.iterate.values) = true ∧
      Spoiled (dualResidual Program.unknownCost.equalityForm final.iterate) := by
  obtain ⟨final, entered, ends⟩ := Option.map_eq_some_iff.mp ends_unknownCost
  obtain ⟨ended, objective, residual⟩ : _ ∧ _ ∧ _ := by simpa using ends
  exact ⟨final, entered, (code_solve_eq_ok_iff entered).mpr ended, status_of_optimal entered ended,
    objective, residual⟩

theorem lacksCost_unknownCost : Program.unknownCost.LacksCost :=
  ⟨(.lower 0, Double.nan), List.mem_cons_self, by simp, by decide⟩

theorem ends_despite_missing_numbers_unknownCost :
    Program.unknownCost.Priced ∧ Program.unknownCost.LacksCost ∧
      ∃ final, iteration? Program.unknownCost = some final ∧
        (solve Program.unknownCost).code = .ok ∧
        Program.unknownCost.equalityForm.Accepts final.iterate ∧
        (∀ row ∈ Program.unknownCost.equalityForm.rows, ∀ coefficient ∈ row,
          Scalar.isFinite coefficient = true) ∧
        ∀ point, (solve Program.unknownCost).point = some point →
          Scalar.isNaN point.objective = true := by
  obtain ⟨final, entered, ends⟩ := Option.map_eq_some_iff.mp ends_unknownCost
  have priced : Program.unknownCost.Priced := rfl
  have succeeded : (solve Program.unknownCost).code = .ok :=
    (code_solve_eq_ok_iff entered).mpr (congrArg Prod.fst ends)
  obtain ⟨finite, accepts, lacking⟩ := ends_despite_missing_numbers priced entered
  exact ⟨priced, lacksCost_unknownCost, final, entered, succeeded, accepts succeeded, finite,
    (lacking lacksCost_unknownCost).2.2.1⟩

end Interior

end Programs

end LinearProgramming
