import LinearProgramming.Proofs.Search.Coverage
import LinearProgramming.Proofs.Simplex.Soundness

/-!
# Correctness of branch and bound

What a step does to a covered search, and from it what a search says when it ends:
under every order of nodes, every choice of columns, every gap and every clock.
-/

namespace LinearProgramming.Search

variable {K : Type} [ExactScalar K]

def SolvesBoxes (relax : Program K → Outcome K) (program : Program K) (integer : List Nat) :
    Prop :=
  ∀ columns, Box program integer columns →
    (relax { program with columns }).code ≠ .timeLimit →
      Outcome.Exact { program with columns } (relax { program with columns })

/-- What the end of a search says about the integral feasible points of a program. -/
structure Correct (options : Options K) (program : Program K) (integer : List Nat)
    (result : Result K) : Prop where
  incumbent : ∀ best ∈ result.incumbent,
    program.IntegerFeasible integer best.point ∧ best.objective = program.minimized best.point
  optimal : result.code = .ok → ∀ best ∈ result.incumbent, ∀ values,
    program.IntegerFeasible integer values →
      best.objective - options.objectiveTolerance * (1 + |best.objective|) ≤
        program.minimized values
  noneFeasible : result.code = .ok → result.incumbent = none →
    ∀ values, ¬ program.IntegerFeasible integer values
  stopped : result.code = .gapReached ∨ result.code = .timeLimit → ∀ values,
    program.IntegerFeasible integer values →
      match result.incumbent with
      | none => result.bound.AtMost (program.minimized values)
      | some best =>
          (result.bound.smaller
            (.at (best.objective - options.objectiveTolerance * (1 + |best.objective|)))).AtMost
              (program.minimized values)

variable {options : Options K} {program : Program K} {integer : List Nat} {state : State K}

section End

variable (invariant : Invariant options program integer state)

include invariant

theorem Correct.complete (empty : state.openNodes = []) :
    Correct options program integer state.complete := by
  have dominated (values : List K) (feasible : program.IntegerFeasible integer values) :
      Dominates options state.incumbent (program.minimized values) := by
    rcases invariant.covered values feasible with ⟨node, member, -⟩ | dominated
    · simp [empty] at member
    · exact dominated
  constructor
  case incumbent => exact invariant.incumbent
  case optimal =>
    intro _ best found values feasible
    obtain ⟨best', found', atMost⟩ := dominated values feasible
    obtain rfl := Option.some.inj (Eq.trans found.symm found')
    exact atMost
  case noneFeasible =>
    intro _ missing values feasible
    obtain ⟨best, found, -⟩ := dominated values feasible
    exact absurd (Eq.trans missing.symm found) (by simp)
  case stopped =>
    rintro (reached | reached) <;> cases reached

theorem Correct.stop {code : ReturnCode} (notOk : code ≠ .ok) :
    Correct options program integer (state.stop code) := by
  have bounded {values : List K}
      (inside : ∃ node ∈ state.openNodes, (node.program program).Feasible values) :
      (state.openNodes.foldl (fun (least : Extended K) node => least.smaller node.bound)
        .above).AtMost (program.minimized values) := by
    obtain ⟨node, member, feasible⟩ := inside
    rw [Extended.foldl_smaller_atMost_iff]
    exact .inr ⟨node, member, (invariant.valid node member).bounds values feasible⟩
  constructor
  case incumbent => exact invariant.incumbent
  case optimal => exact fun isOk => absurd isOk notOk
  case noneFeasible => exact fun isOk => absurd isOk notOk
  case stopped =>
    intro _ values feasible
    have covered := invariant.covered values feasible
    simp only [State.stop]
    cases found : state.incumbent with
    | none =>
        refine bounded (covered.resolve_right ?_)
        rintro ⟨best, isBest, -⟩
        simp [found] at isBest
    | some best =>
        simp only [Extended.smaller_atMost_iff, Extended.atMost_at]
        rcases covered with inside | ⟨best', isBest, atMost⟩
        · exact .inl (.inl (bounded inside))
        · obtain rfl := Option.some.inj (found.symm.trans isBest)
          exact .inr atMost

end End

section Step

variable {relax : Program K → Outcome K} (exact : SolvesBoxes relax program integer)

include exact

/-- The optimum of a box is a feasible point that no feasible point of the box is better than. -/
theorem optimum_of_attains {node : Node K} (box : Box program integer node.columns)
    {point : Point K} (attains : (node.relaxed relax program).Attains point) :
    (node.program program).Feasible point.columnPrimal ∧
      point.objective = program.objective point.columnPrimal ∧
      ∀ values, (node.program program).Feasible values →
        minimizedObjective program point ≤ program.minimized values := by
  obtain ⟨other, isOther, inside, attained, best⟩ :=
    (exact node.columns box attains.inTime).point attains.status
  obtain rfl := Option.some.inj (attains.point.symm.trans isOther)
  refine ⟨inside, attained, fun values feasible => ?_⟩
  exact (Direction.atLeastAsGood_iff_minimizing _ _ _).mp (best values feasible)

variable (invariant : Invariant options program integer state) {node : Node K}
  {rest : List (Node K)} (isPerm : state.openNodes.Perm (node :: rest))

include invariant isPerm

omit exact in
theorem Invariant.valid_of_perm : Valid program integer node :=
  invariant.valid node (isPerm.mem_iff.mpr List.mem_cons_self)

/-- A box that is not out of time and has no optimum has no point at all. -/
theorem Invariant.dropUnsolved (bounded : program.Bounded)
    (inTime : (node.relaxed relax program).code ≠ .timeLimit)
    (unsolved : ∀ point, ¬ (node.relaxed relax program).Attains point) (solved : Nat) :
    Invariant options program integer { state with openNodes := rest, solved } := by
  have valid := invariant.valid_of_perm isPerm
  have decided := exact node.columns valid.toBox inTime
  apply (invariant.reorder (.refl _) solved).drop isPerm
  intro values _ inside
  obtain ⟨limit, isLimit⟩ := bounded
  have boundedBox : (node.program program).Bounded := by
    refine ⟨limit, fun other inBox => isLimit other ?_⟩
    exact ⟨valid.within _ inBox.columns, inBox.rows⟩
  have isOptimal := decided.optimal_iff.mpr ⟨⟨values, inside⟩, boundedBox⟩
  obtain ⟨point, isPoint, -⟩ := decided.point isOptimal
  exact absurd ⟨inTime, isOptimal, isPoint⟩ (unsolved point)

variable {point : Point K} (attains : (node.relaxed relax program).Attains point)

include attains

theorem Invariant.improve (zero : options.integerTolerance = 0)
    (tolerance : 0 ≤ options.objectiveTolerance)
    (keeps : ¬ state.prunes options (.at (minimizedObjective program point)) = true)
    (missing : branchingColumn options integer point.columnPrimal = none) (solved : Nat)
    (improvements : List Nat) :
    Invariant options program integer
      { openNodes := rest
        incumbent :=
          some ⟨minimizedObjective program point, roundColumns integer point.columnPrimal⟩
        solved, improvements } := by
  have valid := invariant.valid_of_perm isPerm
  obtain ⟨inside, attained, best⟩ := optimum_of_attains exact valid.toBox attains
  have better := State.lt_threshold_of_not_prunes keeps
  have whole := isWhole_of_branchingColumn zero missing
  rw [roundColumns_eq whole]
  constructor
  case valid =>
    intro other member
    exact invariant.valid other (isPerm.mem_iff.mpr (List.mem_cons_of_mem _ member))
  case incumbent =>
    intro found isFound
    obtain rfl := Option.some.inj isFound
    have feasible : program.Feasible point.columnPrimal :=
      ⟨valid.within _ inside.columns, inside.rows⟩
    refine ⟨⟨feasible, whole⟩, ?_⟩
    simp only [minimizedObjective, Program.minimized, attained]
  case covered =>
    intro values feasible
    rcases invariant.covered values feasible with ⟨other, member, inOther⟩ | dominated
    · rcases List.mem_cons.mp (isPerm.mem_iff.mp member) with rfl | inRest
      · exact .inr ⟨_, rfl, (threshold_le tolerance _).trans (best values inOther)⟩
      · exact .inl ⟨other, inRest, inOther⟩
    · exact .inr (dominated.improve tolerance better)

/-- A box is covered by its two parts. -/
theorem Invariant.branch {column : Nat}
    (fractional : branchingColumn options integer point.columnPrimal = some column)
    (solved : Nat) :
    Invariant options program integer
      { state with
        openNodes :=
          rest ++ node.split column (Dense.entry point.columnPrimal column)
            (minimizedObjective program point)
        solved } := by
  have valid := invariant.valid_of_perm isPerm
  obtain ⟨inside, -, best⟩ := optimum_of_attains exact valid.toBox attains
  have isInteger := mem_of_branchingColumn fractional
  constructor
  case valid =>
    intro other member
    rcases List.mem_append.mp member with inRest | inSplit
    · exact invariant.valid other (isPerm.mem_iff.mpr (List.mem_cons_of_mem _ inRest))
    · exact valid.split isInteger inside best other inSplit
  case incumbent => exact invariant.incumbent
  case covered =>
    intro values feasible
    rcases invariant.covered values feasible with ⟨other, member, inOther⟩ | dominated
    · rcases List.mem_cons.mp (isPerm.mem_iff.mp member) with rfl | inRest
      · obtain ⟨part, isPart, inPart⟩ := exists_mem_split inOther
          (feasible.whole column isInteger) (Dense.entry point.columnPrimal column)
          (minimizedObjective program point)
        exact .inl ⟨part, List.mem_append_right _ isPart, inPart⟩
      · exact .inl ⟨other, List.mem_append_left _ inRest, inOther⟩
    · exact .inr dominated

end Step

section Run

variable (zero : options.integerTolerance = 0) (tolerance : 0 ≤ options.objectiveTolerance)
  {relax : Program K → Outcome K} (exact : SolvesBoxes relax program integer)
  (bounded : program.Bounded)

include zero tolerance exact bounded

/-- What one step preserves: a search that goes on is covered, and one that has ended is
correct. -/
theorem Performs.preserves (invariant : Invariant options program integer state)
    {verdict : Verdict K} (performs : Performs options relax program integer state verdict) :
    verdict.Satisfies (Invariant options program integer) (Correct options program integer) := by
  -- A search that stops at a node has still to cover its box.
  have restored {node : Node K} {rest : List (Node K)}
      (selected : select options.nodeOrder state.openNodes = some (node, rest)) :
      state.openNodes.Perm (rest ++ [node]) :=
    (perm_of_select selected).trans (List.perm_append_singleton node rest).symm
  cases performs with
  | complete missing => exact .complete invariant (eq_nil_of_select missing)
  | late node rest selected solved =>
      exact .stop (invariant.reorder (restored selected) solved) (by simp)
  | close node rest selected =>
      exact .stop (invariant.reorder (restored selected) state.solved) (by simp)
  | prune node rest selected prunes =>
      have isPerm := perm_of_select selected
      have valid := invariant.valid_of_perm isPerm
      exact invariant.drop isPerm fun values _ inside =>
        State.dominates_of_prunes prunes (valid.bounds values inside)
  | drop node rest selected inTime unsolved =>
      exact invariant.dropUnsolved exact (perm_of_select selected) bounded inTime unsolved _
  | dominate node rest point selected attains prunes =>
      have isPerm := perm_of_select selected
      obtain ⟨-, -, best⟩ :=
        optimum_of_attains exact (invariant.valid_of_perm isPerm).toBox attains
      apply (invariant.reorder (.refl _) (state.solved + 1)).drop isPerm
      exact fun values _ inside => State.dominates_of_prunes prunes (best values inside)
  | improve node rest point selected attains keeps whole =>
      exact invariant.improve exact (perm_of_select selected) attains zero tolerance keeps whole
        _ _
  | branch node rest point column selected attains _ fractional =>
      exact invariant.branch exact (perm_of_select selected) attains fractional _

/-- What a whole run preserves. -/
theorem run_correct (steps : Nat) {clock : Clock}
    (invariant : Invariant options program integer state) {result : Result K}
    (ended : run options relax program integer steps clock state = some result) :
    Correct options program integer result := by
  rw [run_eq_runTimed] at ended
  exact runTimed_induction (Invariant options program integer)
    (fun _ _ held performs => performs.preserves zero tolerance exact bounded held) invariant ended

end Run

/-- Branch and bound is correct under every search rule, every gap and every clock. -/
theorem search_correct (zero : options.integerTolerance = 0)
    (tolerance : 0 ≤ options.objectiveTolerance) (consistent : program.boundsConsistent = true)
    (whole : ∀ column ∈ integer, ∀ bound ∈ program.columns[column]?, bound.isWhole = true)
    (bounded : program.Bounded) {relax : Program K → Outcome K}
    (exact : SolvesBoxes relax program integer) (steps : Nat) (clock : Clock) {result : Result K}
    (ended : search steps options clock relax program integer = some result) :
    Correct options program integer result :=
  run_correct zero tolerance exact bounded steps (.start consistent whole) ended

theorem exact_of_sound {outcome : Outcome K} (sound : Simplex.Sound program outcome)
    (decided : outcome.status = .optimal ∨ outcome.status = .noneFeasible) :
    Outcome.Exact program outcome := by
  rcases decided with isOptimal | isNoneFeasible
  · obtain ⟨point, isPoint, feasible, -, attained, best⟩ := sound.optimal isOptimal
    have bounded : program.Bounded :=
      ⟨program.direction.minimizingSign * point.objective, fun values inside =>
        (Direction.atLeastAsGood_iff_minimizing _ _ _).mp (best values inside)⟩
    constructor
    case optimal_iff => exact iff_of_true isOptimal ⟨⟨_, feasible⟩, bounded⟩
    case noneFeasible_iff =>
      apply iff_of_false
      · simp [isOptimal]
      · exact not_not.mpr ⟨_, feasible⟩
    case point =>
      intro _
      exact ⟨point, isPoint, feasible, attained, best⟩
  · have none := sound.noneFeasible isNoneFeasible
    constructor
    case optimal_iff =>
      apply iff_of_false
      · simp [isNoneFeasible]
      · rintro ⟨⟨values, feasible⟩, -⟩
        exact none values feasible
    case noneFeasible_iff =>
      apply iff_of_true isNoneFeasible
      rintro ⟨values, feasible⟩
      exact none values feasible
    case point =>
      intro isOptimal
      simp [isNoneFeasible] at isOptimal

section Half

def half : Program ℚ where
  direction := .minimize
  constant := 0
  cost := [1]
  columns := [.double 0 5]
  rows := [⟨.lower 1, [(0, 2)]⟩]

def simplexRelaxation (program : Program ℚ) : Outcome ℚ :=
  (Simplex.solve .exact .still program).toOutcome

/-- The standard parameters, where only whole numbers count as whole. -/
def Options.exact : Options ℚ :=
  { Options.standard with integerTolerance := 0 }

theorem exists_fin {value : ℚ} (whole : IsWhole value) (lower : 0 ≤ value) (upper : value ≤ 5) :
    ∃ number : Fin 6, value = number.val := by
  obtain ⟨number, rfl⟩ := whole
  have nonnegative : 0 ≤ number := by exact_mod_cast lower
  have atMost : number ≤ 5 := by exact_mod_cast upper
  lift number to ℕ using nonnegative
  exact ⟨⟨number, by omega⟩, rfl⟩

theorem Box.exists_sides {program : Program ℚ} (single : program.columns = [.double 0 5])
    {columns : List (Bound ℚ)} (box : Box program [0] columns) :
    ∃ least greatest : Fin 6, least ≤ greatest ∧
      columns = [.between (some (least.val : ℚ)) (some (greatest.val : ℚ))] := by
  obtain ⟨bound, rfl⟩ := List.length_eq_one_iff.mp (box.length_eq.trans (by simp [single]))
  have within (value : ℚ) (contained : bound.Contains value) : 0 ≤ value ∧ value ≤ 5 := by
    have inside := box.within [value] (.cons contained .nil)
    simpa [single] using inside
  obtain ⟨lowerWhole, upperWhole⟩ := bound.isWhole_iff.mp (box.whole 0 (by simp) bound rfl)
  have consistent := box.consistent bound (by simp)
  cases bound with
  | free => exact absurd (within 6 (by simp)).2 (by norm_num)
  | lower least =>
      have above := (within (max least 6) (by simp)).2
      exact absurd ((le_max_right least 6).trans above) (by norm_num)
  | upper greatest =>
      have below := (within (min greatest (-1)) (by simp)).1
      exact absurd (below.trans (min_le_right greatest (-1))) (by norm_num)
  | double least greatest =>
      have order : least < greatest := by simpa [Bound.isConsistent] using consistent
      obtain ⟨first, rfl⟩ := exists_fin (lowerWhole least rfl)
        (within least (by simp [order.le])).1 (within least (by simp [order.le])).2
      obtain ⟨last, rfl⟩ := exists_fin (upperWhole greatest rfl)
        (within greatest (by simp [order.le])).1 (within greatest (by simp [order.le])).2
      have strict : first.val < last.val := by exact_mod_cast order
      exact ⟨first, last, strict.le, by simp [Bound.between_eq, strict.ne]⟩
  | fixed only =>
      obtain ⟨number, rfl⟩ := exists_fin (lowerWhole only rfl) (within only (by simp)).1
        (within only (by simp)).2
      exact ⟨number, number, le_rfl, by simp [Bound.between_eq]⟩

theorem solvesBoxes_of_decided {program : Program ℚ} (priced : program.cost.length = 1)
    (single : program.columns = [.double 0 5])
    (decided : ∀ least greatest : Fin 6, least ≤ greatest →
      let status := (simplexRelaxation { program with
        columns := [.between (some (least.val : ℚ)) (some (greatest.val : ℚ))] }).status
      status = .optimal ∨ status = .noneFeasible) :
    SolvesBoxes simplexRelaxation program [0] := by
  intro columns box _
  obtain ⟨least, greatest, order, rfl⟩ := box.exists_sides single
  apply exact_of_sound (Simplex.Verdict.sound priced Simplex.Options.zeroTolerances_exact
    (Simplex.solve_verdict priced Simplex.Options.zeroTolerances_exact .still))
  exact decided least greatest order

theorem decided_half : ∀ least greatest : Fin 6, least ≤ greatest →
    let status := (simplexRelaxation { half with
      columns := [.between (some (least.val : ℚ)) (some (greatest.val : ℚ))] }).status
    status = .optimal ∨ status = .noneFeasible := by
  decide +kernel

theorem solvesBoxes_half : SolvesBoxes simplexRelaxation half [0] :=
  solvesBoxes_of_decided rfl rfl decided_half

theorem bounded_half : half.Bounded := by
  use 0
  intro point feasible
  obtain ⟨value, rest, inside, empty, rfl⟩ := List.forall₂_cons_left_iff.mp feasible.columns
  obtain rfl := List.forall₂_nil_left_iff.mp empty
  have lower : 0 ≤ value := (Bound.contains_double _ _ _).mp inside |>.1
  simpa [Program.minimized, Program.objective, half, Direction.minimizingSign, Dense.dot_cons]
    using lower

theorem search_correct_half :
    (Options.exact.integerTolerance = 0 ∧ 0 ≤ Options.exact.objectiveTolerance) ∧
      half.boundsConsistent = true ∧
      (∀ column ∈ [0], ∀ bound ∈ half.columns[column]?, bound.isWhole = true) ∧
      half.Bounded ∧ SolvesBoxes simplexRelaxation half [0] ∧
      ∃ result, search 10 Options.exact .still simplexRelaxation half [0] = some result ∧
        result.code = .ok ∧ Correct Options.exact half [0] result := by
  have tolerance : 0 ≤ Options.exact.objectiveTolerance := by decide +kernel
  have consistent : half.boundsConsistent = true := by decide +kernel
  have whole : ∀ column ∈ [0], ∀ bound ∈ half.columns[column]?, bound.isWhole = true := by
    decide +kernel
  have ended : (search 10 Options.exact .still simplexRelaxation half [0]).map (·.code) =
      some .ok := by
    decide +kernel
  obtain ⟨result, found, isOk⟩ := Option.map_eq_some_iff.mp ended
  exact ⟨⟨rfl, tolerance⟩, consistent, whole, bounded_half, solvesBoxes_half, result, found, isOk,
    search_correct rfl tolerance consistent whole bounded_half solvesBoxes_half 10 .still found⟩

end Half

end LinearProgramming.Search
