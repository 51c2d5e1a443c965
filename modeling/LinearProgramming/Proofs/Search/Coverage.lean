import LinearProgramming.Proofs.Search.Node
import LinearProgramming.Proofs.Search.Step

/-!
# What branch and bound covers

While a search runs, every integral feasible point lies in an open box or cannot
improve on the incumbent by more than the tolerance.  Every step keeps this, whatever
node is taken up and whatever column is branched on, if the relaxations are solved
exactly.  Over other relaxations a search without incumbent loses such a point only with
a node that it drops.
-/

namespace LinearProgramming

variable {K : Type} [ExactScalar K]

namespace Program

structure IntegerFeasible (program : Program K) (integer : List Nat) (point : List K) : Prop
    extends program.Feasible point where
  whole : ∀ column ∈ integer, IsWhole (Dense.entry point column)

def minimized (program : Program K) (point : List K) : K :=
  program.direction.minimizingSign * program.objective point

def Bounded (program : Program K) : Prop :=
  ∃ limit, ∀ point, program.Feasible point → limit ≤ program.minimized point

end Program

structure Outcome.Exact (program : Program K) (outcome : Outcome K) : Prop where
  optimal_iff : outcome.status = .optimal ↔ (∃ point, program.Feasible point) ∧ program.Bounded
  noneFeasible_iff : outcome.status = .noneFeasible ↔ ¬ ∃ point, program.Feasible point
  point : outcome.status = .optimal →
    ∃ point ∈ outcome.point, program.Feasible point.columnPrimal ∧
      point.objective = program.objective point.columnPrimal ∧
      ∀ values, program.Feasible values →
        program.direction.AtLeastAsGood point.objective (program.objective values)

namespace Search

/-- What a point has to beat to improve on an incumbent by more than the tolerance. -/
def threshold (options : Options K) (objective : K) : K :=
  objective - options.objectiveTolerance * (1 + |objective|)

/-- A value that no improvement on the incumbent, if there is one, can have. -/
def Dominates (options : Options K) (incumbent : Option (Incumbent K)) (value : K) : Prop :=
  ∃ best ∈ incumbent, threshold options best.objective ≤ value

def Node.program (node : Node K) (program : Program K) : Program K :=
  { program with columns := node.columns }

structure Box (program : Program K) (integer : List Nat) (columns : List (Bound K)) : Prop where
  length_eq : columns.length = program.columns.length
  within : ∀ values, List.Forall₂ Bound.Contains columns values →
    List.Forall₂ Bound.Contains program.columns values
  consistent : ∀ bound ∈ columns, bound.isConsistent = true
  whole : ∀ column ∈ integer, ∀ bound ∈ columns[column]?, bound.isWhole = true

structure Valid (program : Program K) (integer : List Nat) (node : Node K) : Prop
    extends Box program integer node.columns where
  bounds : ∀ values, (node.program program).Feasible values →
    node.bound.AtMost (program.minimized values)

structure Invariant (options : Options K) (program : Program K) (integer : List Nat)
    (state : State K) : Prop where
  valid : ∀ node ∈ state.openNodes, Valid program integer node
  incumbent : ∀ best ∈ state.incumbent,
    program.IntegerFeasible integer best.point ∧ best.objective = program.minimized best.point
  covered : ∀ values, program.IntegerFeasible integer values →
    (∃ node ∈ state.openNodes, (node.program program).Feasible values) ∨
      Dominates options state.incumbent (program.minimized values)

section Threshold

variable {options : Options K} (tolerance : 0 ≤ options.objectiveTolerance)

include tolerance

theorem threshold_le (objective : K) : threshold options objective ≤ objective := by
  have slack := mul_nonneg tolerance (add_nonneg zero_le_one (abs_nonneg objective))
  unfold threshold
  linarith

/-- An incumbent dominates what the one dominates that it replaces. -/
theorem Dominates.improve {incumbent : Option (Incumbent K)} {best : Incumbent K} {value : K}
    (better : ∀ previous ∈ incumbent, best.objective < threshold options previous.objective)
    (dominated : Dominates options incumbent value) : Dominates options (some best) value := by
  obtain ⟨previous, isPrevious, atMost⟩ := dominated
  refine ⟨best, rfl, (threshold_le tolerance _).trans ?_⟩
  exact (better previous isPrevious).le.trans atMost

omit tolerance in
theorem State.dominates_of_prunes {state : State K} {bound : Extended K} {value : K}
    (prunes : state.prunes options bound = true) (atMost : bound.AtMost value) :
    Dominates options state.incumbent value := by
  unfold State.prunes at prunes
  split at prunes
  · simp at prunes
  · rename_i best found
    refine ⟨best, found, ?_⟩
    cases bound with
    | below => simp [pruned] at prunes
    | above => exact absurd atMost id
    | «at» least =>
        have order : threshold options best.objective ≤ least := by
          simpa [pruned, threshold] using prunes
        exact order.trans atMost

omit tolerance in
theorem State.lt_threshold_of_not_prunes {state : State K} {objective : K}
    (keeps : ¬ state.prunes options (.at objective) = true) :
    ∀ previous ∈ state.incumbent, objective < threshold options previous.objective := by
  intro previous found
  have isSome : state.incumbent = some previous := found
  simpa [State.prunes, isSome, pruned, threshold, lt_sub_iff_add_lt] using keeps

end Threshold

section Invariant

variable {options : Options K} {program : Program K} {integer : List Nat} {state : State K}

theorem Box.columns (consistent : program.boundsConsistent = true)
    (whole : ∀ column ∈ integer, ∀ bound ∈ program.columns[column]?, bound.isWhole = true) :
    Box program integer program.columns := by
  simp only [Program.boundsConsistent, Bool.and_eq_true, List.all_eq_true] at consistent
  exact ⟨rfl, fun _ contained => contained, consistent.2, whole⟩

theorem Invariant.start (consistent : program.boundsConsistent = true)
    (whole : ∀ column ∈ integer, ∀ bound ∈ program.columns[column]?, bound.isWhole = true) :
    Invariant options program integer (State.start program) where
  valid := by
    intro node member
    obtain rfl := List.mem_singleton.mp member
    exact ⟨.columns consistent whole, fun _ _ => trivial⟩
  incumbent := by
    intro best found
    simp [State.start] at found
  covered := by
    intro values feasible
    exact .inl ⟨rootNode program, List.mem_singleton_self _, feasible.toFeasible⟩

/-- A box is dropped once all its integral points are dominated. -/
theorem Invariant.drop (invariant : Invariant options program integer state) {node : Node K}
    {rest : List (Node K)} (isPerm : state.openNodes.Perm (node :: rest))
    (dominated : ∀ values, program.IntegerFeasible integer values →
      (node.program program).Feasible values →
        Dominates options state.incumbent (program.minimized values)) :
    Invariant options program integer { state with openNodes := rest } where
  valid other member := invariant.valid other (isPerm.mem_iff.mpr (List.mem_cons_of_mem _ member))
  incumbent := invariant.incumbent
  covered := by
    intro values feasible
    rcases invariant.covered values feasible with ⟨other, member, inside⟩ | already
    · rcases List.mem_cons.mp (isPerm.mem_iff.mp member) with rfl | inRest
      · exact .inr (dominated values feasible inside)
      · exact .inl ⟨other, inRest, inside⟩
    · exact .inr already

theorem Invariant.reorder (invariant : Invariant options program integer state)
    {nodes : List (Node K)} (isPerm : state.openNodes.Perm nodes) (solved : Nat) :
    Invariant options program integer { state with openNodes := nodes, solved } where
  valid node member := invariant.valid node (isPerm.mem_iff.mpr member)
  incumbent := invariant.incumbent
  covered values feasible :=
    (invariant.covered values feasible).imp_left fun ⟨node, member, inside⟩ =>
      ⟨node, isPerm.mem_iff.mp member, inside⟩

end Invariant

section Split

variable {program : Program K} {integer : List Nat} {node : Node K} {column : Nat}

theorem Box.narrow {columns : List (Bound K)} (box : Box program integer columns)
    {change : Bound K → Bound K}
    (narrows : ∀ bound ∈ columns[column]?, Narrows bound (change bound)) :
    Box program integer (columns.modify column change) := by
  constructor
  case length_eq => simpa using box.length_eq
  case within =>
    intro values contained
    exact box.within values
      (forall₂_of_modify (fun bound at_column => (narrows bound at_column).contains) contained)
  case consistent =>
    intro bound member
    obtain ⟨index, at_index⟩ := List.mem_iff_getElem?.mp member
    have each : ∀ bound ∈ (columns.modify column change)[index]?, bound.isConsistent = true :=
      of_getElem?_modify (fun old at_old => (narrows old at_old).consistent)
        fun old at_old => box.consistent old (List.mem_of_getElem? at_old)
    exact each bound at_index
  case whole =>
    intro other isInteger
    exact of_getElem?_modify (fun old at_old => (narrows old at_old).whole)
      (box.whole other isInteger)

theorem Valid.narrow (valid : Valid program integer node) {change : Bound K → Bound K}
    (narrows : ∀ bound ∈ node.columns[column]?, Narrows bound (change bound)) {objective : K}
    (least : ∀ values, (node.program program).Feasible values →
      objective ≤ program.minimized values) (depth : Nat) :
    Valid program integer ⟨node.columns.modify column change, .at objective, depth⟩ where
  toBox := valid.toBox.narrow narrows
  bounds := by
    intro values feasible
    have wider : List.Forall₂ Bound.Contains node.columns values :=
      forall₂_of_modify (fun bound at_column => (narrows bound at_column).contains)
        feasible.columns
    exact least values ⟨wider, feasible.rows⟩

variable {objective : K}

/-- A part of a box narrows its bounds of the column. -/
theorem narrows_of_mem_split (whole : ∀ bound ∈ node.columns[column]?, bound.isWhole = true)
    {point : List K} (inside : List.Forall₂ Bound.Contains node.columns point) {part : Node K}
    (member : part ∈ node.split column (Dense.entry point column) objective) :
    ∃ change depth, part = ⟨node.columns.modify column change, .at objective, depth⟩ ∧
      ∀ bound ∈ node.columns[column]?, Narrows bound (change bound) := by
  rcases (mem_split_iff part).mp member with rfl | rfl
  · exact ⟨_, _, rfl, fun bound at_column =>
      narrows_floor (whole bound at_column) (contains_entry inside at_column)⟩
  · exact ⟨_, _, rfl, fun bound at_column =>
      narrows_ceiling (whole bound at_column) (contains_entry inside at_column)⟩

theorem Box.split (box : Box program integer node.columns) (isInteger : column ∈ integer)
    {point : List K} (inside : List.Forall₂ Bound.Contains node.columns point) (objective : K) :
    ∀ part ∈ node.split column (Dense.entry point column) objective,
      Box program integer part.columns := by
  intro part member
  obtain ⟨change, depth, rfl, narrows⟩ :=
    narrows_of_mem_split (box.whole column isInteger) inside member
  exact box.narrow narrows

theorem Valid.split (valid : Valid program integer node) (isInteger : column ∈ integer)
    {point : List K} (inside : (node.program program).Feasible point)
    (least : ∀ values, (node.program program).Feasible values →
      objective ≤ program.minimized values) :
    ∀ other ∈ node.split column (Dense.entry point column) objective,
      Valid program integer other := by
  intro other member
  obtain ⟨change, depth, rfl, narrows⟩ :=
    narrows_of_mem_split (valid.whole column isInteger) inside.columns member
  exact valid.narrow narrows least depth

/-- The parts of a box leave out no point that is whole in the column. -/
theorem exists_mem_split {values : List K} (inside : (node.program program).Feasible values)
    (whole : IsWhole (Dense.entry values column)) (value objective : K) :
    ∃ other ∈ node.split column value objective, (other.program program).Feasible values := by
  simp only [mem_split_iff, exists_eq_or_imp, exists_eq_left]
  cases at_column : node.columns[column]? with
  | none =>
      left
      refine ⟨forall₂_modify inside.columns ?_, inside.rows⟩
      intro bound found
      simp [at_column] at found
  | some bound =>
      have contained := contains_entry inside.columns at_column
      rcases contains_floor_or_ceiling contained whole value with below | above
      · exact .inl ⟨(forall₂_modify_iff inside.columns at_column).mpr below, inside.rows⟩
      · exact .inr ⟨(forall₂_modify_iff inside.columns at_column).mpr above, inside.rows⟩

end Split

/-! ## Points that a search without incumbent loses -/

section Lost

variable {options : Options K} {program : Program K} {integer : List Nat} {state next : State K}
  {values : List K}

def State.Covers (program : Program K) (state : State K) (values : List K) : Prop :=
  ∃ node ∈ state.openNodes, (node.program program).Feasible values

/-- A step that leaves no incumbent loses an integral point only with a node that it drops. -/
theorem Performs.covers {relax : Nat → Program K → Outcome K}
    (performs : Performs options (relax state.solved) program integer state (.continue next))
    (barren : next.incumbent = none) (feasible : program.IntegerFeasible integer values)
    (covers : state.Covers program values) :
    next.Covers program values ∨
      ∃ node, Move.Drops options relax program ⟨state, next⟩ node ∧
        (node.program program).Feasible values := by
  have kept : next.incumbent = none → state.incumbent = none := performs.incumbent
  have before := kept barren
  have keeps (bound : Extended K) : ¬ state.prunes options bound = true := by
    simp [State.prunes, before]
  obtain ⟨inside, member, contains⟩ := covers
  cases performs with
  | prune node rest selected prunes => exact absurd prunes (keeps _)
  | dominate node rest point selected attains prunes => exact absurd prunes (keeps _)
  | improve => cases barren
  | drop node rest selected inTime unsolved =>
      rcases List.mem_cons.mp ((perm_of_select selected).mem_iff.mp member) with rfl | left
      · exact .inr ⟨inside, ⟨selected, inTime, unsolved⟩, contains⟩
      · exact .inl ⟨inside, left, contains⟩
  | branch node rest point column selected attains _ fractional =>
      rcases List.mem_cons.mp ((perm_of_select selected).mem_iff.mp member) with rfl | left
      · have whole := feasible.whole column (mem_of_branchingColumn fractional)
        obtain ⟨part, isPart, inPart⟩ := exists_mem_split contains whole
          (Dense.entry point.columnPrimal column) (minimizedObjective program point)
        exact .inl ⟨part, List.mem_append_right _ isPart, inPart⟩
      · exact .inl ⟨inside, List.mem_append_left _ left, contains⟩

/-- A search that says that there is no integral point has dropped a node for each of them. -/
theorem exists_drops {relax : Nat → Program K → Outcome K} {steps : Nat} {clock : Clock}
    {result : Result K}
    (found : runTimed options relax program integer steps clock state = some result)
    (ok : result.code = .ok) (barren : result.incumbent = none)
    (feasible : program.IntegerFeasible integer values)
    (covers : state.Covers program values) :
    ∃ move ∈ moves options relax program integer steps clock state, ∃ node,
      move.Drops options relax program node ∧ (node.program program).Feasible values := by
  induction steps generalizing clock state with
  | zero => cases found
  | succ steps inductionHypothesis =>
      rcases runTimed_succ_eq_some_iff.mp found with stepped | ⟨next, stepped, found⟩
      · cases performs_of_step stepped with
        | complete missing =>
            obtain ⟨inside, member, -⟩ := covers
            rw [eq_nil_of_select missing] at member
            cases member
        | late | close => cases ok
      · rw [moves_of_continue stepped]
        have after := (incumbent_eq_none found barren).1
        rcases (performs_of_step stepped).covers after feasible covers with
          still | ⟨node, drops, contains⟩
        · obtain ⟨move, later, lost⟩ := inductionHypothesis found still
          exact ⟨move, List.mem_cons_of_mem _ later, lost⟩
        · exact ⟨_, List.mem_cons_self, node, drops, contains⟩

end Lost

end Search

end LinearProgramming
