import LinearProgramming.Search.Run

/-!
# What a step of the search can do

A step ends the search, or takes up a node and does one of five things with it: drops it by its
bound, drops it because its relaxation has no optimum, drops it by its optimum, takes the optimum
as the new incumbent, or puts the two parts of the node in its place.  What holds of every
incumbent, and what becomes of the nodes of a search that finds none, follows from this list.
-/

namespace LinearProgramming

/-- The run ended in time at an optimum, which is the point. -/
structure Outcome.Attains {K : Type} (outcome : Outcome K) (point : Point K) : Prop where
  inTime : outcome.code ≠ .timeLimit
  status : outcome.status = .optimal
  point : outcome.point = some point

namespace Search

variable {K : Type} [Scalar K]

theorem mem_of_select {order : NodeOrder} {nodes rest : List (Node K)} {node : Node K}
    (selected : select order nodes = some (node, rest)) :
    node ∈ nodes ∧ ∀ other ∈ rest, other ∈ nodes := by
  simp only [select, Option.bind_eq_bind, Option.bind_eq_some_iff, pure, Option.some.injEq,
    Prod.mk.injEq] at selected
  obtain ⟨position, -, found, inside, rfl, rfl⟩ := selected
  exact ⟨List.mem_of_getElem? inside, fun other member => List.mem_of_mem_eraseIdx member⟩

theorem mem_split_iff {node : Node K} {column : Nat} {value objective : K} (part : Node K) :
    part ∈ node.split column value objective ↔
      part = node.below column value objective ∨ part = node.above column value objective := by
  unfold Node.split
  split <;> simp [or_comm]

theorem length_columns_of_mem_split {node part : Node K} {column : Nat} {value objective : K}
    (member : part ∈ node.split column value objective) :
    part.columns.length = node.columns.length := by
  rcases (mem_split_iff part).mp member with rfl | rfl <;>
    simp [Node.below, Node.above]

theorem length_roundColumns (integer : List Nat) (point : List K) :
    (roundColumns integer point).length = point.length := by
  rw [roundColumns]
  induction integer generalizing point with
  | nil => rfl
  | cons column integer inductionHypothesis => simp [inductionHypothesis]

/-! ## Single steps -/

/-- The relaxation of a node. -/
def Node.relaxed (relax : Program K → Outcome K) (program : Program K) (node : Node K) :
    Outcome K :=
  relax { program with columns := node.columns }

def minimizedObjective (program : Program K) (point : Point K) : K :=
  program.direction.minimizingSign * point.objective

inductive Performs (options : Options K) (relax : Program K → Outcome K) (program : Program K)
    (integer : List Nat) (state : State K) : Verdict K → Prop
  | complete (missing : select options.nodeOrder state.openNodes = none) :
      Performs options relax program integer state (.done state.complete)
  | late (node : Node K) (rest : List (Node K))
      (selected : select options.nodeOrder state.openNodes = some (node, rest)) (solved : Nat) :
      Performs options relax program integer state
        (.done (State.stop { state with openNodes := rest ++ [node], solved } .timeLimit))
  | close (node : Node K) (rest : List (Node K))
      (selected : select options.nodeOrder state.openNodes = some (node, rest))
      (closes : State.closesGap options { state with openNodes := rest } node = true) :
      Performs options relax program integer state
        (.done (State.stop { state with openNodes := rest ++ [node] } .gapReached))
  | prune (node : Node K) (rest : List (Node K))
      (selected : select options.nodeOrder state.openNodes = some (node, rest))
      (prunes : state.prunes options node.bound = true) :
      Performs options relax program integer state (.continue { state with openNodes := rest })
  | drop (node : Node K) (rest : List (Node K))
      (selected : select options.nodeOrder state.openNodes = some (node, rest))
      (inTime : (node.relaxed relax program).code ≠ .timeLimit)
      (unsolved : ∀ point, ¬ (node.relaxed relax program).Attains point) :
      Performs options relax program integer state
        (.continue { state with openNodes := rest, solved := state.solved + 1 })
  | dominate (node : Node K) (rest : List (Node K)) (point : Point K)
      (selected : select options.nodeOrder state.openNodes = some (node, rest))
      (attains : (node.relaxed relax program).Attains point)
      (prunes : state.prunes options (.at (minimizedObjective program point)) = true) :
      Performs options relax program integer state
        (.continue { state with openNodes := rest, solved := state.solved + 1 })
  | improve (node : Node K) (rest : List (Node K)) (point : Point K)
      (selected : select options.nodeOrder state.openNodes = some (node, rest))
      (attains : (node.relaxed relax program).Attains point)
      (keeps : ¬ state.prunes options (.at (minimizedObjective program point)) = true)
      (whole : branchingColumn options integer point.columnPrimal = none) :
      Performs options relax program integer state
        (.continue
          { openNodes := rest
            incumbent :=
              some ⟨minimizedObjective program point, roundColumns integer point.columnPrimal⟩
            solved := state.solved + 1
            improvements := state.improvements ++ [state.solved + 1] })
  | branch (node : Node K) (rest : List (Node K)) (point : Point K) (column : Nat)
      (selected : select options.nodeOrder state.openNodes = some (node, rest))
      (attains : (node.relaxed relax program).Attains point)
      (keeps : ¬ state.prunes options (.at (minimizedObjective program point)) = true)
      (fractional : branchingColumn options integer point.columnPrimal = some column) :
      Performs options relax program integer state
        (.continue
          { state with
            openNodes :=
              rest ++ node.split column (Dense.entry point.columnPrimal column)
                (minimizedObjective program point)
            solved := state.solved + 1 })

variable {options : Options K} {program : Program K} {integer : List Nat} {state : State K}

theorem performs_expand {relax : Program K → Outcome K} {node : Node K} {rest : List (Node K)}
    {point : Point K} (selected : select options.nodeOrder state.openNodes = some (node, rest))
    (attains : (node.relaxed relax program).Attains point) :
    Performs options relax program integer state
      (.continue (State.expand options program integer
        { state with openNodes := rest, solved := state.solved + 1 } node point)) := by
  unfold State.expand
  dsimp only
  split
  case isTrue prunes => exact .dominate node rest point selected attains prunes
  case isFalse keeps =>
    split
    · rename_i whole
      exact .improve node rest point selected attains keeps whole
    · rename_i column fractional
      exact .branch node rest point column selected attains keeps fractional

theorem performs_of_step {relax : Program K → Outcome K} {elapsed : Nat} {verdict : Verdict K}
    (stepped : step options relax program integer elapsed state = verdict) :
    Performs options relax program integer state verdict := by
  rw [← stepped]
  unfold step
  split
  · rename_i missing
    exact .complete missing
  · rename_i node rest selected
    dsimp only
    split
    case isTrue => exact .late node rest selected state.solved
    case isFalse =>
      split
      case isTrue closes => exact .close node rest selected closes
      case isFalse =>
        split
        case isTrue prunes => exact .prune node rest selected prunes
        case isFalse =>
          split
          case isTrue => exact .late node rest selected (state.solved + 1)
          case isFalse inTime =>
            split
            · rename_i point optimal found
              exact performs_expand selected ⟨inTime, optimal, found⟩
            · rename_i unsolved
              exact .drop node rest selected inTime fun point attains =>
                unsolved point attains.status attains.point

/-! ## Whole runs -/

def Verdict.Satisfies {K : Type} (keeps : State K → Prop) (ends : Result K → Prop) :
    Verdict K → Prop
  | .continue state => keeps state
  | .done result => ends result

variable {relax : Nat → Program K → Outcome K} {steps : Nat} {clock : Clock} {result : Result K}

theorem runTimed_succ_eq_some_iff :
    runTimed options relax program integer (steps + 1) clock state = some result ↔
      step options (relax state.solved) program integer (clock 0) state = .done result ∨
        ∃ next, step options (relax state.solved) program integer (clock 0) state =
            .continue next ∧
          runTimed options relax program integer steps clock.next next = some result := by
  rw [runTimed]
  cases step options (relax state.solved) program integer (clock 0) state with
  | done first => simp
  | «continue» next => simp

/-- A run that ends in some number of steps ends alike if it is given more of them. -/
theorem runTimed_of_le {budget : Nat} (enough : steps ≤ budget)
    (found : runTimed options relax program integer steps clock state = some result) :
    runTimed options relax program integer budget clock state = some result := by
  induction steps generalizing budget clock state with
  | zero => cases found
  | succ steps inductionHypothesis =>
      obtain ⟨budget, rfl⟩ := Nat.exists_eq_add_of_lt enough
      rw [runTimed_succ_eq_some_iff]
      refine (runTimed_succ_eq_some_iff.mp found).imp_right ?_
      rintro ⟨next, stepped, found⟩
      exact ⟨next, stepped, inductionHypothesis (Nat.le_add_right _ _) found⟩

theorem runTimed_induction (keeps : State K → Prop) {ends : Result K → Prop}
    (performed : ∀ state verdict, keeps state →
      Performs options (relax state.solved) program integer state verdict →
        verdict.Satisfies keeps ends)
    (start : keeps state)
    (found : runTimed options relax program integer steps clock state = some result) :
    ends result := by
  induction steps generalizing clock state with
  | zero => cases found
  | succ steps inductionHypothesis =>
      rcases runTimed_succ_eq_some_iff.mp found with stepped | ⟨next, stepped, found⟩
      · exact performed state _ start (performs_of_step stepped)
      · exact inductionHypothesis (performed state _ start (performs_of_step stepped)) found

theorem exists_last_of_runTimed
    (found : runTimed options relax program integer steps clock state = some result) :
    ∃ last, Performs options (relax last.solved) program integer last (.done result) := by
  apply runTimed_induction (fun _ => True) _ trivial found
  intro last verdict _ performs
  cases verdict with
  | «continue» next => trivial
  | done result => exact ⟨last, performs⟩

/-- What the open nodes hand down to their parts, and what the optimum of such a node has that is
whole in the integer columns, the incumbent of a run has. -/
theorem incumbent_of_runTimed (keeps : Node K → Prop) {good : Incumbent K → Prop}
    (branches : ∀ solved node point column, keeps node →
      (node.relaxed (relax solved) program).Attains point →
      branchingColumn options integer point.columnPrimal = some column →
      ∀ part ∈ node.split column (Dense.entry point.columnPrimal column)
        (minimizedObjective program point), keeps part)
    (improves : ∀ solved node point, keeps node →
      (node.relaxed (relax solved) program).Attains point →
      branchingColumn options integer point.columnPrimal = none →
      good ⟨minimizedObjective program point, roundColumns integer point.columnPrimal⟩)
    (nodes : ∀ node ∈ state.openNodes, keeps node) (best : ∀ best ∈ state.incumbent, good best)
    (found : runTimed options relax program integer steps clock state = some result) :
    ∀ best ∈ result.incumbent, good best := by
  apply runTimed_induction (fun state =>
    (∀ node ∈ state.openNodes, keeps node) ∧ ∀ best ∈ state.incumbent, good best) _
    ⟨nodes, best⟩ found
  rintro state verdict ⟨nodes, best⟩ performs
  cases performs with
  | complete | late | close => exact best
  | prune node rest selected | drop node rest selected | dominate node rest _ selected =>
      obtain ⟨-, fewer⟩ := mem_of_select selected
      exact ⟨fun other member => nodes other (fewer other member), best⟩
  | improve node rest point selected attains _ whole =>
      obtain ⟨taken, fewer⟩ := mem_of_select selected
      refine ⟨fun other member => nodes other (fewer other member), ?_⟩
      rintro _ ⟨⟩
      exact improves state.solved node point (nodes node taken) attains whole
  | branch node rest point column selected attains _ fractional =>
      obtain ⟨taken, fewer⟩ := mem_of_select selected
      refine ⟨?_, best⟩
      intro other member
      rcases List.mem_append.mp member with old | part
      · exact nodes other (fewer other old)
      · exact branches state.solved node point column (nodes node taken) attains fractional
          other part

/-! ## The steps on the way -/

structure Move (K : Type) where
  before : State K
  after : State K

/-- The steps of a run but for its last one. -/
def moves (options : Options K) (relax : Nat → Program K → Outcome K) (program : Program K)
    (integer : List Nat) : (steps : Nat) → Clock → State K → List (Move K)
  | 0, _, _ => []
  | steps + 1, clock, state =>
      match step options (relax state.solved) program integer (clock 0) state with
      | .done _ => []
      | .continue next =>
          ⟨state, next⟩ :: moves options relax program integer steps clock.next next

theorem moves_of_done {first : Result K}
    (stepped : step options (relax state.solved) program integer (clock 0) state = .done first) :
    moves options relax program integer (steps + 1) clock state = [] := by
  rw [moves, stepped]

theorem moves_of_continue {next : State K}
    (stepped : step options (relax state.solved) program integer (clock 0) state =
      .continue next) :
    moves options relax program integer (steps + 1) clock state =
      ⟨state, next⟩ :: moves options relax program integer steps clock.next next := by
  rw [moves, stepped]

namespace Move

def relaxed (relax : Nat → Program K → Outcome K) (program : Program K) (move : Move K)
    (node : Node K) : Outcome K :=
  node.relaxed (relax move.before.solved) program

/-- The move takes up the node and puts nothing in its place, though nothing is known of its
optimum. -/
structure Drops (options : Options K) (relax : Nat → Program K → Outcome K) (program : Program K)
    (move : Move K) (node : Node K) : Prop where
  taken : select options.nodeOrder move.before.openNodes = some (node, move.after.openNodes)
  inTime : (move.relaxed relax program node).code ≠ .timeLimit
  unsolved : ∀ point, ¬ (move.relaxed relax program node).Attains point

/-- The move takes up the node and puts its two parts in its place, cut at the optimum. -/
def Splits (options : Options K) (relax : Nat → Program K → Outcome K) (program : Program K)
    (integer : List Nat) (move : Move K) (node : Node K) : Prop :=
  ∃ rest point column,
    select options.nodeOrder move.before.openNodes = some (node, rest) ∧
      (move.relaxed relax program node).Attains point ∧
      branchingColumn options integer point.columnPrimal = some column ∧
      move.after.openNodes =
        rest ++ node.split column (Dense.entry point.columnPrimal column)
          (minimizedObjective program point)

end Move

section Barren

/-- A step never takes the incumbent away. -/
theorem Performs.incumbent {relax : Program K → Outcome K} {verdict : Verdict K}
    (performs : Performs options relax program integer state verdict) :
    verdict.Satisfies (fun next => next.incumbent = none → state.incumbent = none)
      fun result => result.incumbent = none → state.incumbent = none := by
  cases performs with
  | improve => rintro ⟨⟩
  | _ => exact id

theorem performs_of_mem_moves {move : Move K}
    (member : move ∈ moves options relax program integer steps clock state) :
    Performs options (relax move.before.solved) program integer move.before
      (.continue move.after) := by
  induction steps generalizing clock state with
  | zero => cases member
  | succ steps inductionHypothesis =>
      cases stepped : step options (relax state.solved) program integer (clock 0) state with
      | done first =>
          rw [moves_of_done stepped] at member
          cases member
      | «continue» next =>
          rw [moves_of_continue stepped] at member
          rcases List.mem_cons.mp member with rfl | later
          · exact performs_of_step stepped
          · exact inductionHypothesis later

variable (found : runTimed options relax program integer steps clock state = some result)
  (barren : result.incumbent = none)

include found barren

theorem incumbent_eq_none :
    state.incumbent = none ∧ ∀ move ∈ moves options relax program integer steps clock state,
      move.before.incumbent = none ∧ move.after.incumbent = none := by
  induction steps generalizing clock state with
  | zero => cases found
  | succ steps inductionHypothesis =>
      rcases runTimed_succ_eq_some_iff.mp found with stepped | ⟨next, stepped, found⟩
      · rw [moves_of_done stepped]
        exact ⟨(performs_of_step stepped).incumbent barren, by simp⟩
      · rw [moves_of_continue stepped]
        obtain ⟨after, later⟩ := inductionHypothesis found
        have before : state.incumbent = none := (performs_of_step stepped).incumbent after
        exact ⟨before, List.forall_mem_cons.mpr ⟨⟨before, after⟩, later⟩⟩

/-- Such a search splits every node that it takes up, or drops it without knowing an optimum. -/
theorem splits_or_drops {move : Move K}
    (member : move ∈ moves options relax program integer steps clock state) :
    ∃ node, move.Splits options relax program integer node ∨
      move.Drops options relax program node := by
  obtain ⟨before, after⟩ := (incumbent_eq_none found barren).2 move member
  have performs := performs_of_mem_moves member
  obtain ⟨previous, next⟩ := move
  dsimp only at before after performs
  -- Without an incumbent nothing is dropped for being no better than it.
  have keeps (bound : Extended K) : ¬ previous.prunes options bound = true := by
    simp [State.prunes, before]
  cases performs with
  | prune node rest selected prunes => exact absurd prunes (keeps _)
  | dominate node rest point selected attains prunes => exact absurd prunes (keeps _)
  | improve => cases after
  | drop node rest selected inTime unsolved => exact ⟨node, .inr ⟨selected, inTime, unsolved⟩⟩
  | branch node rest point column selected attains _ fractional =>
      exact ⟨node, .inl ⟨rest, point, column, selected, attains, fractional, rfl⟩⟩

end Barren

end Search

end LinearProgramming
