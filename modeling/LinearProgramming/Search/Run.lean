import LinearProgramming.Clock
import LinearProgramming.Search.Node

/-!
Branch and bound.

The search keeps a list of open boxes and the best integral point so far.  One
`step` takes up a box: it drops it, turns it into a new incumbent, or splits it.
The relaxation of a box is solved by a function that the search is given.  A
search of an unbounded box may have no end, so `run` is told how many steps it
may take, and answers nothing if these do not suffice.
-/

namespace LinearProgramming.Search

structure State (K : Type) where
  openNodes : List (Node K)
  incumbent : Option (Incumbent K)
  solved : Nat
  improvements : List Nat

/-- How a search ended. -/
structure Result (K : Type) where
  code : ReturnCode
  incumbent : Option (Incumbent K)
  bound : Extended K
  solved : Nat
  improvements : List Nat

inductive Verdict (K : Type) where
  | continue (state : State K)
  | done (result : Result K)

variable {K : Type} [Scalar K]

/-- The state in which only the box of the whole program is open. -/
def State.start (program : Program K) : State K where
  openNodes := [rootNode program]
  incumbent := none
  solved := 0
  improvements := []

/-- Whether a box with a bound cannot hold a point that improves on the incumbent
by more than the objective tolerance. -/
def pruned (options : Options K) (bound : Extended K) (incumbent : K) : Bool :=
  let needed :=
    incumbent - options.objectiveTolerance * (1 + Scalar.absolute incumbent)
  match bound with
  | .below => false
  | .at value => decide (needed ≤ value)
  | .above => true

/-- Whether the incumbent is close enough to a bound, relative to its own size. -/
def gapReached (options : Options K) (incumbent : K) (bound : Extended K) : Bool :=
  match bound with
  | .at value =>
      let gap :=
        Scalar.absolute (incumbent - value) / (Scalar.absolute incumbent + Scalar.epsilon)
      decide (gap ≤ options.gap) && decide (0 < options.gap)
  | _ => false

def bestBound (openNodes : List (Node K)) (node : Node K) (incumbent : K) : Extended K :=
  (openNodes.foldl (fun least other => least.smaller other.bound) node.bound).smaller
    (.at incumbent)

def State.stop (state : State K) (code : ReturnCode) : Result K :=
  let openBound :=
    state.openNodes.foldl (fun least node => least.smaller node.bound) Extended.above
  { code
    incumbent := state.incumbent
    bound :=
      match state.incumbent with
      | none => openBound
      | some incumbent => openBound.smaller (.at incumbent.objective)
    solved := state.solved
    improvements := state.improvements }

/-- The end of a search without open nodes. -/
def State.complete (state : State K) : Result K where
  code := .ok
  incumbent := state.incumbent
  bound :=
    match state.incumbent with
    | none => .above
    | some incumbent => .at incumbent.objective
  solved := state.solved
  improvements := state.improvements

/-- Whether an objective cannot improve on the incumbent, if there is one. -/
def State.prunes (options : Options K) (state : State K) (bound : Extended K) : Bool :=
  match state.incumbent with
  | none => false
  | some incumbent => pruned options bound incumbent.objective

/-- Whether the incumbent, if there is one, is good enough while `node` and the
open nodes are left. -/
def State.closesGap (options : Options K) (state : State K) (node : Node K) : Bool :=
  match state.incumbent with
  | none => false
  | some incumbent =>
      gapReached options incumbent.objective
        (bestBound state.openNodes node incumbent.objective)

/-- What follows from the relaxation of a node at an optimal point: the node is
dropped, gives a new incumbent, or is split. -/
def State.expand (options : Options K) (program : Program K) (integer : List Nat)
    (state : State K) (node : Node K) (point : Point K) : State K :=
  let objective := program.direction.minimizingSign * point.objective
  if state.prunes options (.at objective) then state
  else
    match branchingColumn options integer point.columnPrimal with
    | none =>
        { state with
          incumbent := some ⟨objective, roundColumns integer point.columnPrimal⟩
          improvements := state.improvements ++ [state.solved] }
    | some column =>
        let value := Dense.entry point.columnPrimal column
        { state with openNodes := state.openNodes ++ node.split column value objective }

/-- Takes up one open node, the given milliseconds after the start. -/
def step (options : Options K) (relax : Program K → Outcome K) (program : Program K)
    (integer : List Nat) (elapsed : Nat) (state : State K) : Verdict K :=
  match select options.nodeOrder state.openNodes with
  | none => .done state.complete
  | some (node, rest) =>
      let state := { state with openNodes := rest }
      let restored := { state with openNodes := rest ++ [node] }
      if options.outOfTime elapsed then .done (restored.stop .timeLimit)
      else if state.closesGap options node then .done (restored.stop .gapReached)
      else if state.prunes options node.bound then .continue state
      else
        let outcome := relax { program with columns := node.columns }
        let state := { state with solved := state.solved + 1 }
        let restored := { restored with solved := state.solved }
        if outcome.code = .timeLimit then .done (restored.stop .timeLimit)
        else
          match outcome.status, outcome.point with
          | .optimal, some point => .continue (state.expand options program integer node point)
          | _, _ => .continue state

def run (options : Options K) (relax : Program K → Outcome K) (program : Program K)
    (integer : List Nat) : (steps : Nat) → Clock → State K → Option (Result K)
  | 0, _, _ => none
  | steps + 1, clock, state =>
      match step options relax program integer (clock 0) state with
      | .done result => some result
      | .continue next => run options relax program integer steps clock.next next

/-- Searches the integral points of a program for the best one. -/
def search (steps : Nat) (options : Options K) (clock : Clock) (relax : Program K → Outcome K)
    (program : Program K) (integer : List Nat) : Option (Result K) :=
  run options relax program integer steps clock (State.start program)

/-- As `run`, where what the relaxation of a node gives may also depend on how many nodes
were solved before, as it does when every relaxation has a clock of its own. -/
def runTimed (options : Options K) (relax : Nat → Program K → Outcome K) (program : Program K)
    (integer : List Nat) : (steps : Nat) → Clock → State K → Option (Result K)
  | 0, _, _ => none
  | steps + 1, clock, state =>
      match step options (relax state.solved) program integer (clock 0) state with
      | .done result => some result
      | .continue next => runTimed options relax program integer steps clock.next next

theorem run_eq_runTimed (options : Options K) (relax : Program K → Outcome K)
    (program : Program K) (integer : List Nat) (steps : Nat) (clock : Clock) (state : State K) :
    run options relax program integer steps clock state =
      runTimed options (fun _ => relax) program integer steps clock state := by
  induction steps generalizing clock state with
  | zero => rfl
  | succ steps inductionHypothesis =>
      rw [run, runTimed]
      cases step options relax program integer (clock 0) state with
      | done result => rfl
      | «continue» next => exact inductionHypothesis clock.next next

def searchTimed (steps : Nat) (options : Options K) (clock : Clock)
    (relax : Nat → Program K → Outcome K) (program : Program K) (integer : List Nat) :
    Option (Result K) :=
  runTimed options relax program integer steps clock (State.start program)

end LinearProgramming.Search
