import LinearProgramming.Simplex.Options

/-!
Control parameters of the integer search.

As for the simplex method, choices are integer codes and an unknown code picks
the default rule.
-/

namespace LinearProgramming.Search

structure Options (K : Type) where
  messageLevel : Int
  branching : Int
  backtracking : Int
  integerTolerance : K
  objectiveTolerance : K
  /-- Milliseconds. -/
  timeLimit : Int
  /-- Milliseconds between two reports. -/
  outputFrequency : Int
  outputDelay : Int
  preprocessing : Int
  gap : K
  roundingCuts : Int
  gomoryCuts : Int
  coverCuts : Int
  cliqueCuts : Int
  presolve : Int
  binarize : Int

inductive NodeOrder where
  | newestFirst
  | oldestFirst
  | bestBoundFirst
  deriving DecidableEq, Repr

inductive ColumnChoice where
  | first
  | last
  | mostFractional
  deriving DecidableEq, Repr

namespace Options

variable {K : Type} [Scalar K]

def standard : Options K where
  messageLevel := 3
  branching := 4
  backtracking := 3
  integerTolerance := 1e-5
  objectiveTolerance := 1e-7
  timeLimit := 2147483647
  outputFrequency := 5000
  outputDelay := 10000
  preprocessing := 2
  gap := 0
  roundingCuts := 0
  gomoryCuts := 0
  coverCuts := 0
  cliqueCuts := 0
  presolve := 0
  binarize := 0

def nodeOrder (options : Options K) : NodeOrder :=
  if options.backtracking = 1 then .newestFirst
  else if options.backtracking = 2 then .oldestFirst
  else .bestBoundFirst

/-- The choice of the branching column. -/
def columnChoice (options : Options K) : ColumnChoice :=
  if options.branching = 1 then .first
  else if options.branching = 2 then .last
  else .mostFractional

def outOfTime (options : Options K) (elapsed : Nat) : Bool :=
  decide (options.timeLimit ≤ elapsed)

def presolves (options : Options K) : Bool :=
  options.presolve == 1

/-- The simplex parameters for the relaxation of a node. -/
def nodeOptions (options : Options K) : Simplex.Options K :=
  { Simplex.Options.standard with messageLevel := 0, timeLimit := options.timeLimit }

end Options

end LinearProgramming.Search
