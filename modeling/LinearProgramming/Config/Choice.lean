import LinearProgramming.Code

/-!
The choices a solver configuration offers.
-/

namespace LinearProgramming

inductive Verbosity where
  | off
  | errors
  | normal
  | all
  deriving DecidableEq, Repr

instance : Coded Verbosity where
  typeName := "Verbosity"
  values := [.off, .errors, .normal, .all]
  name
    | .off => "Off"
    | .errors => "Errors"
    | .normal => "Normal"
    | .all => "All"
  code
    | .off => 0
    | .errors => 1
    | .normal => 2
    | .all => 3

/-- The variant of the simplex method asked for.  All of them run the primal one. -/
inductive SimplexMethod where
  | primal
  | dualPrimal
  | dual
  deriving DecidableEq, Repr

instance : Coded SimplexMethod where
  typeName := "SimplexMethod"
  values := [.primal, .dualPrimal, .dual]
  name
    | .primal => "Primal"
    | .dualPrimal => "DualPrimal"
    | .dual => "Dual"
  code
    | .primal => 1
    | .dualPrimal => 2
    | .dual => 3

inductive Pricing where
  | standard
  | steepestEdge
  deriving DecidableEq, Repr

instance : Coded Pricing where
  typeName := "Pricing"
  values := [.standard, .steepestEdge]
  name
    | .standard => "Standard"
    | .steepestEdge => "SteepestEdge"
  code
    | .standard => 0x11
    | .steepestEdge => 0x22

inductive RatioTest where
  | standard
  | harris
  deriving DecidableEq, Repr

instance : Coded RatioTest where
  typeName := "RatioTest"
  values := [.standard, .harris]
  name
    | .standard => "Standard"
    | .harris => "Harris"
  code
    | .standard => 0x11
    | .harris => 0x22

/-- How the equations of the interior-point method are ordered.  The order is
only reported. -/
inductive EquationOrdering where
  | natural
  | quotientMinimumDegree
  | approximateMinimumDegree
  | symmetricApproximateMinimumDegree
  deriving DecidableEq, Repr

instance : Coded EquationOrdering where
  typeName := "Ordering"
  values :=
    [.natural, .quotientMinimumDegree, .approximateMinimumDegree,
      .symmetricApproximateMinimumDegree]
  name
    | .natural => "Natural"
    | .quotientMinimumDegree => "QuotientMinimumDegree"
    | .approximateMinimumDegree => "ApproximateMinimumDegree"
    | .symmetricApproximateMinimumDegree => "SymmetricApproximateMinimumDegree"
  code
    | .natural => 0
    | .quotientMinimumDegree => 1
    | .approximateMinimumDegree => 2
    | .symmetricApproximateMinimumDegree => 3

inductive Branching where
  | firstFractional
  | lastFractional
  | mostFractional
  | driebeckTomlin
  | pseudoCost
  deriving DecidableEq, Repr

instance : Coded Branching where
  typeName := "Branching"
  values := [.firstFractional, .lastFractional, .mostFractional, .driebeckTomlin, .pseudoCost]
  name
    | .firstFractional => "FirstFractional"
    | .lastFractional => "LastFractional"
    | .mostFractional => "MostFractional"
    | .driebeckTomlin => "DriebeckTomlin"
    | .pseudoCost => "PseudoCost"
  code
    | .firstFractional => 1
    | .lastFractional => 2
    | .mostFractional => 3
    | .driebeckTomlin => 4
    | .pseudoCost => 5

inductive Backtracking where
  | depthFirst
  | breadthFirst
  | bestLocalBound
  | bestProjection
  deriving DecidableEq, Repr

instance : Coded Backtracking where
  typeName := "Backtracking"
  values := [.depthFirst, .breadthFirst, .bestLocalBound, .bestProjection]
  name
    | .depthFirst => "DepthFirst"
    | .breadthFirst => "BreadthFirst"
    | .bestLocalBound => "BestLocalBound"
    | .bestProjection => "BestProjection"
  code
    | .depthFirst => 1
    | .breadthFirst => 2
    | .bestLocalBound => 3
    | .bestProjection => 4

/-- Where an integer problem is preprocessed.  The level is only passed on. -/
inductive Preprocessing where
  | none
  | root
  | all
  deriving DecidableEq, Repr

instance : Coded Preprocessing where
  typeName := "Preprocessing"
  values := [.none, .root, .all]
  name
    | .none => "None"
    | .root => "Root"
    | .all => "All"
  code
    | .none => 0
    | .root => 1
    | .all => 2

end LinearProgramming
