import LinearProgramming.Scalar

/-!
Bounds of rows and columns.

A `Bound` stores exactly the sides its kind uses, so an unused side is never
present.  `Bound.request?` decides which requested bounds are accepted and folds
infinite sides into the kind; `Interval` is the form in which a bound is
reported, with a value on either side.
-/

namespace LinearProgramming

inductive BoundKind where
  | free
  | lower
  | upper
  | double
  | fixed
  deriving DecidableEq, Repr

inductive Bound (K : Type) where
  | free
  | lower (least : K)
  | upper (greatest : K)
  | double (least greatest : K)
  | fixed (value : K)

namespace Bound

variable {K : Type}

def kind : Bound K → BoundKind
  | free => .free
  | lower _ => .lower
  | upper _ => .upper
  | double _ _ => .double
  | fixed _ => .fixed

def lower? : Bound K → Option K
  | free => none
  | lower least => some least
  | upper _ => none
  | double least _ => some least
  | fixed value => some value

def upper? : Bound K → Option K
  | free => none
  | lower _ => none
  | upper greatest => some greatest
  | double _ greatest => some greatest
  | fixed value => some value

/-- The bound of a kind; sides the kind does not use are ignored. -/
def ofKind (kind : BoundKind) (least greatest : K) : Bound K :=
  match kind with
  | .free => free
  | .lower => lower least
  | .upper => upper greatest
  | .double => double least greatest
  | .fixed => fixed least

variable [Scalar K]

def lowerSide (bound : Bound K) : K :=
  bound.lower?.getD (-Scalar.infinity)

def upperSide (bound : Bound K) : K :=
  bound.upper?.getD Scalar.infinity

/-- The bound with the given sides, whose kind is read off which sides are finite. -/
def between (least? greatest? : Option K) : Bound K :=
  match least?.filter Scalar.isFinite, greatest?.filter Scalar.isFinite with
  | none, none => free
  | some least, none => lower least
  | none, some greatest => upper greatest
  | some least, some greatest =>
      if least == greatest then fixed least else double least greatest

/-- Whether a solver accepts the bound: its sides are numbers, and a double
bound is wider than a point. -/
def isConsistent : Bound K → Bool
  | free => true
  | lower least => !Scalar.isNaN least
  | upper greatest => !Scalar.isNaN greatest
  | double least greatest => decide (least < greatest)
  | fixed value => !Scalar.isNaN value

def isWhole (bound : Bound K) : Bool :=
  bound.lower?.all Scalar.isWhole && bound.upper?.all Scalar.isWhole

/-- The canonical bound for a request, or `none` if no finite number meets it.

A lower side of minus infinity and an upper side of infinity are absent; a
double bound with equal sides is fixed.  A fixed bound takes its lower side and
needs an upper side that is not smaller. -/
def request? (kind : BoundKind) (least greatest : K) : Option (Bound K) :=
  match kind with
  | .free => some free
  | .lower =>
      if Scalar.isFinite least then some (lower least)
      else if least == -Scalar.infinity then some free
      else none
  | .upper =>
      if Scalar.isFinite greatest then some (upper greatest)
      else if greatest == Scalar.infinity then some free
      else none
  | .double =>
      if Scalar.isFinite least then
        if Scalar.isFinite greatest then
          if least == greatest then some (fixed least)
          else if least < greatest then some (double least greatest)
          else none
        else if greatest == Scalar.infinity then some (lower least)
        else none
      else if least == -Scalar.infinity then
        if Scalar.isFinite greatest then some (upper greatest)
        else if greatest == Scalar.infinity then some free
        else none
      else none
  | .fixed =>
      if Scalar.isFinite least && decide (least ≤ greatest) then some (fixed least) else none

end Bound

/-- A bound as callers see it: the kind and a value on either side. -/
structure Interval (K : Type) where
  kind : BoundKind
  lower : K
  upper : K

namespace Interval

variable {K : Type} [Scalar K]

def ofBound (bound : Bound K) : Interval K where
  kind := bound.kind
  lower := bound.lowerSide
  upper := bound.upperSide

/-- The interval of a kind; sides the kind does not use become infinite. -/
def ofKind (kind : BoundKind) (least greatest : K) : Interval K :=
  ofBound (Bound.ofKind kind least greatest)

def free : Interval K := ofBound .free

def atLeast (least : K) : Interval K := ofBound (.lower least)

def atMost (greatest : K) : Interval K := ofBound (.upper greatest)

def double (least greatest : K) : Interval K := ofBound (.double least greatest)

def fixed (value : K) : Interval K := ofBound (.fixed value)

def contains (interval : Interval K) (value : K) : Bool :=
  decide (interval.lower ≤ value) && decide (value ≤ interval.upper)

end Interval

end LinearProgramming
