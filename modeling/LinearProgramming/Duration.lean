/-!
Spans of time, in seconds and nanoseconds.
-/

namespace LinearProgramming

/-- A span of time: whole seconds and less than a second in nanoseconds. -/
structure Duration where
  seconds : Nat
  nanos : Nat
  nanos_lt : nanos < 1000000000
  deriving DecidableEq, Repr

namespace Duration

/-- The span of the given seconds and nanoseconds; a second or more of the latter
carries over. -/
def ofParts (seconds nanos : Nat) : Duration where
  seconds := seconds + nanos / 1000000000
  nanos := nanos % 1000000000
  nanos_lt := Nat.mod_lt _ (by decide)

def totalNanos (duration : Duration) : Nat :=
  duration.seconds * 1000000000 + duration.nanos

/-- The least whole number of milliseconds that is not shorter. -/
def milliseconds (duration : Duration) : Nat :=
  (duration.totalNanos + 999999) / 1000000

def isZero (duration : Duration) : Bool :=
  duration.totalNanos == 0

end Duration

end LinearProgramming
