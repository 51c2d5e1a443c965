/-!
The clock that time limits are held against.

A solver reads the clock again and again; what it sees is the list of its
readings, so every way in which time can pass is a value of the type.
-/

namespace LinearProgramming

/-- The milliseconds gone since the start of a run, at every reading. -/
abbrev Clock := Nat → Nat

namespace Clock

def still : Clock := fun _ => 0

/-- The readings that follow the first. -/
def next (clock : Clock) : Clock := fun reading => clock (reading + 1)

end Clock

/-- The clocks of one solve: that of its simplex run, that of the relaxation which a search
may solve first, that of the search, and those of the relaxations of its nodes, which are
numbered in the order in which they are solved. -/
structure Timing where
  simplex : Clock
  root : Clock
  search : Clock
  node : Nat → Clock

def Timing.still : Timing where
  simplex := .still
  root := .still
  search := .still
  node := fun _ => .still

end LinearProgramming
