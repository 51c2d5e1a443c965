/-!
How many values a word of a given number of bits has.
-/

namespace LinearProgramming.Word

/-- The number of values of 31 bits: the non-negative ones of 32 bits with a sign. -/
abbrev values31 : Nat := 2147483648

/-- The number of values of 32 bits. -/
abbrev values32 : Nat := 4294967296

/-- The number of values of 63 bits: the non-negative ones of 64 bits with a sign. -/
abbrev values63 : Nat := 9223372036854775808

/-- The number of values of 64 bits. -/
abbrev values64 : Nat := 18446744073709551616

end LinearProgramming.Word
