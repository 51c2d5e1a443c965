import LinearProgramming.Storage.Value
import LinearProgramming.Word

/-!
Stored values read from JSON text.

A number is whole if it is written without a point and an exponent, is no minus
zero and fits into 64 bits; every other number is the nearest double.  Of equal
names in a record the last one counts.
-/

namespace LinearProgramming.Json

open Storage (Value)

abbrev Rest := List Char

def skipBlanks (input : Rest) : Rest :=
  input.dropWhile fun character => [' ', '\t', '\n', '\r'].contains character

def hexValue? (digit : Char) : Option Nat :=
  if '0' ≤ digit ∧ digit ≤ '9' then some (digit.toNat - '0'.toNat)
  else if 'a' ≤ digit ∧ digit ≤ 'f' then some (digit.toNat - 'a'.toNat + 10)
  else if 'A' ≤ digit ∧ digit ≤ 'F' then some (digit.toNat - 'A'.toNat + 10)
  else none

def readUnit : Rest → Option (Nat × Rest)
  | first :: second :: third :: fourth :: rest => do
      let value ← [first, second, third, fourth].foldlM
        (fun value digit => (hexValue? digit).map (value * 16 + ·)) 0
      pure (value, rest)
  | _ => none

/-- A character written by its code, in one unit or in a pair. -/
def readCode (input : Rest) : Option (Char × Rest) := do
  let (unit, rest) ← readUnit input
  if 0xD800 ≤ unit ∧ unit < 0xDC00 then
    match rest with
    | '\\' :: 'u' :: rest =>
        let (low, rest) ← readUnit rest
        guard (0xDC00 ≤ low ∧ low < 0xE000)
        pure (Char.ofNat (0x10000 + (unit - 0xD800) * 0x400 + (low - 0xDC00)), rest)
    | _ => none
  else
    guard (unit < 0xD800 ∨ 0xE000 ≤ unit)
    pure (Char.ofNat unit, rest)

def readEscape : Rest → Option (Char × Rest)
  | 'u' :: rest => readCode rest
  | '"' :: rest => some ('"', rest)
  | '\\' :: rest => some ('\\', rest)
  | '/' :: rest => some ('/', rest)
  | 'b' :: rest => some ('\x08', rest)
  | 'f' :: rest => some ('\x0c', rest)
  | 'n' :: rest => some ('\n', rest)
  | 'r' :: rest => some ('\r', rest)
  | 't' :: rest => some ('\t', rest)
  | _ => none

/-- A string after its opening quote, with the characters read so far in reverse. -/
def readText : (fuel : Nat) → Rest → (done : List Char) → Option (String × Rest)
  | 0, _, _ => none
  | fuel + 1, input, done =>
      match input with
      | '"' :: rest => some (String.ofList done.reverse, rest)
      | '\\' :: rest => do
          let (character, rest) ← readEscape rest
          readText fuel rest (character :: done)
      | character :: rest =>
          if character.toNat < 0x20 then none else readText fuel rest (character :: done)
      | [] => none

def digitsValue (digits : List Char) : Nat :=
  digits.foldl (fun value digit => value * 10 + (digit.toNat - '0'.toNat)) 0

def takeDigits (input : Rest) : List Char × Rest :=
  (input.takeWhile Char.isDigit, input.dropWhile Char.isDigit)

def takeMinus : Rest → Bool × Rest
  | '-' :: rest => (true, rest)
  | rest => (false, rest)

def takeFraction : Rest → Option (List Char) × Rest
  | '.' :: rest => ((takeDigits rest).1, (takeDigits rest).2)
  | rest => (none, rest)

def signedExponent (negative : Bool) (input : Rest) : Int × Rest :=
  let (digits, rest) := takeDigits input
  let value : Int := digitsValue digits
  (if negative then -value else value, rest)

def exponentOf : Rest → Int × Rest
  | '-' :: rest => signedExponent true rest
  | '+' :: rest => signedExponent false rest
  | rest => signedExponent false rest

def takeExponent : Rest → Option Int × Rest
  | 'e' :: rest => ((exponentOf rest).1, (exponentOf rest).2)
  | 'E' :: rest => ((exponentOf rest).1, (exponentOf rest).2)
  | rest => (none, rest)

/-- The double nearest to `± mantissa * 10 ^ scale`. -/
def scaled (negative : Bool) (mantissa : Nat) (scale : Int) : Float :=
  let magnitude :=
    if mantissa = 0 then 0.0
    else if 0 ≤ scale then Float.ofScientific mantissa false scale.toNat
    else Float.ofScientific mantissa true (-scale).toNat
  if negative then -magnitude else magnitude

/-- Whether a whole number fits into 64 bits, with or without a sign. -/
def fitsWhole (negative : Bool) (magnitude : Nat) : Bool :=
  if negative then decide (0 < magnitude ∧ magnitude ≤ Word.values63)
  else decide (magnitude < Word.values64)

def readNumber (input : Rest) : Option (Value × Rest) := do
  let (negative, rest) := takeMinus input
  let (whole, rest) := takeDigits rest
  guard (!whole.isEmpty)
  let (fraction, rest) := takeFraction rest
  let (exponent, rest) := takeExponent rest
  let places := fraction.getD []
  let mantissa := digitsValue (whole ++ places)
  if fraction.isNone && exponent.isNone && fitsWhole negative mantissa then
    pure (.whole (if negative then -(mantissa : Int) else mantissa), rest)
  else
    pure (.real (scaled negative mantissa (exponent.getD 0 - places.length)), rest)

mutual

def readValue : (fuel : Nat) → Rest → Option (Value × Rest)
  | 0, _ => none
  | fuel + 1, input =>
      match skipBlanks input with
      | 'n' :: 'u' :: 'l' :: 'l' :: rest => some (.null, rest)
      | 't' :: 'r' :: 'u' :: 'e' :: rest => some (.flag true, rest)
      | 'f' :: 'a' :: 'l' :: 's' :: 'e' :: rest => some (.flag false, rest)
      | '"' :: rest => do
          let (text, rest) ← readText fuel rest []
          pure (.text text, rest)
      | '[' :: rest =>
          match skipBlanks rest with
          | ']' :: rest => some (.list [], rest)
          | rest => do
              let (values, rest) ← readItems fuel rest []
              pure (.list values, rest)
      | '\x7b' :: rest =>
          match skipBlanks rest with
          | '\x7d' :: rest => some (.record [], rest)
          | rest => do
              let (fields, rest) ← readFields fuel rest []
              pure (.record fields, rest)
      | rest => readNumber rest

/-- The values of a list up to its end, with those read so far in reverse. -/
def readItems : (fuel : Nat) → Rest → (done : List Value) → Option (List Value × Rest)
  | 0, _, _ => none
  | fuel + 1, input, done => do
      let (value, rest) ← readValue fuel input
      match skipBlanks rest with
      | ',' :: rest => readItems fuel rest (value :: done)
      | ']' :: rest => pure ((value :: done).reverse, rest)
      | _ => none

/-- The fields of a record up to its end, with those read so far in reverse. -/
def readFields :
    (fuel : Nat) → Rest → (done : List (String × Value)) → Option (List (String × Value) × Rest)
  | 0, _, _ => none
  | fuel + 1, input, done =>
      match skipBlanks input with
      | '"' :: rest => do
          let (name, rest) ← readText fuel rest []
          match skipBlanks rest with
          | ':' :: rest =>
              let (value, rest) ← readValue fuel rest
              let fields := (name, value) :: done.filter (·.1 != name)
              match skipBlanks rest with
              | ',' :: rest => readFields fuel rest fields
              | '\x7d' :: rest => pure (fields.reverse, rest)
              | _ => none
          | _ => none
      | _ => none

end

/-- Reads a text that holds one value.  Every step takes a character, so the fuel
suffices. -/
def read? (text : String) : Option Value := do
  let input := text.toList
  let (value, rest) ← readValue (input.length + 1) input
  guard (skipBlanks rest).isEmpty
  pure value

end LinearProgramming.Json
