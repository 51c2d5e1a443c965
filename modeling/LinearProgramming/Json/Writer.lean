import LinearProgramming.Decimal.Shortest
import LinearProgramming.Storage.Value

/-!
Stored values as JSON text.

Text is written without blanks.  Only quotes, backslashes and controls are
escaped, and a real number is written exactly.
-/

namespace LinearProgramming.Json

open Storage (Value)

def fourDigits (number : Nat) : String :=
  let digits := String.ofList (Nat.toDigits 16 number)
  "".pushn '0' (4 - digits.length) ++ digits

def escape (character : Char) : String :=
  match character with
  | '"' => "\\\""
  | '\\' => "\\\\"
  | '\n' => "\\n"
  | '\r' => "\\r"
  | '\t' => "\\t"
  | other => if other.toNat < 0x20 then "\\u" ++ fourDigits other.toNat else String.singleton other

def writeText (text : String) : String :=
  "\"" ++ String.join (text.toList.map escape) ++ "\""

/-- A real number.  There is no text for values that are not finite. -/
def writeReal (value : Float) : String :=
  if !value.isFinite then "null"
  else
    let digits := Decimal.exact value
    if digits.contains '.' then digits else digits ++ ".0"

mutual

def write : Value → String
  | .null => "null"
  | .flag value => if value then "true" else "false"
  | .whole value => toString value
  | .real value => writeReal value
  | .text value => writeText value
  | .list values => "[" ++ ",".intercalate (writeItems values) ++ "]"
  | .record fields => "\x7b" ++ ",".intercalate (writeFields fields) ++ "\x7d"

def writeItems : List Value → List String
  | [] => []
  | value :: rest => write value :: writeItems rest

def writeFields : List (String × Value) → List String
  | [] => []
  | (name, value) :: rest => (writeText name ++ ":" ++ write value) :: writeFields rest

end

end LinearProgramming.Json
