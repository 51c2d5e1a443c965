import LinearProgramming.Text.Shown

/-!
Quoted text.

A quote, a backslash and the usual controls are written with a backslash, other
characters that are not shown by their code point, and all else as it is.
-/

namespace LinearProgramming.Text

def hexadecimal (number : Nat) : String :=
  String.ofList (Nat.toDigits 16 number)

def escape (character : Char) : String :=
  match character with
  | '\x00' => "\\0"
  | '\t' => "\\t"
  | '\n' => "\\n"
  | '\r' => "\\r"
  | '"' => "\\\""
  | '\\' => "\\\\"
  | other =>
      if isShown other then String.singleton other
      else "\\u\x7b" ++ hexadecimal other.toNat ++ "\x7d"

def quoted (text : String) : String :=
  "\"" ++ String.join (text.toList.map escape) ++ "\""

end LinearProgramming.Text
