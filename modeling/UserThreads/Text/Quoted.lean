import UserThreads.Text.Extending
import UserThreads.Text.Unprintable

/-!
Text between double quotes. A character that would be lost or misread there is
written as an escape.
-/

namespace UserThreads.Text

/-- The hexadecimal digits of `n`, lower case, without leading zeros. -/
def hex (n : Nat) : String := String.ofList (Nat.toDigits 16 n)

/-- How one character stands between double quotes. A single quote stands for
itself; a character without a printed form, or one that would merge with its
neighbour, is written by number. -/
def escape (c : Char) : String :=
  match c with
  | '\x00' => "\\0"
  | '\t' => "\\t"
  | '\r' => "\\r"
  | '\n' => "\\n"
  | '"' => "\\\""
  | '\\' => "\\\\"
  | _ =>
      if isExtending c || isUnprintable c then "\\u\x7b" ++ hex c.toNat ++ "\x7d"
      else c.toString

def quoted (text : String) : String :=
  "\"" ++ String.join (text.toList.map escape) ++ "\""

end UserThreads.Text
