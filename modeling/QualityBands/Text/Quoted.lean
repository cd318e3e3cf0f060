import QualityBands.Text.Printable

/-!
Quoted texts in messages.

A quoted text stands between double quotes. A double quote or a backslash in it follows a
backslash, the usual controls have a letter, and every other character that would not show is
written as its hexadecimal scalar value in braces.
-/

namespace QualityBands.Text

/-- The hexadecimal digits of a number, in lower case and without leading zeros. -/
def hexadecimal (n : Nat) : String := String.ofList (Nat.toDigits 16 n)

def quotedChar (c : Char) : String :=
  match c with
  | '"' => "\\\""
  | '\\' => "\\\\"
  | '\n' => "\\n"
  | '\r' => "\\r"
  | '\t' => "\\t"
  | '\x00' => "\\0"
  | _ => if isShown c then c.toString else "\\u\x7b" ++ hexadecimal c.toNat ++ "\x7d"

def quoted (s : String) : String :=
  "\"" ++ String.join (s.toList.map quotedChar) ++ "\""

end QualityBands.Text
