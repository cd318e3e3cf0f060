import QualityBands.Outline

/-!
Outlines as JSON, on one line or set out with two spaces for each level.

Repeated keys are written as they come. Numbers without digits are null.
-/

namespace QualityBands.Json

/-! ### Scalars -/

/-- Like numbers in a document, with a plus sign before positive exponents. -/
def layout : Layout where
  tie := .toEven
  positional := some (-4, 16)
  plusSign := true
  nan := "null"
  infinity := "null"
  negativeInfinity := "null"

def hexDigit (n : Nat) : Char := Nat.digitChar (n % 16)

def escapedChar (c : Char) : List Char :=
  match c with
  | '"' => ['\\', '"']
  | '\\' => ['\\', '\\']
  | '\x08' => ['\\', 'b']
  | '\x0c' => ['\\', 'f']
  | '\n' => ['\\', 'n']
  | '\r' => ['\\', 'r']
  | '\t' => ['\\', 't']
  | _ =>
    if c.toNat < 0x20 then ['\\', 'u', '0', '0', hexDigit (c.toNat / 16), hexDigit c.toNat]
    else [c]

def quoted (s : String) : String :=
  String.ofList (['"'] ++ s.toList.flatMap escapedChar ++ ['"'])

def number : Number → String
  | .integer n => toString n
  | .float x => layout.write x

/-! ### One line -/

mutual

def compact : Outline → String
  | .text s => quoted s
  | .number n => number n
  | .fields entries => "\x7b" ++ ",".intercalate (compactEntries entries) ++ "\x7d"

def compactEntries : List (String × Outline) → List String
  | [] => []
  | (key, value) :: rest => (quoted key ++ ":" ++ compact value) :: compactEntries rest

end

/-! ### Set out in lines -/

def indentation (level : Nat) : String := String.ofList (List.replicate (2 * level) ' ')

mutual

def prettyAt (level : Nat) : Outline → String
  | .text s => quoted s
  | .number n => number n
  | .fields [] => "\x7b\x7d"
  | .fields entries =>
    "\x7b\n" ++ ",\n".intercalate (prettyEntries (level + 1) entries) ++ "\n" ++
      indentation level ++ "\x7d"

def prettyEntries (level : Nat) : List (String × Outline) → List String
  | [] => []
  | (key, value) :: rest =>
    (indentation level ++ quoted key ++ ": " ++ prettyAt level value) ::
      prettyEntries level rest

end

def pretty (outline : Outline) : String := prettyAt 0 outline

end QualityBands.Json
