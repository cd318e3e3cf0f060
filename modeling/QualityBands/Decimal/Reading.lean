import QualityBands.Binary64

/-!
Reading numbers from text.

A number is an optional sign and either the word `inf`, `infinity` or `nan` in any case, or
decimal digits with an optional point and an optional exponent, with at least one digit before
the exponent. It is read as the nearest binary64 number. A whole number is an optional sign and
one or more digits. Digits are those of ASCII.
-/

namespace QualityBands.Decimal

def digitValue (c : Char) : Nat := c.toNat - '0'.toNat

/-- The number written by a list of digits. -/
def naturalOf (digits : List Char) : Nat :=
  digits.foldl (fun n c => 10 * n + digitValue c) 0

/-- Splits off a sign; the first component says whether it is a minus. -/
def splitSign : List Char → Bool × List Char
  | '-' :: rest => (true, rest)
  | '+' :: rest => (false, rest)
  | cs => (false, cs)

/-! ### Whole numbers -/

def wholeOfChars? (cs : List Char) : Option Int :=
  let (negative, digits) := splitSign cs
  if digits.isEmpty ∨ ¬ digits.all Char.isDigit then none
  else if negative then some (-(naturalOf digits : Int)) else some (naturalOf digits)

/-- The whole number that a text denotes. -/
def whole? (s : String) : Option Int := wholeOfChars? s.toList

/-! ### Numbers with a fraction -/

/-- Splits the characters before the exponent mark from a whole exponent behind it. -/
def splitExponent? (cs : List Char) : Option (List Char × Int) :=
  let isMark := fun c : Char => c = 'e' || c = 'E'
  let mantissa := cs.takeWhile (!isMark ·)
  match cs.dropWhile (!isMark ·) with
  | [] => some (mantissa, 0)
  | _ :: exponent => (wholeOfChars? exponent).map fun e => (mantissa, e)

/-- The digits before and behind the point. -/
def splitPoint? (cs : List Char) : Option (List Char × List Char) :=
  let before := cs.takeWhile Char.isDigit
  match cs.dropWhile Char.isDigit with
  | [] => if before.isEmpty then none else some (before, [])
  | '.' :: fraction =>
    if fraction.all Char.isDigit ∧ ¬ (before.isEmpty ∧ fraction.isEmpty) then
      some (before, fraction)
    else none
  | _ => none

/-- No exponent beyond these bounds changes the nearest number to `length` digits. -/
def clampExponent (length : Nat) (exponent : Int) : Int :=
  max (-(length + 400 : Int)) (min 400 exponent)

/-- The number nearest to `digits * 10 ^ exponent`. -/
def nearest (negative : Bool) (digits : Nat) (exponent : Int) : Binary64 :=
  if 0 ≤ exponent then Binary64.ofRatio negative (digits * Nat.pow 10 exponent.toNat) 1
  else Binary64.ofRatio negative digits (Nat.pow 10 (-exponent).toNat)

def ofMagnitude? (negative : Bool) (cs : List Char) : Option Binary64 := do
  let (mantissa, exponent) ← splitExponent? cs
  let (before, fraction) ← splitPoint? mantissa
  let digits := before ++ fraction
  let exponent := clampExponent digits.length (exponent - fraction.length)
  pure (nearest negative (naturalOf digits) exponent)

/-- The number that a text denotes. -/
def number? (s : String) : Option Binary64 :=
  let (negative, cs) := splitSign s.toList
  let word := cs.map Char.toLower
  if word = ['i', 'n', 'f'] ∨ word = ['i', 'n', 'f', 'i', 'n', 'i', 't', 'y'] then
    some (Binary64.infinity negative)
  else if word = ['n', 'a', 'n'] then some .nan
  else ofMagnitude? negative cs

end QualityBands.Decimal
