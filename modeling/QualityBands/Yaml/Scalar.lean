import QualityBands.Decimal.Reading
import QualityBands.Tree.Basic

/-!
What a plain scalar stands for.

Null and the truth values have fixed spellings. Whole numbers are decimal, or hexadecimal,
octal or binary behind `0x`, `0o` and `0b`; digits with a zero in front are no number. Other
numbers are read as decimals when they are finite, and infinities and NaN have spellings of
their own. Everything else is a text.
-/

namespace QualityBands.Yaml

/-- The meaning of a plain scalar. -/
inductive Meaning where
  | null
  | bool (value : Bool)
  | integer (value : Int)
  /-- A whole number that no tree can hold, but that a wider word still can. -/
  | oversized (value : Int)
  | float (value : Binary64)
  | text
  deriving DecidableEq

namespace Meaning

def isNullWord (s : String) : Bool := s ∈ ["null", "Null", "NULL", "~"]

def bool? (s : String) : Option Bool :=
  if s ∈ ["true", "True", "TRUE"] then some true
  else if s ∈ ["false", "False", "FALSE"] then some false
  else none

/-! ### Whole numbers -/

/-- The value of a digit below the radix. -/
def digit? (radix : Nat) (c : Char) : Option Nat :=
  let value :=
    if c.isDigit then c.toNat - '0'.toNat
    else if 'a' ≤ c ∧ c ≤ 'z' then c.toNat - 'a'.toNat + 10
    else if 'A' ≤ c ∧ c ≤ 'Z' then c.toNat - 'A'.toNat + 10
    else radix
  if value < radix then some value else none

/-- The number written by one or more digits. -/
def digits? (radix : Nat) (cs : List Char) : Option Nat :=
  if cs.isEmpty then none
  else cs.foldlM (fun n c => (digit? radix c).map (radix * n + ·)) 0

/-- The number written behind a mark of its radix. -/
def marked? : List Char → Option Nat
  | '0' :: 'x' :: rest => digits? 16 rest
  | '0' :: 'o' :: rest => digits? 8 rest
  | '0' :: 'b' :: rest => digits? 2 rest
  | _ => none

/-- Several digits of which the first is a zero. -/
def hasLeadingZero (cs : List Char) : Bool :=
  1 < cs.length && cs.head? = some '0' && cs.all Char.isDigit

def natural? (cs : List Char) : Option Nat :=
  match marked? cs with
  | some n => some n
  | none => if hasLeadingZero cs then none else digits? 10 cs

/-- The whole number of a scalar, however great. -/
def whole? : List Char → Option Int
  | '+' :: cs => (natural? cs).map Int.ofNat
  | '-' :: cs => (natural? cs).map fun n => -(n : Int)
  | cs => (natural? cs).map Int.ofNat

/-- How many values words of so many bits have. -/
def wordCount (bits : Nat) : Int := Nat.pow 2 bits

/-- Sorts a whole number by the words that can hold it. -/
def ofWhole? (n : Int) : Option Meaning :=
  if -wordCount 63 ≤ n ∧ n < wordCount 64 then some (integer n)
  else if -wordCount 127 ≤ n ∧ n < wordCount 128 then some (oversized n)
  else none

/-- The whole number of a scalar as a meaning. -/
def integer? (s : String) : Option Meaning := (whole? s.toList).bind ofWhole?

/-! ### Other numbers -/

def float? (s : String) : Option Binary64 :=
  let signed := s.toList.head? = some '+' ∧
    (s.toList[1]? = some '+' ∨ s.toList[1]? = some '-')
  if s ∈ [".inf", ".Inf", ".INF", "+.inf", "+.Inf", "+.INF"] then some (.infinity false)
  else if s ∈ ["-.inf", "-.Inf", "-.INF"] then some (.infinity true)
  else if s ∈ [".nan", ".NaN", ".NAN"] then some .nan
  else if signed then none
  else (Decimal.number? s).filter Binary64.isFinite

/-! ### Plain scalars -/

def unsigned : List Char → List Char
  | '+' :: cs => cs
  | '-' :: cs => cs
  | cs => cs

def ofPlain (s : String) : Meaning :=
  if s.isEmpty || isNullWord s then null
  else match bool? s with
    | some b => bool b
    | none => match integer? s with
      | some meaning => meaning
      | none =>
        if hasLeadingZero (unsigned s.toList) then text
        else (float? s).elim text float

end Meaning

end QualityBands.Yaml
