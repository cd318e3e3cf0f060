import QualityBands.Decimal.Shortest

/-!
Writing a number in decimal.

The digits are those of the shortest decimal that reads back. A `Layout` says how they are set
out: where positional notation ends and exponents begin, and what stands for the numbers that
have no digits. In positional notation there is a digit before every point; a whole number below
ten to the power 16 ends in `.0`.
-/

namespace QualityBands

structure Layout where
  tie : Decimal.Tie
  /-- The positions of the point for which no exponent is written; `none` stands for all. -/
  positional : Option (Int × Int)
  /-- Whether a positive exponent has a plus sign. -/
  plusSign : Bool
  nan : String
  infinity : String
  negativeInfinity : String

namespace Layout

/-- The last position of the point at which a whole number is marked by `.0`. -/
def lastMarked : Int := 16

def zeros (n : Nat) : List Char := List.replicate n '0'

/-- Digits with the point behind the first `point` of them, filled up by zeros. -/
def placed (digits : List Char) (point : Int) : List Char :=
  if point ≤ 0 then ['0', '.'] ++ zeros (-point).toNat ++ digits
  else if point < digits.length then
    digits.take point.toNat ++ ['.'] ++ digits.drop point.toNat
  else
    digits ++ zeros (point - digits.length).toNat ++
      (if point ≤ lastMarked then ['.', '0'] else [])

def integer (n : Int) : List Char :=
  if n < 0 then '-' :: Nat.toDigits 10 n.natAbs else Nat.toDigits 10 n.natAbs

/-- Digits with the point behind the first one, and the power of ten that makes up for it. -/
def scientific (plusSign : Bool) (digits : List Char) (point : Int) : List Char :=
  let fraction := digits.drop 1
  digits.take 1 ++ (if fraction.isEmpty then [] else '.' :: fraction) ++ ['e'] ++
    (if plusSign ∧ 0 < point - 1 then ['+'] else []) ++ integer (point - 1)

def decimal (layout : Layout) (d : Decimal) : List Char :=
  let digits := Nat.toDigits 10 d.digits
  let point := digits.length + d.exponent
  match layout.positional with
  | none => placed digits point
  | some (first, last) =>
    if first ≤ point ∧ point ≤ last then placed digits point
    else scientific layout.plusSign digits point

/-- The text of a number. -/
def write (layout : Layout) : Binary64 → String
  | .nan => layout.nan
  | .number negative code =>
    if code.val = Binary64.top then
      if negative then layout.negativeInfinity else layout.infinity
    else
      let d := if code.val = 0 then ⟨0, 0⟩ else Decimal.shortest layout.tie code
      String.ofList ((if negative then ['-'] else []) ++ layout.decimal d)

end Layout

end QualityBands
