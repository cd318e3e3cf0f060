import QualityBands.Binary64

/-!
The shortest decimal that reads back as a given number.

A decimal reads back as a magnitude when it lies in the interval between the midpoints to its
two neighbours, the midpoints included when the code is even. For one digit, two digits and so
on the two decimals of that length next to the magnitude are tried; the first length with a hit
wins, and of two hits the nearer. Seventeen digits always suffice.
-/

namespace QualityBands

/-- A positive decimal, `digits` times ten to the power `exponent`. -/
structure Decimal where
  digits : Nat
  exponent : Int
  deriving DecidableEq

namespace Decimal

/-- Which of two equally near decimals is taken. -/
inductive Tie where
  | toEven
  | upward
  deriving DecidableEq

/-- How many decimal digits a whole number has. -/
def length (n : Nat) : Nat := (Nat.toDigits 10 n).length

/-- The same number without zeros at the end of its digits. -/
def strip (d : Decimal) : Decimal :=
  go d.digits d.digits d.exponent
where
  go : Nat → Nat → Int → Decimal
    | 0, digits, exponent => ⟨digits, exponent⟩
    | fuel + 1, digits, exponent =>
      if digits ≠ 0 ∧ digits % 10 = 0 then go fuel (digits / 10) (exponent + 1)
      else ⟨digits, exponent⟩

/-! ### The interval of a magnitude -/

/-- Multiplies a count of `10 ^ exponent` and a count of half units so that both compare. -/
def compareScale (exponent : Int) : Nat × Nat :=
  if 0 ≤ exponent then (Nat.pow 10 exponent.toNat * (2 * Binary64.one), 1)
  else (2 * Binary64.one, Nat.pow 10 (-exponent).toNat)

/-- Whether a decimal lies in the interval that reads back as the magnitude. -/
def readsBack (code : Nat) (d : Decimal) : Bool :=
  let (p, q) := compareScale d.exponent
  let here := d.digits * p
  let low := (Binary64.units (code - 1) + Binary64.units code) * q
  let high := (Binary64.units code + Binary64.units (code + 1)) * q
  if code % 2 = 0 then low ≤ here && here ≤ high else low < here && here < high

/-- The exponent `e` with `10 ^ (e - 1) ≤ magnitude < 10 ^ e`, for a positive magnitude. -/
def magnitudeExponent (code : Nat) : Int :=
  let size := Binary64.units code
  if Binary64.one ≤ size then length (size / Binary64.one)
  else 1 - (length ((Binary64.one + size - 1) / size - 1) : Int)

/-! ### The search -/

/-- The best decimal with the given exponent, if one of the two candidates reads back. -/
def onGrid? (tie : Tie) (code : Nat) (exponent : Int) : Option Decimal :=
  let (p, q) := compareScale exponent
  let size := 2 * Binary64.units code * q
  let low : Decimal := ⟨size / p, exponent⟩
  let high : Decimal := ⟨size / p + 1, exponent⟩
  match readsBack code low, readsBack code high with
  | false, false => none
  | true, false => some low
  | false, true => some high
  | true, true =>
    let below := size % p
    if 2 * below < p then some low
    else if p < 2 * below then some high
    else match tie with
      | .toEven => some (if low.digits % 2 = 0 then low else high)
      | .upward => some high

/-- Tries the lengths from `17 - fuel` digits on. -/
def search (tie : Tie) (code : Nat) : Nat → Option Decimal
  | 0 => none
  | fuel + 1 =>
    match onGrid? tie code (magnitudeExponent code - (17 - fuel : Nat)) with
    | some d => some d
    | none => search tie code fuel

/-- Every digit of a magnitude. -/
def exact (code : Nat) : Decimal := ⟨Binary64.units code * Nat.pow 5 1074, -1074⟩

/-- The shortest decimal that reads back as the positive finite magnitude. -/
def shortest (tie : Tie) (code : Nat) : Decimal :=
  ((search tie code 17).getD (exact code)).strip

end Decimal

end QualityBands
