/-!
Binary64 numbers as positions on one ladder.

The nonnegative finite numbers are numbered from zero in increasing order, and infinity
follows the greatest of them; this number is the `code` of a magnitude. A finite magnitude is a
whole number of `units`, where one unit is the least positive number, two to the power -1074.
Comparison needs the codes alone, and rounding needs the units alone.
-/

namespace QualityBands

/-- How many codes belong to one exponent. -/
def Binary64.stride : Nat := Nat.pow 2 52

/-- The code of infinity. -/
def Binary64.top : Nat := 2047 * Binary64.stride

/-- How many units make one. -/
def Binary64.one : Nat := Nat.pow 2 1074

inductive Binary64 where
  | nan
  | number (negative : Bool) (code : Fin (Binary64.top + 1))
  deriving DecidableEq

namespace Binary64

/-- The size of the magnitude with this code, in units. -/
def units (code : Nat) : Nat :=
  if code < 2 * stride then code
  else (stride + code % stride) * Nat.pow 2 (code / stride - 1)

def isFinite : Binary64 → Bool
  | nan => false
  | number _ code => code.val < top

def isZero : Binary64 → Bool
  | nan => false
  | number _ code => code.val = 0

def infinity (negative : Bool) : Binary64 := number negative ⟨top, Nat.lt_succ_self top⟩

/-- The number without its sign. -/
def magnitude : Binary64 → Binary64
  | nan => nan
  | number _ code => number false code

/-! ### Comparison -/

/-- The place of a number on the ladder that has both zeros in its middle. -/
def rank : Binary64 → Option Int
  | nan => none
  | number negative code => some (if negative then -(code.val : Int) else code.val)

/-- Strictly less; nothing is less than NaN and NaN is less than nothing. -/
def less (x y : Binary64) : Bool :=
  match x.rank, y.rank with
  | some a, some b => a < b
  | _, _ => false

/-! ### Words -/

/-- The word of negative zero. -/
def signBit : Nat := Nat.pow 2 63

/-- The number that a word of 64 bits stands for. -/
def ofWord (word : Nat) : Binary64 :=
  let code := word % signBit
  if h : code < top + 1 then number (signBit ≤ word) ⟨code, h⟩ else nan

/-- The word of a number other than NaN. -/
def word? : Binary64 → Option Nat
  | nan => none
  | number negative code => some ((if negative then signBit else 0) + code.val)

/-! ### Rounding -/

/-- The whole number nearest to `num / den`, the even one of two. -/
def nearestWhole (num den : Nat) : Nat :=
  let low := num / den
  let twice := 2 * (num % den)
  if twice < den then low
  else if den < twice then low + 1
  else low + low % 2

/-- The code nearest to `num / den` units, the even one of two, and infinity beyond the last. -/
def nearestCode (num den : Nat) : Nat :=
  let shift := Nat.log2 (num / den) - 52
  min top (shift * stride + nearestWhole num (den * Nat.pow 2 shift))

/-- The number nearest to `num / den`. -/
def ofRatio (negative : Bool) (num den : Nat) : Binary64 :=
  number negative ⟨nearestCode (num * one) den, Nat.lt_succ_of_le (Nat.min_le_left _ _)⟩

def ofInt (n : Int) : Binary64 := ofRatio (n < 0) n.natAbs 1

/-! ### Whole parts -/

/-- The magnitude without its fraction. -/
def wholePart (code : Nat) : Nat := units code / one

/-- A finite number without its fraction. -/
def truncate? : Binary64 → Option Int
  | nan => none
  | number negative code =>
    if code.val < top then
      some (if negative then -(wholePart code : Int) else wholePart code)
    else none

/-- Whether a magnitude has no fraction. -/
def isWhole (code : Nat) : Bool := units code % one = 0

end Binary64

end QualityBands
