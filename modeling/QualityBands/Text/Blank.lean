/-!
White space and trimming.

`isBlank` is the Unicode property White_Space. Trimming removes blanks at both ends of a
text and nothing between.
-/

namespace QualityBands.Text

/-- The characters with the property White_Space, as closed ranges of scalar values. -/
def blankRanges : List (Nat × Nat) :=
  [(0x09, 0x0d), (0x20, 0x20), (0x85, 0x85), (0xa0, 0xa0), (0x1680, 0x1680),
   (0x2000, 0x200a), (0x2028, 0x2029), (0x202f, 0x202f), (0x205f, 0x205f), (0x3000, 0x3000)]

def isBlank (c : Char) : Bool :=
  blankRanges.any fun (low, high) => low ≤ c.toNat && c.toNat ≤ high

/-! ### Trimming a list of characters -/

def trimStart (cs : List Char) : List Char := cs.dropWhile isBlank

def trimEnd (cs : List Char) : List Char := (cs.reverse.dropWhile isBlank).reverse

def trimmed (cs : List Char) : List Char := trimEnd (trimStart cs)

/-- The text without the blanks at its two ends. -/
def trim (s : String) : String := String.ofList (trimmed s.toList)

@[simp] theorem toList_trim (s : String) : (trim s).toList = trimmed s.toList :=
  String.toList_ofList

end QualityBands.Text
