import QualityBands.Rules.Basic

/-!
Percentages as authors of reports write them: `90.0`, `85.5`, and never with an exponent.
-/

namespace QualityBands

def percentageLayout : Layout where
  tie := .upward
  positional := none
  plusSign := false
  nan := "NaN"
  infinity := "inf"
  negativeInfinity := "-inf"

def percentage (x : Binary64) : String := percentageLayout.write x

end QualityBands
