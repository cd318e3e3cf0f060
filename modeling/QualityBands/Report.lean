/-!
What a failure tells its reader: a message, a code to look it up by, a hint, and for a fault in
a source text the bytes it concerns.
-/

namespace QualityBands

structure Report where
  message : String
  code : Option String := none
  help : Option String := none
  /-- The first byte and the number of bytes. -/
  span : Option (Nat × Nat) := none
  deriving DecidableEq

end QualityBands
