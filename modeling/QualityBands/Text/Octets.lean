/-!
Texts as octets.

Octets that are put together one by one need not be the octets of a text.
-/

namespace QualityBands.Text

abbrev Octets := List UInt8

namespace Octets

def ofString (s : String) : Octets := s.toUTF8.data.toList

/-- The text with these octets in UTF-8, if there is one. -/
def text? (octets : Octets) : Option String := String.fromUTF8? ⟨octets.toArray⟩

theorem text?_ofString (s : String) : text? (ofString s) = some s := by
  simpa [text?, ofString, String.fromUTF8?, String.fromUTF8] using s.isValidUTF8

end Octets

end QualityBands.Text
