/-!
Lower case, as far as ASCII letters come out of it.

Searching a lower-cased text for an ASCII word sees only those characters whose lower-case
form holds an ASCII letter: the capitals A to Z, the Kelvin sign and the dotted capital I. All
other characters are left as they are.
-/

namespace QualityBands.Text

def lowered (c : Char) : List Char :=
  if c = '\u212a' then ['k']
  else if c = '\u0130' then ['i', '\u0307']
  else [c.toLower]

/-- Whether `word`, in lower-case ASCII letters, occurs in the lower-cased text. -/
def mentions (text word : String) : Bool :=
  go (text.toList.flatMap lowered)
where
  go : List Char → Bool
    | [] => word.toList.isEmpty
    | c :: rest => word.toList.isPrefixOf (c :: rest) || go rest

end QualityBands.Text
