/-!
Replacing every occurrence of a pattern.

Occurrences are found from left to right and do not overlap: after a hit the search goes on
behind it, and the replacement is never searched.
-/

namespace QualityBands.Text

/-- Replaces in the text that is left after passing over its first `skip` characters. -/
def replaceFrom (pattern value : List Char) : Nat → List Char → List Char
  | _, [] => []
  | skip + 1, _ :: rest => replaceFrom pattern value skip rest
  | 0, c :: rest =>
    if pattern.isPrefixOf (c :: rest) then
      value ++ replaceFrom pattern value (pattern.length - 1) rest
    else
      c :: replaceFrom pattern value 0 rest

def replaced (pattern value text : List Char) : List Char := replaceFrom pattern value 0 text

/-- `text` with every occurrence of `pattern` replaced by `value`; a pattern is never empty. -/
def replace (pattern value text : String) : String :=
  String.ofList (replaced pattern.toList value.toList text.toList)

@[simp] theorem toList_replace (pattern value text : String) :
    (replace pattern value text).toList = replaced pattern.toList value.toList text.toList :=
  String.toList_ofList

theorem replaceFrom_eq_drop (pattern value : List Char) (skip : Nat) (text : List Char) :
    replaceFrom pattern value skip text = replaced pattern value (text.drop skip) := by
  induction text generalizing skip with
  | nil => simp [replaced, replaceFrom]
  | cons c rest ih =>
    cases skip with
    | zero => rfl
    | succ skip => simpa [replaceFrom] using ih skip

end QualityBands.Text
