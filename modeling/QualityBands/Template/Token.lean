import QualityBands.Text.Replace

/-!
Tokens in templates.

A token is a name between two pairs of at signs. Rendering replaces the tokens of one name
after another, the longest names first and names of equal length in the order given. Tokens
without a replacement stay as they are.
-/

namespace QualityBands.Template

def delimiter : String := "@@"

def token (name : String) : String := delimiter ++ name ++ delimiter

/-- Replacements with the longest names first, counted in bytes. -/
def longestFirst (replacements : List (String × String)) : List (String × String) :=
  replacements.mergeSort fun a b => b.1.utf8ByteSize ≤ a.1.utf8ByteSize

def fill (text : String) (replacements : List (String × String)) : String :=
  (longestFirst replacements).foldl
    (fun text (name, value) => Text.replace (token name) value text) text

end QualityBands.Template
