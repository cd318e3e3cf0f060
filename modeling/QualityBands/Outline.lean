import QualityBands.Tree.Same

/-!
What is printed: texts, numbers, and mappings with texts as keys.

An outline may give a key twice, and is then printed with both entries. As a tree it has the
key once, at the place of the first entry and with the value of the last.
-/

namespace QualityBands

inductive Outline where
  | text (value : String)
  | number (value : Number)
  | fields (entries : List (String × Outline))

namespace Outline

mutual

def toTree : Outline → Tree
  | text s => .text s
  | number n => .number n
  | fields entries => .ofEntries (toEntries entries)

/-- The entries as they are printed, one after another. -/
def toEntries : List (String × Outline) → List (Tree × Tree)
  | [] => []
  | (key, value) :: rest => (.text key, value.toTree) :: toEntries rest

end

end Outline

end QualityBands
