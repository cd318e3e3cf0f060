import QualityBands.Tree.Basic

/-!
The two layouts of a rules document.
-/

namespace QualityBands

inductive Dialect where
  /-- Error bands begin above a strict bound, and sections can be enabled. -/
  | complete
  /-- Error bands begin at an inclusive bound, and templates can be overridden. -/
  | legacy
  deriving DecidableEq

namespace Dialect

def name : Dialect → String
  | complete => "complete"
  | legacy => "legacy"

/-- Whether a document has a mapping under a key. -/
def hasSection (document : Tree) (key : String) : Bool :=
  (document.get? key).any Tree.isMapping

/-- A document is complete when it has all three sections and says whether scores are enabled,
whatever it says; every other document is legacy. -/
def detect (document : Tree) : Dialect :=
  if hasSection document "global" && hasSection document "dimension_scores" &&
      hasSection document "error_distribution" &&
      ((document.get? "dimension_scores").bind (·.get? "enabled")).isSome then
    complete
  else legacy

end Dialect

end QualityBands
