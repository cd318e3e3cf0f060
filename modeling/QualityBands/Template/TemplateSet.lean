import QualityBands.Outline
import QualityBands.Template.Builtin

/-!
The templates that rules are rendered with.

Two templates are always there; any others are kept beside them, sorted by name.
-/

namespace QualityBands

structure TemplateSet where
  dimensionScore : String
  errorCard : String
  extra : List (String × String)
  deriving DecidableEq

namespace TemplateSet

def dimensionScoreName : String := "dimension_score_html"

def errorCardName : String := "error_distribution_card_html"

def builtin : TemplateSet := ⟨Template.builtinDimensionScore, Template.builtinErrorCard, []⟩

/-- Puts a text under a name into a list sorted by name. -/
def put (name text : String) : List (String × String) → List (String × String)
  | [] => [(name, text)]
  | (n, t) :: rest =>
    if name < n then (name, text) :: (n, t) :: rest
    else if name = n then (n, text) :: rest
    else (n, t) :: put name text rest

def insert (set : TemplateSet) (name text : String) : TemplateSet :=
  if name = dimensionScoreName then { set with dimensionScore := text }
  else if name = errorCardName then { set with errorCard := text }
  else { set with extra := put name text set.extra }

def get? (set : TemplateSet) (name : String) : Option String :=
  if name = dimensionScoreName then some set.dimensionScore
  else if name = errorCardName then some set.errorCard
  else set.extra.lookup name

/-- All names and texts, the two required ones first. -/
def toList (set : TemplateSet) : List (String × String) :=
  (dimensionScoreName, set.dimensionScore) :: (errorCardName, set.errorCard) :: set.extra

/-- The entries of a mapping that have a text as key and a text as value, tags on both aside. -/
def textEntries (overrides : Tree) : List (String × String) :=
  (overrides.entries?.getD []).filterMap fun (key, value) => do
    let name ← key.taggedText?
    let text ← value.taggedText?
    pure (name, text)

/-- The built-in templates with every text entry of `overrides` inserted. -/
def merged (overrides : Option Tree) : TemplateSet :=
  ((overrides.map textEntries).getD []).foldl (fun set (name, text) => set.insert name text)
    builtin

def outline (set : TemplateSet) : Outline :=
  .fields (set.toList.map fun (name, text) => (name, .text text))

end TemplateSet

end QualityBands
