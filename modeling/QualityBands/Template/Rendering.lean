import QualityBands.Rules.Percentage
import QualityBands.Template.Token

/-!
Filling the templates from rules.

Each kind of template has a fixed list of tokens. Templates compare counts by a strict "greater
than", so a band that begins at a count is shown by the count before it.
-/

namespace QualityBands

/-! ### Dimensions -/

namespace Dimension

def tokens : List String :=
  ["DIMENSION_NAME", "LABEL_IT", "LABEL_EN", "DESCRIPTION_IT", "ERROR_LABEL_IT", "VAR",
   "ERROR_VAR", "THRESH_EXCELLENT", "THRESH_ACCEPTABLE"]

/-- What the tokens of a dimension stand for, in their order. -/
def tokenValues (dimension : Dimension) (bands : ScoreBands) : List String :=
  [dimension.labelEn, dimension.labelIt, dimension.labelEn, dimension.descriptionIt,
   dimension.errorLabelIt, dimension.scoreVariable, dimension.errorVariable,
   percentage bands.excellent, percentage bands.acceptable]

def render (dimension : Dimension) (bands : ScoreBands) (template : String) : String :=
  Template.fill template (tokens.zip (dimension.tokenValues bands))

end Dimension

/-! ### Error cards -/

/-- The count above which a band begins. -/
def CountFloor.bound (floor : CountFloor) : Count := floor.minimum.previous

namespace ErrorCard

def tokens : List String :=
  ["DIMENSION_NAME", "DIMENSION_LABEL", "SUBTITLE_FALLBACK_IT", "ERROR_VAR",
   "THRESH_CRITICAL", "THRESH_HIGH", "THRESH_MEDIUM",
   "LABEL_CRITICAL_IT", "LABEL_HIGH_IT", "LABEL_MEDIUM_IT", "LABEL_LOW_IT"]

/-- What the tokens of a card stand for, in their order. -/
def tokenValues (card : ErrorCard) (bands : CountBands) : List String :=
  [card.label, card.label, card.subtitleIt, card.countVariable,
   bands.critical.bound.text, bands.high.bound.text, bands.medium.bound.text] ++
    Severity.all.map bands.labelIt

def render (card : ErrorCard) (bands : CountBands) (template : String) : String :=
  Template.fill template (tokens.zip (card.tokenValues bands))

end ErrorCard

end QualityBands
