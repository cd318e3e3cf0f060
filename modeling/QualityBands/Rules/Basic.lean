import QualityBands.Count
import QualityBands.Template.TemplateSet

/-!
Quality rules.

Scores fall into three bands by two percentages, error counts into four by three counts. Each
dimension has a block of its own in the report, and some dimensions a card for their errors.
-/

namespace QualityBands

/-- Scores from `excellent` on are green, other scores from `acceptable` on amber, and the rest
red. -/
structure ScoreBands where
  excellent : Binary64
  acceptable : Binary64
  deriving DecidableEq

structure Dimension where
  key : String
  /-- The report's variable for the score. -/
  scoreVariable : String
  /-- The report's variable for the error count. -/
  errorVariable : String
  labelIt : String
  labelEn : String
  descriptionIt : String
  errorLabelIt : String
  deriving DecidableEq

inductive Severity where
  | critical
  | high
  | medium
  | low
  deriving DecidableEq

namespace Severity

def all : List Severity := [critical, high, medium, low]

def key : Severity → String
  | critical => "critical"
  | high => "high"
  | medium => "medium"
  | low => "low"

def defaultLabelIt : Severity → String
  | critical => "Situazione critica!"
  | high => "Richiede attenzione"
  | medium => "Errori moderati"
  | low => "Errori minimi"

end Severity

/-- A band that begins at a count. -/
structure CountFloor where
  minimum : Count
  labelIt : String
  deriving DecidableEq

/-- The band of the least counts. -/
structure CountCeiling where
  maximum : Count
  labelIt : String
  deriving DecidableEq

structure CountBands where
  critical : CountFloor
  high : CountFloor
  medium : CountFloor
  low : CountCeiling
  deriving DecidableEq

def CountBands.labelIt (bands : CountBands) : Severity → String
  | .critical => bands.critical.labelIt
  | .high => bands.high.labelIt
  | .medium => bands.medium.labelIt
  | .low => bands.low.labelIt

structure ErrorCard where
  key : String
  /-- The report's variable for the error count of the dimension. -/
  countVariable : String
  label : String
  subtitleIt : String
  deriving DecidableEq

structure Rules where
  scores : ScoreBands
  dimensions : List Dimension
  counts : CountBands
  cards : List ErrorCard
  templates : TemplateSet
  deriving DecidableEq

namespace Rules

def defaultErrorLabelIt : String := "ERRORI"

/-- The greatest count of the lowest band when none is given. -/
def defaultLowMaximum : Count := ⟨10, by decide, by decide⟩

/-- The first dimension with a key. -/
def dimension? (rules : Rules) (key : String) : Option Dimension :=
  rules.dimensions.find? (·.key = key)

/-- The first card with a key. -/
def card? (rules : Rules) (key : String) : Option ErrorCard :=
  rules.cards.find? (·.key = key)

end Rules

end QualityBands
