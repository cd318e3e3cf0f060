import QualityBands.Rules.Basic

/-!
Rules as a document of the legacy dialect.
-/

namespace QualityBands

def ScoreBands.outline (bands : ScoreBands) : Outline :=
  .fields
    [("excellent", .fields [("percentage", .number (.float bands.excellent))]),
     ("acceptable", .fields [("min_percentage", .number (.float bands.acceptable))])]

def Dimension.outline (dimension : Dimension) : Outline :=
  .fields
    [("variable", .text dimension.scoreVariable),
     ("error_variable", .text dimension.errorVariable),
     ("label_it", .text dimension.labelIt),
     ("label_en", .text dimension.labelEn),
     ("description_it", .text dimension.descriptionIt),
     ("error_label_it", .text dimension.errorLabelIt)]

def CountFloor.outline (floor : CountFloor) : Outline :=
  .fields
    [("min_count", .number (.integer floor.minimum.val)), ("label_it", .text floor.labelIt)]

def CountCeiling.outline (ceiling : CountCeiling) : Outline :=
  .fields
    [("max_count", .number (.integer ceiling.maximum.val)), ("label_it", .text ceiling.labelIt)]

def CountBands.outline (bands : CountBands) : Outline :=
  .fields
    [(Severity.critical.key, bands.critical.outline),
     (Severity.high.key, bands.high.outline),
     (Severity.medium.key, bands.medium.outline),
     (Severity.low.key, bands.low.outline)]

def ErrorCard.outline (card : ErrorCard) : Outline :=
  .fields
    [("variable", .text card.countVariable),
     ("label", .text card.label),
     ("subtitle_fallback_it", .text card.subtitleIt)]

def Rules.outline (rules : Rules) : Outline :=
  .fields
    [("dimension_scores", .fields
       [("thresholds", rules.scores.outline),
        ("dimensions", .fields (rules.dimensions.map fun d => (d.key, d.outline)))]),
     ("error_distribution", .fields
       [("thresholds", rules.counts.outline),
        ("dimensions", .fields (rules.cards.map fun c => (c.key, c.outline)))]),
     ("templates", rules.templates.outline)]

end QualityBands
