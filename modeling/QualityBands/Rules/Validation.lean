import QualityBands.Report
import QualityBands.Rules.Percentage

/-!
Whether every band of a set of rules can be reached.
-/

namespace QualityBands

inductive BandError where
  | scores (excellent acceptable : Binary64)
  | counts (critical high medium : Count)
  deriving DecidableEq

namespace BandError

def report : BandError → Report
  | scores excellent acceptable =>
    { message := "Invalid dimension score thresholds: excellent (" ++ percentage excellent ++
        ") must be > acceptable.min (" ++ percentage acceptable ++ ")."
      code := some "color_rules::validation::score_thresholds"
      help := some "Scores at or above `excellent` are green, at or above `acceptable` amber" }
  | counts critical high medium =>
    { message := "Invalid error count ordering: critical.min (" ++ critical.text ++
        ") > high.min (" ++ high.text ++ ") > medium.min (" ++ medium.text ++
        ") > 0 expected."
      code := some "color_rules::validation::error_count_ordering"
      help := some "Error thresholds must strictly decrease from critical to medium" }

end BandError

/-- The percentages must decrease strictly, which NaN never does. -/
def ScoreBands.validate (bands : ScoreBands) : Except BandError Unit :=
  if bands.acceptable.less bands.excellent then .ok ()
  else .error (.scores bands.excellent bands.acceptable)

/-- The counts must decrease strictly and stay positive. -/
def CountBands.validate (bands : CountBands) : Except BandError Unit :=
  let critical := bands.critical.minimum
  let high := bands.high.minimum
  let medium := bands.medium.minimum
  if high.val < critical.val ∧ medium.val < high.val ∧ 0 < medium.val then .ok ()
  else .error (.counts critical high medium)

/-- Checks the scores first and then the counts. -/
def Rules.validate (rules : Rules) : Except BandError Unit := do
  rules.scores.validate
  rules.counts.validate

end QualityBands
