import QualityBands.Count
import QualityBands.Source.Fault

/-!
Why a rules document cannot be used.
-/

namespace QualityBands

inductive RulesError where
  | notFound (path : String)
  | unreadable (path cause : String)
  | malformed (fault : Source.Fault)
  | notAMapping
  | invalidNumber (path found : String)
  | invalidInteger (path found : String)
  | outOfRange (path : String) (value : Count)
  | missingTemplate (name : String)
  deriving DecidableEq

namespace RulesError

def report : RulesError → Report
  | notFound path =>
    { message := "Config not found: " ++ path
      code := some "color_rules::config::not_found" }
  | unreadable path cause =>
    { message := "Failed to read " ++ path ++ ": " ++ cause
      code := some "color_rules::config::io" }
  | malformed fault => fault.report
  | notAMapping =>
    { message := "Invalid YAML: expected top-level mapping"
      code := some "color_rules::config::not_a_mapping"
      help := some ("A rules file starts with keys such as `dimension_scores:` and " ++
        "`error_distribution:`") }
  | invalidNumber path found =>
    { message := "Invalid numeric value at " ++ path ++ ": " ++ found
      code := some "color_rules::config::invalid_number"
      help := some "Thresholds must be plain numbers, e.g. `value: 90`" }
  | invalidInteger path found =>
    { message := "Invalid integer value at " ++ path ++ ": " ++ found
      code := some "color_rules::config::invalid_integer"
      help := some "Error count thresholds must be whole numbers, e.g. `value: 10`" }
  | outOfRange path value =>
    { message := "Integer value at " ++ path ++ " is out of range: " ++ value.text
      code := some "color_rules::config::out_of_range" }
  | missingTemplate name =>
    { message := "Missing template: " ++ name
      code := some "color_rules::config::missing_template"
      help := some "Built-in templates live in the crate's templates/ directory" }

end RulesError

end QualityBands
