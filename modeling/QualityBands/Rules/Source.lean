import QualityBands.Rules.Error
import QualityBands.Yaml.Reading

/-!
Rules documents as text.
-/

namespace QualityBands.Rules

/-- The document of a text, which has to be a mapping. -/
def parse (source : String) : Except RulesError Tree :=
  match Yaml.read source with
  | .error e => .error (.malformed (e.fault source))
  | .ok document => if document.isMapping then .ok document else .error .notAMapping

end QualityBands.Rules
