import QualityBands.Text.Octets
import QualityBands.Yaml.Error

/-!
Tokens of YAML text.
-/

namespace QualityBands.Yaml

open Text (Octets)

inductive Token.Kind where
  | streamStart
  | streamEnd
  | versionDirective (major minor : Nat)
  | tagDirective (handle : String) (base : Octets)
  | documentStart
  | documentEnd
  | blockSequenceStart
  | blockMappingStart
  | blockEnd
  | flowSequenceStart
  | flowSequenceEnd
  | flowMappingStart
  | flowMappingEnd
  | blockEntry
  | flowEntry
  | key
  | value
  | aliasOf (name : String)
  | anchor (name : String)
  | tag (handle : String) (suffix : Octets)
  | scalar (text : String) (plain : Bool)
  deriving DecidableEq

/-- A token from its first mark to the mark behind it. -/
structure Token where
  kind : Token.Kind
  start : Mark
  stop : Mark
  deriving DecidableEq

/-- Fails at a mark, while something that began at another mark was being read. -/
def fail (activity : Activity) (began : Mark) (problem : Problem) (mark : Mark) :
    Except Error α :=
  .error (.malformed problem mark (some (activity, began)))

end QualityBands.Yaml
