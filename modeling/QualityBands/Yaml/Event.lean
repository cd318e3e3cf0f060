import QualityBands.Yaml.Token

/-!
What happens in a YAML document, from its first node to its last.
-/

namespace QualityBands.Yaml

open Text (Octets)

/-- The name and the tag in front of a node. -/
structure Properties where
  anchor : Option String
  tag : Option Octets
  deriving DecidableEq

inductive Event.Kind where
  | aliasOf (name : String)
  | scalar (properties : Properties) (text : String) (plain : Bool)
  | sequenceStart (properties : Properties)
  | sequenceEnd
  | mappingStart (properties : Properties)
  | mappingEnd
  deriving DecidableEq

structure Event where
  kind : Event.Kind
  mark : Mark
  deriving DecidableEq

/-- The first document of a text, as far as it can be read. -/
structure Document where
  events : List Event
  /-- What ended the document early. -/
  error : Option Error
  /-- Whether anything follows the document. -/
  followed : Bool

end QualityBands.Yaml
