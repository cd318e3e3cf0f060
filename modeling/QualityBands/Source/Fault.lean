import QualityBands.Report
import QualityBands.Source.Location
import QualityBands.Text.Caseless

/-!
A fault in a source text: what is wrong and at which byte.

The hint is chosen by what the message mentions, the first matching kind of mistake winning.
-/

namespace QualityBands.Source

structure Fault where
  message : String
  offset : Nat
  deriving DecidableEq

namespace Fault

/-- The fault with this message at a line and column of the source. -/
def locate (source message : String) (line column : Nat) : Fault :=
  ⟨message, offsetOf source line column⟩

/-- The mistakes that authors of rules make most often: the words of a message that point to
one, and what to do about it. -/
def hints : List (List String × String) :=
  [(["tab"],
    "YAML requires spaces for indentation, not tabs. Replace tabs with spaces."),
   (["duplicate"],
    "Each dimension and threshold key can only appear once in its section."),
   (["expected block end", "did not find expected key"],
    "Check your indentation - it may be inconsistent."),
   (["mapping values are not allowed"],
    "You may be missing a space after ':' or have incorrect indentation."),
   (["found character that cannot start any token"],
    "Labels starting with '@', '`' or '%' must be quoted: label_it: \"@value\"")]

def hint? (message : String) : Option String :=
  (hints.find? fun (words, _) => words.any (Text.mentions message)).map (·.2)

def report (fault : Fault) : Report where
  message := "YAML syntax error: " ++ fault.message
  code := some "color_rules::yaml::syntax"
  help := hint? fault.message
  span := some (fault.offset, 1)

end Fault

end QualityBands.Source
