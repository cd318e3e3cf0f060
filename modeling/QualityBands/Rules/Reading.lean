import QualityBands.Rules.Basic
import QualityBands.Rules.Dialect
import QualityBands.Tree.Node

/-!
Reading rules from a document.

Both dialects give the same rules. Numbers are read in a fixed order, the two percentages
first and then the counts from critical to low, and the first one that cannot be read is the
error. Everything else has a default and never fails.
-/

namespace QualityBands

/-- Rules with the dialect they were written in, and the keys of the cards left out because
their dimension counts no errors. -/
structure Reading where
  rules : Rules
  dialect : Dialect
  omitted : List String
  deriving DecidableEq

namespace Reading

/-! ### Labels -/

/-- A label without the gloss in parentheses at its end. -/
def cleanLabelChars (label : List Char) : List Char :=
  let label := Text.trimmed label
  if label.contains '(' && label.getLast? == some ')' then
    Text.trimmed (label.takeWhile (· ≠ '('))
  else label

def cleanLabel (label : String) : String := String.ofList (cleanLabelChars label.toList)

def labelOr (node : Node) (severity : Severity) : String :=
  ((node.child "label_it").text?).getD severity.defaultLabelIt

/-- The text of a field, empty where there is none. -/
def field (node : Node) (key : String) : String := ((node.child key).text?).getD ""

/-- The entries of a mapping that are mappings themselves. -/
def sections (node : Node) : List (String × Node) :=
  node.entries.filter fun (_, entry) => entry.isMapping

/-! ### Counts -/

/-- The counts of a document, given how a floor is read and what the ceiling is called. -/
def counts (thresholds : Node) (floor : Node → Severity → Except RulesError CountFloor)
    (ceiling : String) : Except RulesError CountBands := do
  let critical ← floor thresholds .critical
  let high ← floor thresholds .high
  let medium ← floor thresholds .medium
  let low := thresholds.child Severity.low.key
  let maximum ← (low.child ceiling).toCountOr Rules.defaultLowMaximum
  pure ⟨critical, high, medium, ⟨maximum, labelOr low .low⟩⟩

/-- A band above a strict bound begins at the next count. -/
def strictFloor (thresholds : Node) (severity : Severity) : Except RulesError CountFloor := do
  let node := thresholds.child severity.key
  let bound ← (node.child "value").toCount
  match bound.next? with
  | some minimum => pure ⟨minimum, labelOr node severity⟩
  | none => throw (.outOfRange (node.child "value").path bound)

def inclusiveFloor (thresholds : Node) (severity : Severity) : Except RulesError CountFloor := do
  let node := thresholds.child severity.key
  let minimum ← (node.child "min_count").toCount
  pure ⟨minimum, labelOr node severity⟩

/-! ### The complete dialect -/

def completeDimension (key : String) (node : Node) : Dimension where
  key := key
  scoreVariable := node.firstText ["variable_score", "variable", "id"]
  errorVariable := node.firstText ["variable_error", "error_variable"]
  labelIt := cleanLabel (field node "label_it")
  labelEn := field node "label_en"
  descriptionIt := field node "description_it"
  errorLabelIt := Rules.defaultErrorLabelIt

/-- The cards of the report in their order: key, label and subtitle. -/
def reportCards : List (String × String × String) :=
  [("completeness", "COMPLETENESS", "Dimensione più problematica"),
   ("accuracy", "ACCURACY", "Seconda dimensione critica"),
   ("consistency", "CONSISTENCY", "Terza dimensione critica")]

/-- The variable that counts the errors of a dimension. -/
def countVariable? (dimensions : Node) (key : String) : Option String :=
  ((dimensions.child key).child "variable_count").truthyText?

def completeCards (dimensions : Node) : List ErrorCard :=
  reportCards.filterMap fun (key, label, subtitle) =>
    (countVariable? dimensions key).map fun name => ⟨key, name, label, subtitle⟩

def omittedCards (dimensions : Node) : List String :=
  (reportCards.map (·.1)).filter fun key => (countVariable? dimensions key).isNone

def complete (document : Tree) : Except RulesError Reading := do
  let scores := (Node.root document).child "dimension_scores"
  let excellent ← (((scores.child "thresholds").child "excellent").child "value").toNumber
  let acceptable ← (((scores.child "thresholds").child "acceptable").child "value").toNumber
  let dimensions := scores.child "dimensions"
  let errors := (Node.root document).child "error_distribution"
  let counts ← counts (errors.child "thresholds") strictFloor "threshold_value"
  pure
    { rules :=
        { scores := ⟨excellent, acceptable⟩
          dimensions := (sections dimensions).map fun (key, node) => completeDimension key node
          counts := counts
          cards := completeCards dimensions
          templates := .builtin }
      dialect := .complete
      omitted := omittedCards dimensions }

/-! ### The legacy dialect -/

def legacyDimension (key : String) (node : Node) : Dimension where
  key := key
  scoreVariable := field node "variable"
  errorVariable := field node "error_variable"
  labelIt := field node "label_it"
  labelEn := field node "label_en"
  descriptionIt := field node "description_it"
  errorLabelIt := ((node.child "error_label_it").text?).getD Rules.defaultErrorLabelIt

def legacyCard (key : String) (node : Node) : ErrorCard where
  key := key
  countVariable := field node "variable"
  label := field node "label"
  subtitleIt := field node "subtitle_fallback_it"

def legacy (document : Tree) : Except RulesError Reading := do
  let root := Node.root document
  let scores := root.child "dimension_scores"
  let excellent ←
    (((scores.child "thresholds").child "excellent").child "percentage").toNumber
  let acceptable ←
    (((scores.child "thresholds").child "acceptable").child "min_percentage").toNumber
  let errors := root.child "error_distribution"
  let counts ← counts (errors.child "thresholds") inclusiveFloor "max_count"
  pure
    { rules :=
        { scores := ⟨excellent, acceptable⟩
          dimensions := (sections (scores.child "dimensions")).map fun (key, node) =>
            legacyDimension key node
          counts := counts
          cards := (sections (errors.child "dimensions")).map fun (key, node) =>
            legacyCard key node
          templates := .merged (root.child "templates").value? }
      dialect := .legacy
      omitted := [] }

end Reading

/-- Reads the rules of a document. -/
def Rules.read (document : Tree) : Except RulesError Reading :=
  if document.isMapping then
    match Dialect.detect document with
    | .complete => Reading.complete document
    | .legacy => Reading.legacy document
  else .error .notAMapping

end QualityBands
