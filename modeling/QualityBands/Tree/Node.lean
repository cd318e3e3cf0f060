import QualityBands.Decimal.Reading
import QualityBands.Rules.Error
import QualityBands.Text.Blank
import QualityBands.Text.Quoted
import QualityBands.Tree.Basic

/-!
Places in a document.

A node is a place that a walk from the root has reached, whether or not the document has a
value there, with the dotted path of the keys that led to it. Reading a value of the wrong kind
fails with that path. Null counts as no value.
-/

namespace QualityBands

structure Node where
  found : Option Tree
  path : String

namespace Node

/-! ### Walking -/

def root (document : Tree) : Node := ⟨some document, ""⟩

/-- A path with one more key; the empty path leaves no dot. -/
def extend (path key : String) : String :=
  if path.isEmpty then key else path ++ "." ++ key

/-- The place under a key; below anything but a mapping there is no value. -/
def child (node : Node) (key : String) : Node :=
  ⟨node.found.bind (·.get? key), extend node.path key⟩

/-- The value other than null. -/
def value? (node : Node) : Option Tree := node.found.filter (!·.isNull)

def isMapping (node : Node) : Bool := node.value?.any Tree.isMapping

/-- The entries of a mapping whose keys have a text, in document order. -/
def entries (node : Node) : List (String × Node) :=
  ((node.value?.bind Tree.entries?).getD []).filterMap fun (key, value) =>
    key.scalarText?.map fun text => (text, ⟨some value, extend node.path text⟩)

/-! ### Texts -/

def text? (node : Node) : Option String := node.value?.bind Tree.scalarText?

/-- The text of a truthy value. -/
def truthyText? (node : Node) : Option String :=
  (node.value?.filter Tree.isTruthy).bind Tree.scalarText?

/-- The text of the first candidate whose value is truthy, and the empty text if that value has
none or no value is truthy. -/
def firstText (node : Node) (candidates : List String) : String :=
  (((candidates.map node.child).find? (·.value?.any Tree.isTruthy)).bind text?).getD ""

/-! ### Numbers -/

/-- What an error says about a value. -/
def describe : Option Tree → String
  | none | some .null => "missing"
  | some (.text s) => Text.quoted s
  | some (.number n) => n.text
  | some (.bool b) => if b then "true" else "false"
  | some (.list _) => "a list"
  | some (.mapping _) => "a mapping"
  | some (.tagged _ _) => "a tagged value"

/-- A number, or a text that denotes one between blanks. -/
def readNumber? : Tree → Option Binary64
  | .number n => some n.toBinary64
  | .text s => Decimal.number? (Text.trim s)
  | _ => none

/-- A finite float without its fraction. It has to be less in magnitude than the float that is
nearest to the greatest count. -/
def wholeCount? (x : Binary64) : Option Count :=
  if x.isFinite && x.magnitude.less (Binary64.ofInt Count.greatest.val) then
    x.truncate?.map Count.clamp
  else none

/-- A whole number in range, another number by the float that is nearest to it, or a text that
denotes a whole number between blanks. -/
def readCount? : Tree → Option Count
  | .number (.integer n) =>
    match Count.ofInt? n with
    | some count => some count
    | none => wholeCount? (Binary64.ofInt n)
  | .number (.float x) => wholeCount? x
  | .text s => (Decimal.whole? (Text.trim s)).bind Count.ofInt?
  | _ => none

def toNumber (node : Node) : Except RulesError Binary64 :=
  match node.value?.bind readNumber? with
  | some x => .ok x
  | none => .error (.invalidNumber node.path (describe node.found))

def toCount (node : Node) : Except RulesError Count :=
  match node.value?.bind readCount? with
  | some n => .ok n
  | none => .error (.invalidInteger node.path (describe node.found))

/-- Like `toCount`, with a count to take where there is no value. -/
def toCountOr (node : Node) (default : Count) : Except RulesError Count :=
  if node.value?.isSome then node.toCount else .ok default

end Node

end QualityBands
