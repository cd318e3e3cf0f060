import QualityBands.Decimal.Layout

/-!
Documents as trees.

A tree keeps the order of its mappings and the tags on its parts. Structure is looked for
through tags, at any depth; scalars are not.
-/

namespace QualityBands

inductive Number where
  | integer (value : Int)
  | float (value : Binary64)
  deriving DecidableEq

inductive Tree where
  | null
  | bool (value : Bool)
  | number (value : Number)
  | text (value : String)
  | list (items : List Tree)
  | mapping (entries : List (Tree × Tree))
  | tagged (tag : String) (content : Tree)

/-! ### Numbers -/

namespace Number

/-- Numbers in a document have at least one digit behind the point, and an exponent when they
are below 1e-5 or not below 1e16. -/
def layout : Layout where
  tie := .toEven
  positional := some (-4, 16)
  plusSign := false
  nan := ".nan"
  infinity := ".inf"
  negativeInfinity := "-.inf"

def text : Number → String
  | integer n => toString n
  | float x => layout.write x

def toBinary64 : Number → Binary64
  | integer n => Binary64.ofInt n
  | float x => x

/-- Whether a number differs from zero; NaN does. -/
def isTruthy (n : Number) : Bool := !n.toBinary64.isZero

end Number

namespace Tree

/-! ### Structure, seen through tags -/

/-- The part below all tags. -/
def untagged : Tree → Tree
  | tagged _ content => content.untagged
  | tree => tree

def isNull (t : Tree) : Bool :=
  match t.untagged with
  | null => true
  | _ => false

/-- The entries of a mapping. -/
def entries? (t : Tree) : Option (List (Tree × Tree)) :=
  match t.untagged with
  | mapping entries => some entries
  | _ => none

def isMapping (t : Tree) : Bool := t.entries?.isSome

/-- The text of a possibly tagged text. -/
def taggedText? (t : Tree) : Option String :=
  match t.untagged with
  | text s => some s
  | _ => none

/-- Whether this is the untagged text `key`. -/
def isKey (key : String) : Tree → Bool
  | text s => s = key
  | _ => false

/-- The value under a key of a mapping. -/
def get? (t : Tree) (key : String) : Option Tree := do
  let entries ← t.entries?
  let (_, value) ← entries.find? fun (k, _) => isKey key k
  pure value

/-! ### Scalars, not seen through tags -/

/-- The text that a text, a number or a truth value stands for. -/
def scalarText? : Tree → Option String
  | text s => some s
  | number n => some n.text
  | bool b => some (if b then "true" else "false")
  | _ => none

/-- Null, false, zero and whatever is empty count as absent choices; a tagged value never does. -/
def isTruthy : Tree → Bool
  | null => false
  | bool b => b
  | number n => n.isTruthy
  | text s => !s.isEmpty
  | list items => !items.isEmpty
  | mapping entries => !entries.isEmpty
  | tagged _ _ => true

end Tree

end QualityBands
