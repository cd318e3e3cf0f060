import QualityBands.Tree.Basic

/-!
When two keys of a mapping are the same.

Whole numbers and floats are never the same; the two zeros are, and so is NaN with itself. The
order of a mapping does not count.
-/

namespace QualityBands

def Binary64.same (x y : Binary64) : Bool := x = y || (x.isZero && y.isZero)

def Number.same : Number → Number → Bool
  | integer a, integer b => a = b
  | float a, float b => a.same b
  | _, _ => false

namespace Tree

mutual

def same : Tree → Tree → Bool
  | null, null => true
  | bool a, bool b => a = b
  | number a, number b => a.same b
  | text a, text b => a = b
  | list a, list b => sameItems a b
  | mapping a, mapping b => a.length = b.length && eachIn a b
  | tagged s a, tagged t b => s = t && same a b
  | _, _ => false

def sameItems : List Tree → List Tree → Bool
  | [], [] => true
  | a :: as, b :: bs => same a b && sameItems as bs
  | _, _ => false

/-- Whether every entry of the first mapping is in the second. -/
def eachIn : List (Tree × Tree) → List (Tree × Tree) → Bool
  | [], _ => true
  | (key, value) :: rest, others =>
    others.any (fun (k, v) => same key k && same value v) && eachIn rest others

end

/-- Whether a mapping has a key. -/
def hasKey (key : Tree) (entries : List (Tree × Tree)) : Bool :=
  entries.any fun (k, _) => same key k

/-- Gives a key a value, in its place or at the end. -/
def assign (key value : Tree) : List (Tree × Tree) → List (Tree × Tree)
  | [] => [(key, value)]
  | (k, v) :: rest => if same key k then (k, value) :: rest else (k, v) :: assign key value rest

/-- The mapping that comes of assigning the entries one after another. -/
def ofEntries (entries : List (Tree × Tree)) : Tree :=
  .mapping (entries.foldl (fun done (key, value) => assign key value done) [])

end Tree

end QualityBands
