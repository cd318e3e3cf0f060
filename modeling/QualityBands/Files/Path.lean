/-!
Path texts.

A path is kept as it was written, since messages repeat it. Two readings of the text are used:
the names that lead to a place, where one dot and two dots are names like any other, and the
shorter texts of the directories above.
-/

namespace QualityBands

structure Path where
  text : String
  deriving DecidableEq

namespace Path

/-! ### Pieces -/

/-- The texts between the slashes. -/
def pieces : List Char → List (List Char)
  | [] => [[]]
  | c :: rest =>
    if c = '/' then [] :: pieces rest
    else match pieces rest with
      | [] => [[c]]
      | piece :: others => (c :: piece) :: others

def joined (pieces : List (List Char)) : List Char := ['/'].intercalate pieces

def isAbsolute (path : Path) : Bool := path.text.toList.head? = some '/'

/-- Such a path can only mean a directory. -/
def endsInSlash (path : Path) : Bool := path.text.toList.getLast? = some '/'

def names (path : Path) : List String :=
  ((pieces path.text.toList).filter (!·.isEmpty)).map String.ofList

/-- The path of an entry in the directory of a path. -/
def child (path : Path) (name : String) : Path :=
  if path.text.isEmpty || path.endsInSlash then ⟨path.text ++ name⟩
  else ⟨path.text ++ "/" ++ name⟩

/-! ### Directories above -/

/-- A first slash and a first dot that is a name of its own stand apart from the pieces that
follow them. -/
def lead : List Char → List Char × List Char
  | '/' :: rest => (['/'], rest)
  | ['.'] => (['.'], [])
  | '.' :: '/' :: rest => (['.'], '/' :: rest)
  | cs => ([], cs)

/-- A piece that leads nowhere. -/
def isIdle (piece : List Char) : Bool := piece = [] || piece = ['.']

/-- The directories above, nearest first, from the pieces in reverse. -/
def aboveFrom (lead : List Char) : List (List Char) → List Path
  | [] => if lead = ['.'] then [⟨""⟩] else []
  | piece :: rest =>
    if isIdle piece then aboveFrom lead rest
    else ⟨String.ofList (lead ++ joined (rest.dropWhile isIdle).reverse)⟩ :: aboveFrom lead rest

/-- The directories above, nearest first, up to the root or to the empty path. -/
def above (path : Path) : List Path :=
  let (first, rest) := lead path.text.toList
  aboveFrom first (pieces rest).reverse

def parent? (path : Path) : Option Path := path.above.head?

end Path

end QualityBands
