import QualityBands.Outline
import QualityBands.Yaml.Chars
import QualityBands.Yaml.Scalar

/-!
Outlines as YAML.

Mappings are set out in lines with two spaces for each level. A text is written plain if it
then reads back as that text, and otherwise in the simplest style that can hold it: a text of
several lines as a literal block, any other text in single quotes, and either in double quotes
where white space or special characters ask for it. Lines are never folded.
-/

namespace QualityBands.Yaml.Printing

/-! ### What a text allows -/

/-- Whether two neighbours satisfy a test. -/
def hasPair (test : Char → Char → Bool) (cs : List Char) : Bool :=
  (cs.zip (cs.drop 1)).any fun (a, b) => test a b

def isSpecial (cs : List Char) : Bool := cs.any (!isPrintable ·)

def hasBreak (cs : List Char) : Bool := cs.any isBreak

def isSpace (c : Char) : Bool := c = ' '

def hasBreakSpace (cs : List Char) : Bool := hasPair (fun a b => isBreak a && isSpace b) cs

def hasSpaceBreak (cs : List Char) : Bool := hasPair (fun a b => isSpace a && isBreak b) cs

/-- Whether a text begins like something other than a plain scalar. -/
def startsIndicator : List Char → Bool
  | [] => false
  | c :: rest =>
    "#,[]\x7b\x7d&*!|>'\"%@`".toList.contains c ||
      ((c = '?' || c = ':' || c = '-') && atSeparator rest) ||
      ['-', '-', '-'].isPrefixOf (c :: rest) || ['.', '.', '.'].isPrefixOf (c :: rest)

/-- Whether a text holds what would end a plain scalar. -/
def holdsIndicator (cs : List Char) : Bool :=
  hasPair (fun a b => a = ':' && isSeparator b || isSeparator a && b = '#') cs ||
    cs.getLast? = some ':'

def allowsPlain (cs : List Char) : Bool :=
  !isSpecial cs && !hasBreak cs && !cs.head?.any isSpace && !cs.getLast?.any isSpace &&
    !startsIndicator cs && !holdsIndicator cs

def allowsSingle (cs : List Char) : Bool :=
  !isSpecial cs && !hasBreakSpace cs && !hasSpaceBreak cs

def allowsLiteral (cs : List Char) : Bool :=
  !isSpecial cs && !hasSpaceBreak cs && !cs.getLast?.any isSpace

/-- Words that some readers take for something other than a text. -/
def reservedWords : List String :=
  ["y", "yes", "n", "no", "on", "off", "true", "false", "null", "nil", "~", "nan"]

/-- Whether some reader might take a plain text for something else. -/
def isAmbiguous (s : String) : Bool :=
  let first := s.toList.head?
  reservedWords.contains (String.ofList (s.toList.map Char.toLower)) || first.isNone ||
    first.any (fun c => c.isDigit || c = '-' || c = '.' || c = '+') ||
    Meaning.ofPlain s ≠ .text

/-! ### Scalars -/

inductive Style where
  | plain
  | single
  | double
  | literal
  deriving DecidableEq

def styleOf (s : String) : Style :=
  let cs := s.toList
  if cs.contains '\n' then if allowsLiteral cs then .literal else .double
  else if allowsPlain cs && !isAmbiguous s then .plain
  else if allowsSingle cs then .single
  else .double

def spaces (n : Nat) : List Char := List.replicate n ' '

/-- Writes characters with `indent` spaces in front of every line but the first and but empty
ones; `fresh` says that a line is about to begin. -/
def indented (indent : Nat) : Bool → List Char → List Char
  | _, [] => []
  | fresh, c :: rest =>
    if isBreak c then c :: indented indent true rest
    else (if fresh then spaces indent else []) ++ c :: indented indent false rest

/-- A text in single quotes, with single quotes in it doubled. -/
def single (indent : Nat) (cs : List Char) : List Char :=
  let doubled := cs.flatMap fun c => if c = '\'' then ['\'', '\''] else [c]
  '\'' :: indented indent false (doubled ++ ['\''])

/-- The letters of escapes in double quotes. -/
def escapeLetters : List (Char × Char) :=
  [('\x00', '0'), ('\x07', 'a'), ('\x08', 'b'), ('\t', 't'), ('\n', 'n'), ('\x0b', 'v'),
   ('\x0c', 'f'), ('\r', 'r'), ('\x1b', 'e'), ('"', '"'), ('\\', '\\'), ('\u0085', 'N'),
   ('\u2028', 'L'), ('\u2029', 'P')]

/-- The last `width` hexadecimal digits of a number, in upper case. -/
def hexadecimal (n : Nat) : Nat → List Char
  | 0 => []
  | width + 1 => hexadecimal (n / 16) width ++ [(Nat.digitChar (n % 16)).toUpper]

def escapedChar (c : Char) : List Char :=
  match escapeLetters.lookup c with
  | some letter => ['\\', letter]
  | none =>
    let n := c.toNat
    if isPrintable c then [c]
    else if n ≤ 0xff then ['\\', 'x'] ++ hexadecimal n 2
    else if n ≤ 0xffff then ['\\', 'u'] ++ hexadecimal n 4
    else ['\\', 'U'] ++ hexadecimal n 8

def double (cs : List Char) : List Char := '"' :: cs.flatMap escapedChar ++ ['"']

/-- How the line breaks at the end of a literal block are to be read: all of them, one, or
none. -/
def chomping (cs : List Char) : List Char :=
  match cs.reverse with
  | last :: before :: _ =>
    if !isBreak last then ['-'] else if isBreak before then ['+'] else []
  | [last] => if isBreak last then ['+'] else ['-']
  | [] => ['-']

/-- A literal block; its indentation is told when the text begins with white space. -/
def literal (indent : Nat) (cs : List Char) : List Char :=
  let told := if cs.head?.any fun c => isSpace c || isBreak c then ['2'] else []
  ['|'] ++ told ++ chomping cs ++ ['\n'] ++ indented indent true cs

/-- A text as a scalar whose further lines have `indent` spaces in front. -/
def text (indent : Nat) (s : String) : List Char :=
  match styleOf s with
  | .plain => s.toList
  | .single => single indent s.toList
  | .double => double s.toList
  | .literal => literal indent s.toList

/-- Ends a line that has not ended yet. -/
def ended (cs : List Char) : List Char :=
  if cs.getLast?.any isBreak then cs else cs ++ ['\n']

/-! ### Mappings -/

/-- The length in bytes up to which a key on one line needs no mark. -/
def longestKey : Nat := 128

def isSimpleKey (key : String) : Bool :=
  !hasBreak key.toList && key.utf8ByteSize ≤ longestKey

mutual

/-- What follows a colon. A mapping begins on the next line below a simple key, and on the same
line otherwise. -/
def value (indent : Nat) (simple : Bool) : Outline → List Char
  | .text s => ' ' :: ended (text (indent + 2) s)
  | .number n => ' ' :: n.text.toList ++ ['\n']
  | .fields [] => " \x7b\x7d\n".toList
  | .fields entries =>
    let lines := fields (indent + 2) entries
    if simple then '\n' :: lines else ' ' :: lines.drop (indent + 2)

/-- The lines of a mapping. -/
def fields (indent : Nat) : List (String × Outline) → List Char
  | [] => []
  | (key, outline) :: rest =>
    let entry :=
      if isSimpleKey key then text (indent + 2) key ++ ':' :: value indent true outline
      else
        "? ".toList ++ ended (text (indent + 2) key) ++ spaces indent ++
          ':' :: value indent false outline
    spaces indent ++ entry ++ fields indent rest

end

/-- An outline as a YAML document. -/
def print (outline : Outline) : String :=
  match outline with
  | .fields (entry :: entries) => String.ofList (fields 0 (entry :: entries))
  | outline => String.ofList ((value 0 true outline).drop 1)

end QualityBands.Yaml.Printing
