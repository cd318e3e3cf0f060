import QualityBands.Source.Fault
import QualityBands.Text.Quoted
import QualityBands.Tree.Basic
import QualityBands.Yaml.Cursor

/-!
Why a text is no YAML document.
-/

namespace QualityBands.Yaml

/-- What stands in the way of reading on. -/
inductive Problem where
  | badTokenStart
  | lostKey
  | blockEntryNotAllowed
  | keyNotAllowed
  | valueNotAllowed
  | documentMarkInQuotes
  | unclosedQuotes
  | unknownEscape
  | badHexadecimal
  | badScalarValue
  | tabInPlain
  | tabInBlock
  | colonInFlow
  | zeroIndentation
  | noCommentOrBreak
  | noAnchorName
  | noBreak
  | noBreakOrBlank
  | noTagEnd
  | noTagMark
  | noTagText
  | noOctet
  | badLeadingOctet
  | badTrailingOctet
  | noDirectiveName
  | badDirectiveName
  | unknownDirective
  | noVersion
  | noVersionDigit
  | longVersion
  | repeatedVersion
  | wrongVersion
  | repeatedTagHandle
  | noDocumentStart
  | noContent
  | unknownTagHandle
  | noBlockEntry
  | noBlockKey
  | noSequenceEnd
  | noMappingEnd
  deriving DecidableEq

def Problem.message : Problem → String
  | badTokenStart => "found character that cannot start any token"
  | lostKey => "could not find expected ':'"
  | blockEntryNotAllowed => "block sequence entries are not allowed in this context"
  | keyNotAllowed => "mapping keys are not allowed in this context"
  | valueNotAllowed => "mapping values are not allowed in this context"
  | documentMarkInQuotes => "found unexpected document indicator"
  | unclosedQuotes => "found unexpected end of stream"
  | unknownEscape => "found unknown escape character"
  | badHexadecimal => "did not find expected hexadecimal number"
  | badScalarValue => "found invalid Unicode character escape code"
  | tabInPlain => "found a tab character that violates indentation"
  | tabInBlock => "found a tab character where an indentation space is expected"
  | colonInFlow => "found unexpected ':'"
  | zeroIndentation => "found an indentation indicator equal to 0"
  | noCommentOrBreak => "did not find expected comment or line break"
  | noAnchorName => "did not find expected alphabetic or numeric character"
  | noBreak => "did not find expected whitespace or line break"
  | noBreakOrBlank => "did not find expected whitespace"
  | noTagEnd => "did not find the expected '>'"
  | noTagMark => "did not find expected '!'"
  | noTagText => "did not find expected tag URI"
  | noOctet => "did not find URI escaped octet"
  | badLeadingOctet => "found an incorrect leading UTF-8 octet"
  | badTrailingOctet => "found an incorrect trailing UTF-8 octet"
  | noDirectiveName => "could not find expected directive name"
  | badDirectiveName => "found unexpected non-alphabetical character"
  | unknownDirective => "found unknown directive name"
  | noVersion => "did not find expected version number"
  | noVersionDigit => "did not find expected digit or '.' character"
  | longVersion => "found extremely long version number"
  | repeatedVersion => "found duplicate %YAML directive"
  | wrongVersion => "found incompatible YAML document"
  | repeatedTagHandle => "found duplicate %TAG directive"
  | noDocumentStart => "did not find expected <document start>"
  | noContent => "did not find expected node content"
  | unknownTagHandle => "found undefined tag handle"
  | noBlockEntry => "did not find expected '-' indicator"
  | noBlockKey => "did not find expected key"
  | noSequenceEnd => "did not find expected ',' or ']'"
  | noMappingEnd => "did not find expected ',' or '\x7d'"

/-- What was being read when a problem was met. -/
inductive Activity where
  | token
  | simpleKey
  | quotedScalar
  | escape
  | plainScalar
  | blockScalar
  | anchor
  | aliasName
  | tag
  | tagText
  | directive
  | versionDirective
  | tagDirective
  | tagDirectiveText
  | tagDirectiveHandle
  | tagDirectiveMark
  | node
  | blockNode
  | flowNode
  | blockSequence
  | blockMapping
  | flowSequence
  | flowMapping
  deriving DecidableEq

def Activity.message : Activity → String
  | token => "while scanning for the next token"
  | simpleKey => "while scanning a simple key"
  | quotedScalar => "while scanning a quoted scalar"
  | escape => "while parsing a quoted scalar"
  | plainScalar => "while scanning a plain scalar"
  | blockScalar => "while scanning a block scalar"
  | anchor => "while scanning an anchor"
  | aliasName => "while scanning an alias"
  | tag => "while scanning a tag"
  | tagText => "while parsing a tag"
  | directive => "while scanning a directive"
  | versionDirective => "while scanning a %YAML directive"
  | tagDirective => "while scanning a %TAG directive"
  | tagDirectiveText => "while parsing a %TAG directive"
  | tagDirectiveHandle => "while scanning a tag directive"
  | tagDirectiveMark => "while parsing a tag directive"
  | node => "while parsing a node"
  | blockNode => "while parsing a block node"
  | flowNode => "while parsing a flow node"
  | blockSequence => "while parsing a block collection"
  | blockMapping => "while parsing a block mapping"
  | flowSequence => "while parsing a flow sequence"
  | flowMapping => "while parsing a flow mapping"

inductive Error where
  /-- A character that no YAML text may hold, at a byte offset. -/
  | control (offset : Nat)
  /-- A problem at a mark, and what was being read and where that began. -/
  | malformed (problem : Problem) (mark : Mark) (reading : Option (Activity × Mark))
  | unknownAnchor (mark : Mark)
  | tooDeep (mark : Mark)
  | tooManyAliases
  | severalDocuments
  | repeatedKey (key : Tree) (path : List String) (mark : Mark)
  | oversized (value : Int) (path : List String) (mark : Mark)
  /-- A text that is not of the kind its tag says. -/
  | mistagged (text expected : String) (path : List String) (mark : Mark)

namespace Error

/-- Where reading stopped; the first character where that is not known. -/
def mark : Error → Mark
  | malformed _ mark _ | unknownAnchor mark | tooDeep mark => mark
  | repeatedKey _ _ mark | oversized _ _ mark | mistagged _ _ _ mark => mark
  | control _ | tooManyAliases | severalDocuments => .start

def isAtStart (m : Mark) : Bool := m.samePlace .start

/-- The place of a mark; the first character goes without saying. -/
def place (m : Mark) : String := if isAtStart m then "" else " at " ++ m.text

/-- What was being read, and where that began if it was not at the problem itself. -/
def reason (problem : Mark) : Option (Activity × Mark) → String
  | none => ""
  | some (activity, began) =>
    ", " ++ activity.message ++ (if began.samePlace problem then "" else place began)

/-- The text of a path of keys and positions; the root is a dot. -/
def pathText (path : List String) : String :=
  if path.isEmpty then "." else ".".intercalate path

/-- A message with the path it is about, unless that reads like the root. -/
def inPath (path : List String) (message : String) : String :=
  if pathText path = "." then message else pathText path ++ ": " ++ message

def keyName : Tree → String
  | .null => "with null key"
  | .bool b => "with key `" ++ (if b then "true" else "false") ++ "`"
  | .number n => "with key " ++ n.text
  | .text s => "with key " ++ Text.quoted s
  | _ => "in YAML map"

def wordName (n : Int) : String := if n < 0 then "i128" else "u128"

def message : Error → String
  | control offset =>
    "control characters are not allowed" ++
      (if offset = 0 then "" else " at position " ++ toString offset)
  | malformed problem mark reading => problem.message ++ place mark ++ reason mark reading
  | unknownAnchor mark => "unknown anchor" ++ place mark
  | tooDeep mark => "recursion limit exceeded" ++ place mark
  | tooManyAliases => "repetition limit exceeded"
  | severalDocuments =>
    "deserializing from YAML containing more than one document is not supported"
  | repeatedKey key path mark =>
    inPath path ("duplicate entry " ++ keyName key) ++ place mark
  | oversized value path mark =>
    inPath path ("invalid type: integer `" ++ toString value ++ "` as " ++ wordName value ++
      ", expected any YAML value") ++ place mark
  | mistagged text expected path mark =>
    inPath path ("invalid value: string " ++ Text.quoted text ++ ", expected " ++ expected) ++
      place mark

/-- The error as a fault of the text it was found in. -/
def fault (source : String) (e : Error) : Source.Fault :=
  .locate source e.message (e.mark.line + 1) (e.mark.column + 1)

end Error

end QualityBands.Yaml
