import QualityBands.Decimal.Reading
import QualityBands.Yaml.Token.Scalar

/-!
Anchors, aliases, tags and directives in YAML text.

The text of a tag is made of octets, some of them written as numbers behind percent signs. It
ends at the first zero octet, and need not be the text of any characters.
-/

namespace QualityBands.Yaml

open Text (Octets)

/-- The characters of names. -/
def isNameChar (c : Char) : Bool := c.isAlphanum || c = '-' || c = '_'

/-! ### Anchors and aliases -/

/-- Reads the name of an anchor or alias behind its mark. -/
def readAnchor (activity : Activity) (kind : String → Token.Kind) (c : Cursor) :
    Except Error (Token × Cursor) :=
  let (name, after) := (c.skip 1).span isNameChar
  if name.isEmpty || !(atSeparator after.rest || after.head?.any ("?:,]\x7d%@`".toList.contains ·))
  then fail activity c.mark .noAnchorName after.mark
  else .ok (⟨kind (String.ofList name), c.mark, after.mark⟩, after)

/-! ### Texts of tags -/

namespace TagText

/-- The characters of the texts of tags; `wide` adds those of verbatim tags. -/
def isChar (wide : Bool) (c : Char) : Bool :=
  isNameChar c || ";/?:@&=+$.%!~*'()".toList.contains c || (wide && ",[]".toList.contains c)

/-- How many octets a character has, by its first octet. -/
def octetCount? (octet : UInt8) : Option Nat :=
  if octet < 0x80 then some 1
  else if octet / 0x20 = 0x06 then some 2
  else if octet / 0x10 = 0x0e then some 3
  else if octet / 0x08 = 0x1e then some 4
  else none

/-- Reads one octet, written as two hexadecimal digits behind a percent sign. -/
def octet (activity : Activity) (start : Mark) (c : Cursor) : Except Error (UInt8 × Cursor) :=
  match c.rest with
  | '%' :: rest =>
    match Quoted.hexNumber? 2 rest with
    | some n => .ok (n.toUInt8, c.skip 3)
    | none => fail activity start .noOctet c.mark
  | _ => fail activity start .noOctet c.mark

/-- Reads the further octets of a character. -/
def furtherOctets (activity : Activity) (start : Mark) :
    Nat → Octets → Cursor → Except Error (Octets × Cursor)
  | 0, octets, c => .ok (octets, c)
  | count + 1, octets, c => do
    let (octet, after) ← octet activity start c
    if octet / 0x40 = 0x02 then
      furtherOctets activity start count (octets ++ [octet]) after
    else fail activity start .badTrailingOctet c.mark

/-- Reads one character written as octets. -/
def escaped (activity : Activity) (start : Mark) (c : Cursor) :
    Except Error (Octets × Cursor) := do
  let (first, after) ← octet activity start c
  match octetCount? first with
  | none => fail activity start .badLeadingOctet c.mark
  | some count => furtherOctets activity start (count - 1) [first] after

/-- Reads as many characters of a tag as there are. -/
def readChars (activity : Activity) (wide : Bool) (start : Mark) :
    Nat → Octets → Cursor → Except Error (Octets × Cursor)
  | 0, text, c => .ok (text, c)
  | fuel + 1, text, c =>
    match c.head? with
    | none => .ok (text, c)
    | some first =>
      if !isChar wide first then .ok (text, c)
      else if first = '%' then do
        let (octets, c) ← escaped activity start c
        readChars activity wide start fuel (text ++ octets) c
      else readChars activity wide start fuel (text ++ [first.toUInt8]) (c.skip 1)

/-- Reads the text of a tag that begins with the characters of `head`, without the first of
them; there is some text unless `head` is given. -/
def read (activity : Activity) (wide : Bool) (head : List Char) (start : Mark) (c : Cursor) :
    Except Error (Octets × Cursor) := do
  let (text, after) ← readChars activity wide start (c.rest.length + 1) [] c
  if head.isEmpty && text.isEmpty then fail activity start .noTagText after.mark
  else pure ((head.drop 1).map Char.toUInt8 ++ text.takeWhile (· ≠ 0), after)

end TagText

/-! ### Tags -/

namespace Tag

/-- Reads an exclamation mark, a name behind it, and another exclamation mark if there is
one. -/
def handle (activity : Activity) (start : Mark) (c : Cursor) :
    Except Error (List Char × Cursor) :=
  if c.head? ≠ some '!' then fail activity start .noTagMark c.mark
  else
    let (name, after) := (c.skip 1).span isNameChar
    if after.head? = some '!' then .ok ('!' :: name ++ ['!'], after.skip 1)
    else .ok ('!' :: name, after)

/-- Whether a handle is closed by an exclamation mark of its own. -/
def isClosed (handle : List Char) : Bool :=
  1 < handle.length && handle.getLast? = some '!'

/-- Reads the handle and the suffix of a tag. -/
def parts (start : Mark) (c : Cursor) : Except Error (List Char × Octets × Cursor) := do
  if c.rest[1]? = some '<' then
    let (suffix, c) ← TagText.read .tagText true [] start (c.skip 2)
    if c.head? = some '>' then pure ([], suffix, c.skip 1)
    else fail .tag start .noTagEnd c.mark
  else
    let (handle, c) ← handle .tag start c
    if isClosed handle then
      let (suffix, c) ← TagText.read .tagText false [] start c
      pure (handle, suffix, c)
    else
      let (suffix, c) ← TagText.read .tagText false handle start c
      if suffix.isEmpty then pure ([], .ofString "!", c) else pure (['!'], suffix, c)

def read (flow : Bool) (c : Cursor) : Except Error (Token × Cursor) := do
  let (handle, suffix, after) ← parts c.mark c
  if atSeparator after.rest || (flow && after.head? = some ',') then
    pure (⟨.tag (String.ofList handle) suffix, c.mark, after.mark⟩, after)
  else fail .tag c.mark .noBreak after.mark

end Tag

/-! ### Directives -/

namespace Directive

/-- The greatest number of digits in a version. -/
def longestVersion : Nat := 9

/-- Reads the digits of a version, which take no columns. -/
def versionNumber (start : Mark) (c : Cursor) : Except Error (Nat × Cursor) :=
  let digits := c.rest.takeWhile Char.isDigit
  if longestVersion < digits.length then fail .versionDirective start .longVersion c.mark
  else if digits.isEmpty then fail .versionDirective start .noVersion c.mark
  else .ok (Decimal.naturalOf digits, ⟨c.rest.drop digits.length, c.mark⟩)

def version (start : Mark) (c : Cursor) : Except Error (Token.Kind × Cursor) := do
  let (major, c) ← versionNumber start (c.skipWhile isBlank)
  if c.head? = some '.' then
    let (minor, c) ← versionNumber start (c.skip 1)
    pure (.versionDirective major minor, c)
  else fail .versionDirective start .noVersionDigit c.mark

def tagHandle (start : Mark) (c : Cursor) : Except Error (Token.Kind × Cursor) := do
  let (handle, c) ← Tag.handle .tagDirectiveHandle start (c.skipWhile isBlank)
  if !Tag.isClosed handle && handle ≠ ['!'] then
    fail .tagDirectiveMark start .noTagMark c.mark
  else if !c.head?.any isBlank then fail .tagDirective start .noBreakOrBlank c.mark
  else
    let (base, c) ← TagText.read .tagDirectiveText true [] start (c.skipWhile isBlank)
    if atSeparator c.rest then
      pure (.tagDirective (String.ofList handle) base, c)
    else fail .tagDirective start .noBreak c.mark

/-- Reads a directive and the rest of its line. -/
def read (c : Cursor) : Except Error (Token × Cursor) := do
  let start := c.mark
  let (name, c) := (c.skip 1).span isNameChar
  if name.isEmpty then fail .directive start .noDirectiveName c.mark
  else if !atSeparator c.rest then fail .directive start .badDirectiveName c.mark
  else
    let (kind, c) ←
      if name = "YAML".toList then version start c
      else if name = "TAG".toList then tagHandle start c
      else fail .directive start .unknownDirective c.mark
    let after ← Block.restOfLine .directive start c
    pure (⟨kind, start, c.mark⟩, after)

end Directive

end QualityBands.Yaml
