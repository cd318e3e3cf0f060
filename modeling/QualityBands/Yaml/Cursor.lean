import QualityBands.Yaml.Chars

/-!
Places in YAML text.

A mark counts bytes, lines and columns from zero; a column is a character wide. A cursor is a
mark with the text that is left there.
-/

namespace QualityBands.Yaml

/-- How many bytes some characters take. -/
def byteCount (cs : List Char) : Nat := cs.foldr (fun c n => c.utf8Size + n) 0

structure Mark where
  /-- How many bytes come before it. -/
  offset : Nat
  line : Nat
  column : Nat
  deriving DecidableEq

namespace Mark

def start : Mark := ⟨0, 0, 0⟩

/-- The mark behind some characters of a line. -/
def past (m : Mark) (cs : List Char) : Mark :=
  ⟨m.offset + byteCount cs, m.line, m.column + cs.length⟩

/-- The mark behind a line break. -/
def nextLine (m : Mark) (lineBreak : List Char) : Mark :=
  ⟨m.offset + byteCount lineBreak, m.line + 1, 0⟩

/-- Whether two marks stand for one place on the page. -/
def samePlace (a b : Mark) : Bool := a.line = b.line && a.column = b.column

def text (m : Mark) : String :=
  "line " ++ toString (m.line + 1) ++ " column " ++ toString (m.column + 1)

end Mark

structure Cursor where
  rest : List Char
  mark : Mark

namespace Cursor

def head? (c : Cursor) : Option Char := c.rest.head?

/-- Moves over characters of a line. -/
def skip (c : Cursor) (n : Nat) : Cursor := ⟨c.rest.drop n, c.mark.past (c.rest.take n)⟩

/-- Moves over the characters that satisfy a test, and says which they are. -/
def span (c : Cursor) (test : Char → Bool) : List Char × Cursor :=
  let taken := c.rest.takeWhile test
  (taken, c.skip taken.length)

def skipWhile (c : Cursor) (test : Char → Bool) : Cursor := (c.span test).2

/-- Moves to the end of the line. -/
def skipLine (c : Cursor) : Cursor := c.skipWhile (!isBreak ·)

/-- What a line break stands for: Unicode separators for themselves, all others for a line
feed. -/
def breakText (c : Char) : Char := if c = '\u2028' || c = '\u2029' then c else '\n'

/-- Moves over a line break; a carriage return takes a line feed with it. -/
def lineBreak (c : Cursor) : List Char × Cursor :=
  match c.rest with
  | '\r' :: '\n' :: rest => (['\n'], ⟨rest, c.mark.nextLine ['\r', '\n']⟩)
  | b :: rest => if isBreak b then ([breakText b], ⟨rest, c.mark.nextLine [b]⟩) else ([], c)
  | [] => ([], c)

/-- Whether a mark of three equal characters begins or ends a document here. -/
def atDocumentMark (c : Cursor) (sign : Char) : Bool :=
  c.mark.column = 0 && [sign, sign, sign].isPrefixOf c.rest && atSeparator (c.rest.drop 3)

def atDocumentEdge (c : Cursor) : Bool := c.atDocumentMark '-' || c.atDocumentMark '.'

end Cursor

end QualityBands.Yaml
