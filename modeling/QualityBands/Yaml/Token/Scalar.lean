import QualityBands.Yaml.Token

/-!
Scalars in YAML text.

Plain and quoted scalars run over lines: white space around a single line break folds into one
space, and further line breaks stay. Block scalars keep their lines, and folded ones join them
where neither begins with white space.
-/

namespace QualityBands.Yaml

/-! ### White space inside scalars -/

/-- White space that has been passed over: blanks before the first line break, then that line
break, then further ones. -/
structure White where
  blanks : List Char
  first : List Char
  more : List Char
  /-- Whether a line break was met. -/
  broken : Bool

namespace White

def none : White := ⟨[], [], [], false⟩

/-- White space behind an escaped line break, which leaves no trace. -/
def escaped : White := ⟨[], [], [], true⟩

def addBlank (w : White) (c : Char) : White :=
  if w.broken then w else { w with blanks := w.blanks ++ [c] }

def addBreak (w : White) (c : Char) : White :=
  if w.broken then { w with more := w.more ++ [Cursor.breakText c] }
  else ⟨[], [Cursor.breakText c], [], true⟩

/-- What white space leaves in the text. -/
def text (w : White) : List Char :=
  if !w.broken then w.blanks
  else if w.first = ['\n'] then (if w.more.isEmpty then [' '] else w.more)
  else w.first ++ w.more

/-- Passes over white space. A tab before column `limit` of a further line is an error at its
mark. -/
def read (limit : Nat) (w : White) (mark : Mark) : List Char → Except Mark (White × Cursor)
  | [] => .ok (w, ⟨[], mark⟩)
  | '\r' :: '\n' :: rest => read limit (w.addBreak '\n') (mark.nextLine ['\r', '\n']) rest
  | c :: rest =>
    if isBlank c then
      if w.broken && mark.column < limit && c = '\t' then .error mark
      else read limit (w.addBlank c) (mark.past [c]) rest
    else if isBreak c then read limit (w.addBreak c) (mark.nextLine [c]) rest
    else .ok (w, ⟨c :: rest, mark⟩)

end White

/-! ### Plain scalars -/

namespace Plain

/-- A colon in front of a flow indicator, which no plain scalar in a flow collection may
hold. -/
def isBadColon (flow : Bool) (c : Char) (rest : List Char) : Bool :=
  flow && c = ':' && rest.head?.any (",?[]\x7b\x7d".toList.contains ·)

/-- Whether a character ends a run of a plain scalar. -/
def ends (flow : Bool) (c : Char) (rest : List Char) : Bool :=
  isSeparator c || (c = ':' && atSeparator rest) || isBadColon flow c rest ||
    (flow && ",[]\x7b\x7d".toList.contains c)

/-- The characters up to the end of a run. -/
def run (flow : Bool) : List Char → List Char
  | [] => []
  | c :: rest => if ends flow c rest then [] else c :: run flow rest

/-- How far a plain scalar has been read. -/
structure State where
  text : List Char
  /-- White space behind the text. -/
  white : White
  cursor : Cursor
  /-- The mark behind the text. -/
  stop : Mark

def badColon? (flow : Bool) (c : Cursor) : Bool :=
  match c.rest with
  | [] => false
  | first :: rest => isBadColon flow first rest

/-- Reads on, one run and the white space behind it at a time. -/
def readRuns (flow : Bool) (limit : Nat) (start : Mark) : Nat → State → Except Error State
  | 0, s => .ok s
  | fuel + 1, s =>
    if s.cursor.atDocumentEdge || s.cursor.head? = some '#' then .ok s
    else
      let taken := run flow s.cursor.rest
      let cursor := s.cursor.skip taken.length
      if badColon? flow cursor then fail .plainScalar start .colonInFlow cursor.mark
      else
        let s :=
          if taken.isEmpty then s
          else ⟨s.text ++ s.white.text ++ taken, .none, cursor, cursor.mark⟩
        if !cursor.head?.any (fun c => isBlank c || isBreak c) then .ok s
        else match White.read limit .none cursor.mark cursor.rest with
          | .error mark => fail .plainScalar start .tabInPlain mark
          | .ok (white, cursor) =>
            let s := { s with white := white, cursor := cursor }
            if !flow && cursor.mark.column < limit then .ok s
            else readRuns flow limit start fuel s

/-- Reads a plain scalar; its further lines begin at column `limit` or later. -/
def read (flow : Bool) (limit : Nat) (c : Cursor) : Except Error (Token × State) := do
  let s ← readRuns flow limit c.mark (c.rest.length + 1) ⟨[], .none, c, c.mark⟩
  pure (⟨.scalar (String.ofList s.text) true, c.mark, s.stop⟩, s)

end Plain

/-! ### Quoted scalars -/

namespace Quoted

/-- The characters that single letters stand for behind a backslash. -/
def escapes : List (Char × Char) :=
  [('0', '\x00'), ('a', '\x07'), ('b', '\x08'), ('t', '\t'), ('\t', '\t'), ('n', '\n'),
   ('v', '\x0b'), ('f', '\x0c'), ('r', '\r'), ('e', '\x1b'), (' ', ' '), ('"', '"'),
   ('/', '/'), ('\\', '\\'), ('N', '\u0085'), ('_', '\u00a0'), ('L', '\u2028'),
   ('P', '\u2029')]

/-- How many hexadecimal digits follow a letter. -/
def digitCount? (c : Char) : Option Nat :=
  [('x', 2), ('u', 4), ('U', 8)].lookup c

def hexValue? (c : Char) : Option Nat :=
  if c.isDigit then some (c.toNat - '0'.toNat)
  else if 'a' ≤ c ∧ c ≤ 'f' then some (c.toNat - 'a'.toNat + 10)
  else if 'A' ≤ c ∧ c ≤ 'F' then some (c.toNat - 'A'.toNat + 10)
  else none

/-- The number written by exactly `count` hexadecimal digits. -/
def hexNumber? (count : Nat) (cs : List Char) : Option Nat :=
  if cs.length < count then none
  else (cs.take count).foldlM (fun n c => (hexValue? c).map (16 * n + ·)) 0

/-- Reads an escape at a backslash. -/
def escape (start : Mark) (c : Cursor) : Except Error (Char × Cursor) :=
  let letter := (c.rest.drop 1).headD '\n'
  match escapes.lookup letter, digitCount? letter with
  | some value, _ => .ok (value, c.skip 2)
  | none, none => fail .escape start .unknownEscape c.mark
  | none, some count =>
    let c := c.skip 2
    match hexNumber? count c.rest with
    | none => fail .escape start .badHexadecimal c.mark
    | some n =>
      if n.isValidChar then .ok (Char.ofNat n, c.skip count)
      else fail .escape start .badScalarValue c.mark

/-- A character that stands for itself wherever it is found. -/
def isOrdinary (c : Char) : Bool := !(isBlank c || isBreak c || c = '\'' || c = '"' || c = '\\')

/-- Reads up to the closing quote, one escape, stretch of white space or run of other
characters at a time. -/
def readParts (single : Bool) (start : Mark) :
    Nat → List Char → Cursor → Except Error (List Char × Cursor)
  | 0, _, c => fail .quotedScalar start .unclosedQuotes c.mark
  | fuel + 1, text, c =>
    let white := fun (w : White) (c : Cursor) =>
      match White.read 0 w c.mark c.rest with
      | .error mark => fail .quotedScalar start .unclosedQuotes mark
      | .ok (w, c) => readParts single start fuel (text ++ w.text) c
    if c.atDocumentEdge then fail .quotedScalar start .documentMarkInQuotes c.mark
    else match c.rest with
      | [] => fail .quotedScalar start .unclosedQuotes c.mark
      | first :: rest =>
        if isBlank first || isBreak first then white .none c
        else if single && first = '\'' && rest.head? = some '\'' then
          readParts single start fuel (text ++ ['\'']) (c.skip 2)
        else if first = (if single then '\'' else '"') then .ok (text, c.skip 1)
        else if !single && first = '\\' then
          if rest.head?.any isBreak then white .escaped (c.skip 1).lineBreak.2
          else do
            let (value, c) ← escape start c
            readParts single start fuel (text ++ [value]) c
        else
          let (taken, after) := (c.skip 1).span isOrdinary
          readParts single start fuel (text ++ first :: taken) after

/-- Reads a scalar in single or double quotes. -/
def read (single : Bool) (c : Cursor) : Except Error (Token × Cursor) := do
  let (text, after) ← readParts single c.mark (c.rest.length + 1) [] (c.skip 1)
  pure (⟨.scalar (String.ofList text) false, c.mark, after.mark⟩, after)

end Quoted

/-! ### Block scalars -/

namespace Block

/-- Which line breaks at the end of a block scalar are kept. -/
inductive Chomping where
  | strip
  | clip
  | keep
  deriving DecidableEq

structure Header where
  chomping : Chomping
  /-- The indentation beyond that of the parent, if it is told. -/
  increment : Option Nat

def chomping? : Char → Option Chomping
  | '+' => some .keep
  | '-' => some .strip
  | _ => none

/-- Reads a digit other than zero. -/
def increment? (start : Mark) (c : Cursor) : Except Error (Option Nat × Cursor) :=
  match c.head? with
  | some d =>
    if !d.isDigit then .ok (none, c)
    else if d = '0' then fail .blockScalar start .zeroIndentation c.mark
    else .ok (some (d.toNat - '0'.toNat), c.skip 1)
  | none => .ok (none, c)

/-- Reads the signs behind the mark of a block scalar, in either order. -/
def header (start : Mark) (c : Cursor) : Except Error (Header × Cursor) := do
  match c.head?.bind chomping? with
  | some chomping =>
    let (increment, c) ← increment? start (c.skip 1)
    pure (⟨chomping, increment⟩, c)
  | none =>
    let (increment, c) ← increment? start c
    match increment, c.head?.bind chomping? with
    | some _, some chomping => pure (⟨chomping, increment⟩, c.skip 1)
    | _, _ => pure (⟨.clip, increment⟩, c)

/-- Passes over blanks and a comment to the next line. -/
def restOfLine (activity : Activity) (start : Mark) (c : Cursor) : Except Error Cursor :=
  let c := c.skipWhile isBlank
  let c := if c.head? = some '#' then c.skipLine else c
  if c.head?.all isBreak then .ok c.lineBreak.2
  else fail activity start .noCommentOrBreak c.mark

/-- White space between two lines of a block scalar. -/
structure Gap where
  /-- The greatest column reached. -/
  widest : Nat
  breaks : List Char
  /-- The mark behind the last line break. -/
  stop : Mark

/-- Passes over indentation and empty lines; zero stands for an indentation not known yet. A
tab in the indentation is an error at its mark. -/
def gap (indent : Nat) (g : Gap) (mark : Mark) : List Char → Except Mark (Gap × Cursor)
  | [] => .ok ({ g with widest := max g.widest mark.column }, ⟨[], mark⟩)
  | '\r' :: '\n' :: rest =>
    let next := mark.nextLine ['\r', '\n']
    gap indent ⟨max g.widest mark.column, g.breaks ++ ['\n'], next⟩ next rest
  | c :: rest =>
    let inside := indent = 0 || mark.column < indent
    if c = ' ' && inside then gap indent g (mark.past [c]) rest
    else if c = '\t' && inside then .error mark
    else if isBreak c then
      let next := mark.nextLine [c]
      gap indent ⟨max g.widest mark.column, g.breaks ++ [Cursor.breakText c], next⟩ next rest
    else .ok ({ g with widest := max g.widest mark.column }, ⟨c :: rest, mark⟩)

/-- How far a block scalar has been read. -/
structure State where
  text : List Char
  /-- The line break behind the last line. -/
  last : List Char
  /-- Further line breaks behind it. -/
  breaks : List Char
  /-- Whether the last line began with white space. -/
  blank : Bool
  cursor : Cursor
  stop : Mark

def readGap (start : Mark) (indent : Nat) (c : Cursor) : Except Error (Gap × Cursor) :=
  match gap indent ⟨0, [], c.mark⟩ c.mark c.rest with
  | .error mark => fail .blockScalar start .tabInBlock mark
  | .ok result => .ok result

/-- What stands between the text and the next line. -/
def joint (folded : Bool) (s : State) (blank : Bool) : List Char :=
  if folded && s.last.head? = some '\n' && !s.blank && !blank then
    (if s.breaks.isEmpty then [' '] else s.breaks)
  else s.last ++ s.breaks

/-- Reads line after line as long as they are indented. -/
def readLines (folded : Bool) (start : Mark) (indent : Nat) : Nat → State → Except Error State
  | 0, s => .ok s
  | fuel + 1, s =>
    if s.cursor.mark.column = indent && !s.cursor.rest.isEmpty then do
      let blank := s.cursor.head?.any isBlank
      let (line, c) := s.cursor.span (!isBreak ·)
      let (last, c) := c.lineBreak
      let (g, c) ← readGap start indent c
      readLines folded start indent fuel
        ⟨s.text ++ joint folded s blank ++ line, last, g.breaks, blank, c, g.stop⟩
    else .ok s

/-- Reads a block scalar below a parent indented by `parent`, which is -1 at the top. -/
def read (folded : Bool) (parent : Int) (c : Cursor) : Except Error (Token × Cursor) := do
  let start := c.mark
  let (head, c) ← header start (c.skip 1)
  let c ← restOfLine .blockScalar start c
  let told := match head.increment with
    | some n => (max parent 0).toNat + n
    | none => 0
  let (g, c) ← readGap start told c
  let indent := if told = 0 then max g.widest (max (parent + 1) 1).toNat else told
  let s ← readLines folded start indent (c.rest.length + 1)
    ⟨[], [], g.breaks, false, c, g.stop⟩
  let text := match head.chomping with
    | .strip => s.text
    | .clip => s.text ++ s.last
    | .keep => s.text ++ s.last ++ s.breaks
  pure (⟨.scalar (String.ofList text) false, start, s.stop⟩, s.cursor)

end Block

end QualityBands.Yaml
