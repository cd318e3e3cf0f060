import QualityBands.Yaml.Token.Tag

/-!
The tokens of a YAML text.

Block collections open where the indentation grows and close where it shrinks. A scalar or
collection may turn out to be a key only when the colon behind it is found; until then its
place in the tokens is remembered, and the key token is put there later. Such a key lies on one
line and takes at most 1024 bytes.

Reading stops at the first error. The tokens in front of it that no key can precede any more
are given out with it. A character that no text may hold is an error where the portion of the
text begins that holds it.
-/

namespace QualityBands.Yaml

/-! ### Portions of a text -/

/-- A character that no text may hold, and where the portion of the text that holds it begins. -/
structure Obstacle where
  offset : Nat
  portion : Nat

/-- The greatest number of bytes in a portion. -/
def longestPortion : Nat := 16384

/-- The first character that no text may hold. A portion is as many characters as fit into
it. -/
def Obstacle.find? (portion offset : Nat) : List Char → Option Obstacle
  | [] => none
  | c :: rest =>
    let after := offset + c.utf8Size
    let portion := if portion + longestPortion < after then offset else portion
    if isAllowed c then find? portion after rest else some ⟨offset, portion⟩

/-! ### How far a text has been read -/

/-- Something that may turn out to be a key. -/
structure PendingKey where
  /-- Whether it has to be a key, because it begins a line of a block mapping. -/
  required : Bool
  /-- How many tokens come before it. -/
  place : Nat
  mark : Mark

/-- How far a text has been taken apart. -/
structure Scanner where
  cursor : Cursor
  tokens : Array Token
  /-- The column of the innermost block collection, -1 outside all. -/
  indent : Int
  /-- The columns of the collections around it. -/
  outer : List Int
  /-- Whether a key may begin here. -/
  keyAllowed : Bool
  /-- What may turn out to be a key, in the innermost flow collection and in those around it. -/
  pending : List (Option PendingKey)
  ended : Bool

namespace Scanner

def start (text : List Char) : Scanner where
  cursor := ⟨text, .start⟩
  tokens := #[⟨.streamStart, .start, .start⟩]
  indent := -1
  outer := []
  keyAllowed := true
  pending := [none]
  ended := false

def mark (s : Scanner) : Mark := s.cursor.mark

def column (s : Scanner) : Int := s.cursor.mark.column

def inFlow (s : Scanner) : Bool := 1 < s.pending.length

/-! ### Tokens -/

def push (s : Scanner) (kind : Token.Kind) (start stop : Mark) : Scanner :=
  { s with tokens := s.tokens.push ⟨kind, start, stop⟩ }

def insert (s : Scanner) (place : Nat) (kind : Token.Kind) (mark : Mark) : Scanner :=
  { s with tokens := s.tokens.insertIdxIfInBounds place ⟨kind, mark, mark⟩ }

/-- Takes a token of `length` characters here. -/
def take (s : Scanner) (kind : Token.Kind) (length : Nat) : Scanner :=
  let cursor := s.cursor.skip length
  { s.push kind s.mark cursor.mark with cursor := cursor }

/-- Adds a token that has been read up to a cursor. -/
def accept (s : Scanner) (read : Token × Cursor) : Scanner :=
  { s with tokens := s.tokens.push read.1, cursor := read.2 }

/-! ### Pending keys -/

/-- The greatest number of bytes from the start of a key to its colon. -/
def longestKey : Nat := 1024

/-- Whether something can no longer be a key, the text having been read up to a mark. -/
def isStale (mark : Mark) (key : PendingKey) : Bool :=
  key.mark.line < mark.line || key.mark.offset + longestKey < mark.offset

/-- Forgets what can no longer be a key; what had to be one is an error. -/
def dropStale (s : Scanner) : Except Error Scanner := do
  let pending ← s.pending.reverse.mapM fun key? =>
    match key? with
    | none => pure none
    | some key =>
      if !isStale s.mark key then pure (some key)
      else if key.required then fail .simpleKey key.mark .lostKey s.mark
      else pure none
  pure { s with pending := pending.reverse }

/-- Gives up what may be a key at this level. -/
def dropKey (s : Scanner) : Except Error Scanner :=
  match s.pending with
  | some key :: rest =>
    if key.required then fail .simpleKey key.mark .lostKey s.mark
    else .ok { s with pending := none :: rest }
  | _ => .ok s

/-- Remembers that what begins here may be a key. -/
def saveKey (s : Scanner) : Except Error Scanner := do
  if s.keyAllowed then
    let s ← s.dropKey
    let key : PendingKey := ⟨!s.inFlow && s.indent = s.column, s.tokens.size, s.mark⟩
    pure { s with pending := some key :: s.pending.drop 1 }
  else pure s

def allowKey (s : Scanner) (allowed : Bool) : Scanner := { s with keyAllowed := allowed }

/-! ### Indentation -/

/-- Opens a block collection at a column further in than the innermost one. -/
def openBlock (s : Scanner) (column : Int) (place : Nat) (kind : Token.Kind) (mark : Mark) :
    Scanner :=
  if !s.inFlow && s.indent < column then
    { s.insert place kind mark with indent := column, outer := s.indent :: s.outer }
  else s

/-- Closes the block collections further in than a column. -/
def closeBlocks (s : Scanner) (column : Int) : Scanner :=
  if s.inFlow then s
  else
    let closed := (s.indent :: s.outer).takeWhile (column < ·)
    let left := (s.indent :: s.outer).dropWhile (column < ·)
    { s with
      tokens := s.tokens ++ Array.replicate closed.length ⟨.blockEnd, s.mark, s.mark⟩
      indent := left.headD (-1)
      outer := left.drop 1 }

/-! ### Reading one token -/

/-- Passes over blanks, comments and line breaks. Tabs count as blanks where no key may
begin, and each line may begin with a byte order mark. -/
def skipToToken (s : Scanner) : Nat → Scanner
  | 0 => s
  | fuel + 1 =>
    let marked := s.mark.column = 0 && s.cursor.head? = some '\ufeff'
    let cursor := if marked then s.cursor.skip 1 else s.cursor
    let tabs := s.inFlow || !s.keyAllowed
    let cursor := cursor.skipWhile fun c => c = ' ' || (tabs && c = '\t')
    let cursor := if cursor.head? = some '#' then cursor.skipLine else cursor
    if cursor.head?.any isBreak then
      let s := { s with cursor := cursor.lineBreak.2, keyAllowed := s.keyAllowed || !s.inFlow }
      skipToToken s fuel
    else { s with cursor := cursor }

def finish (s : Scanner) : Except Error Scanner := do
  let mark := if s.mark.column = 0 then s.mark else ⟨s.mark.offset, s.mark.line + 1, 0⟩
  let s := { s with cursor := ⟨[], mark⟩ }.closeBlocks (-1)
  let s ← s.dropKey
  pure { (s.push .streamEnd mark mark).allowKey false with ended := true }

def readDirective (s : Scanner) : Except Error Scanner := do
  let s ← (s.closeBlocks (-1)).dropKey
  let read ← Directive.read s.cursor
  pure ((s.allowKey false).accept read)

def readDocumentMark (s : Scanner) (kind : Token.Kind) : Except Error Scanner := do
  let s ← (s.closeBlocks (-1)).dropKey
  pure ((s.allowKey false).take kind 3)

def openFlow (s : Scanner) (kind : Token.Kind) : Except Error Scanner := do
  let s ← s.saveKey
  pure (({ s with pending := none :: s.pending }.allowKey true).take kind 1)

def closeFlow (s : Scanner) (kind : Token.Kind) : Except Error Scanner := do
  let s ← s.dropKey
  let s := if s.inFlow then { s with pending := s.pending.drop 1 } else s
  pure ((s.allowKey false).take kind 1)

def readFlowEntry (s : Scanner) : Except Error Scanner := do
  let s ← s.dropKey
  pure ((s.allowKey true).take .flowEntry 1)

/-- Opens a block collection with an indicator here, if a key may begin here. -/
def openAt (s : Scanner) (kind : Token.Kind) (problem : Problem) : Except Error Scanner :=
  if s.inFlow then .ok s
  else if s.keyAllowed then .ok (s.openBlock s.column s.tokens.size kind s.mark)
  else .error (.malformed problem s.mark none)

def readBlockEntry (s : Scanner) : Except Error Scanner := do
  let s ← s.openAt .blockSequenceStart .blockEntryNotAllowed
  let s ← s.dropKey
  pure ((s.allowKey true).take .blockEntry 1)

def readKey (s : Scanner) : Except Error Scanner := do
  let s ← s.openAt .blockMappingStart .keyNotAllowed
  let s ← s.dropKey
  pure ((s.allowKey (!s.inFlow)).take .key 1)

/-- Reads a colon, and makes a key of what may be one. -/
def readValue (s : Scanner) : Except Error Scanner := do
  match s.pending with
  | some key :: rest =>
    let s := s.insert key.place .key key.mark
    let s := s.openBlock key.mark.column key.place .blockMappingStart key.mark
    pure (({ s with pending := none :: rest }.allowKey false).take .value 1)
  | _ =>
    let s ← s.openAt .blockMappingStart .valueNotAllowed
    pure ((s.allowKey (!s.inFlow)).take .value 1)

/-- Reads something that may be a key, or the properties in front of it. -/
def readNode (s : Scanner) (read : Cursor → Except Error (Token × Cursor)) :
    Except Error Scanner := do
  let s ← s.saveKey
  pure ((s.allowKey false).accept (← read s.cursor))

def readBlockScalar (s : Scanner) (folded : Bool) : Except Error Scanner := do
  let s ← s.dropKey
  pure ((s.allowKey true).accept (← Block.read folded s.indent s.cursor))

def readPlain (s : Scanner) : Except Error Scanner := do
  let s ← s.saveKey
  let (token, plain) ← Plain.read s.inFlow (s.indent + 1).toNat s.cursor
  pure ((s.allowKey plain.white.broken).accept (token, plain.cursor))

/-- Whether a plain scalar may begin with a character. -/
def startsPlain (flow : Bool) (c : Char) (rest : List Char) : Bool :=
  !(isSeparator c || "-?:,[]\x7b\x7d#&*!|>'\"%@`".toList.contains c) ||
    (c = '-' && !rest.head?.any isBlank) ||
    (!flow && (c = '?' || c = ':') && !atSeparator rest)

/-- Reads the token that begins here. -/
def readToken (s : Scanner) : Except Error Scanner :=
  match s.cursor.rest with
  | [] => s.finish
  | c :: rest =>
    let indicator := s.inFlow || atSeparator rest
    if c = '%' && s.mark.column = 0 then s.readDirective
    else if s.cursor.atDocumentMark '-' then s.readDocumentMark .documentStart
    else if s.cursor.atDocumentMark '.' then s.readDocumentMark .documentEnd
    else if c = '[' then s.openFlow .flowSequenceStart
    else if c = '\x7b' then s.openFlow .flowMappingStart
    else if c = ']' then s.closeFlow .flowSequenceEnd
    else if c = '\x7d' then s.closeFlow .flowMappingEnd
    else if c = ',' then s.readFlowEntry
    else if c = '-' && atSeparator rest then s.readBlockEntry
    else if c = '?' && indicator then s.readKey
    else if c = ':' && indicator then s.readValue
    else if c = '*' then s.readNode (readAnchor .aliasName .aliasOf)
    else if c = '&' then s.readNode (readAnchor .anchor .anchor)
    else if c = '!' then s.readNode (Tag.read s.inFlow)
    else if c = '|' && !s.inFlow then s.readBlockScalar false
    else if c = '>' && !s.inFlow then s.readBlockScalar true
    else if c = '\'' then s.readNode (Quoted.read true)
    else if c = '"' then s.readNode (Quoted.read false)
    else if startsPlain s.inFlow c rest then s.readPlain
    else fail .token s.mark .badTokenStart s.mark

/-- Goes on to the next token and reads it. -/
def next (s : Scanner) : Except Error Scanner := do
  let s ← (s.skipToToken (s.cursor.rest.length + 1)).dropStale
  let s ← (s.closeBlocks s.column).readToken
  s.dropStale

/-! ### Reading all tokens -/

/-- Goes on to the next token and reads it, unless that takes in the portion of an obstacle. -/
def nextBefore (obstacle : Option Obstacle) (s : Scanner) : Except Error Scanner :=
  let stopped := fun (mark : Mark) => obstacle.filter fun o => o.portion ≤ mark.offset
  match s.next with
  | .ok s => (stopped s.mark).elim (.ok s) fun o => .error (.control o.offset)
  | .error e => .error ((stopped e.mark).elim e fun o => .control o.offset)

/-- How many tokens no key can precede any more. -/
def settled (s : Scanner) : Nat :=
  s.pending.foldl (fun n key? => (key?.map fun key => min n key.place).getD n) s.tokens.size

/-- Reads token after token, up to the end or the first error. -/
def readAll (obstacle : Option Obstacle) : Nat → Scanner → List Token × Option Error
  | 0, s => (s.tokens.toList, none)
  | fuel + 1, s =>
    if s.ended then (s.tokens.toList, none)
    else match s.nextBefore obstacle with
      | .ok s => readAll obstacle fuel s
      | .error e => ((s.tokens.extract 0 s.settled).toList, some e)

end Scanner

/-- The tokens of a text, and the error that ended it early. -/
def tokensOf (cs : List Char) : List Token × Option Error :=
  Scanner.readAll (Obstacle.find? 0 0 cs) (cs.length + 2) (.start cs)

end QualityBands.Yaml
