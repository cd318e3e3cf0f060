import QualityBands.Yaml.Event

/-!
The events of a token sequence.

The grammar is a machine with a stack. Each step takes some tokens and gives at most one event;
where a node has no content, an empty scalar takes its place. A document ends at its end mark
or where its root node ends.
-/

namespace QualityBands.Yaml

open Text (Octets)

/-- What is expected next. -/
inductive Grammar.Expected where
  | documentStart (implicit : Bool)
  | documentContent
  | documentEnd
  | blockNode
  | blockSequenceEntry
  | indentlessEntry
  | blockMappingKey
  | blockMappingValue
  | flowSequenceEntry (first : Bool)
  | flowPairKey
  | flowPairValue
  | flowPairEnd
  | flowMappingKey (first : Bool)
  | flowMappingValue (empty : Bool)

structure Grammar where
  tokens : List Token
  /-- The error behind the last token. -/
  error : Option Error
  expected : Grammar.Expected
  /-- What is expected when this is done. -/
  outer : List Grammar.Expected
  /-- Where the open collections began. -/
  opened : List Mark
  /-- The texts that tag handles stand for. -/
  handles : List (String × Octets)

namespace Grammar

/-- What a step gives. -/
inductive Result where
  | event (event : Event)
  | nothing
  | documentEnd
  | streamEnd

abbrev Step := StateT Grammar (Except Error)

/-! ### Tokens and places -/

def endOfTokens (g : Grammar) : Error :=
  g.error.getD (.malformed .noDocumentStart .start none)

def peek : Step Token := do
  let g ← get
  match g.tokens with
  | token :: _ => pure token
  | [] => throw g.endOfTokens

def drop : Step Unit := modify fun g => { g with tokens := g.tokens.drop 1 }

/-- The next token once the present one is taken. -/
def peekNext : Step Token := do
  drop
  peek

def expect (expected : Expected) : Step Unit := modify fun g => { g with expected := expected }

def expectLater (expected : Expected) : Step Unit :=
  modify fun g => { g with outer := expected :: g.outer }

/-- Goes back to what was expected outside. -/
def leave : Step Unit := modify fun g =>
  { g with expected := g.outer.headD (.documentStart false), outer := g.outer.drop 1 }

/-- Takes the token that opens a collection. -/
def enter : Step Unit := do
  let token ← peek
  drop
  modify fun g => { g with opened := token.start :: g.opened }

def close : Step Unit := modify fun g => { g with opened := g.opened.drop 1 }

/-- Fails in the innermost collection. -/
def failInside (activity : Activity) (problem : Problem) (mark : Mark) : Step α := do
  let g ← get
  fail activity (g.opened.headD .start) problem mark

def emit (kind : Event.Kind) (mark : Mark) : Step Result := pure (.event ⟨kind, mark⟩)

def noProperties : Properties := ⟨none, none⟩

def emitEmpty (mark : Mark) : Step Result := emit (.scalar noProperties "" true) mark

/-! ### Directives -/

/-- The handles that need no directive. -/
def defaultHandles : List (String × Octets) :=
  [("!", .ofString "!"), ("!!", .ofString "tag:yaml.org,2002:")]

/-- Takes directives, of which each version and each handle may be given once. -/
def directives (versioned : Bool) : Nat → Step Unit
  | 0 => pure ()
  | fuel + 1 => do
    let token ← peek
    match token.kind with
    | .versionDirective major minor =>
      if versioned then throw (.malformed .repeatedVersion token.start none)
      else if major ≠ 1 ∨ (minor ≠ 1 ∧ minor ≠ 2) then
        throw (.malformed .wrongVersion token.start none)
      else
        drop
        directives true fuel
    | .tagDirective handle base =>
      let g ← get
      if (g.handles.lookup handle).isSome then
        throw (.malformed .repeatedTagHandle token.start none)
      else
        set { g with handles := (handle, base) :: g.handles }
        drop
        directives versioned fuel
    | _ => pure ()

def addDefaultHandles : Step Unit := modify fun g =>
  { g with handles := g.handles ++ defaultHandles }

/-! ### Documents -/

/-- Passes over end marks in front of a document. -/
def dropEndMarks : Nat → Step Unit
  | 0 => pure ()
  | fuel + 1 => do
    let token ← peek
    if token.kind = .documentEnd then
      drop
      dropEndMarks fuel
    else pure ()

def isDirective : Token.Kind → Bool
  | .versionDirective .. | .tagDirective .. => true
  | _ => false

def documentStart (implicit : Bool) : Step Result := do
  let fuel := (← get).tokens.length + 1
  unless implicit do dropEndMarks fuel
  let token ← peek
  if token.kind = .streamEnd then pure .streamEnd
  else if implicit && !isDirective token.kind && token.kind ≠ .documentStart then
    addDefaultHandles
    expectLater .documentEnd
    expect .blockNode
    pure .nothing
  else
    directives false fuel
    addDefaultHandles
    let token ← peek
    if token.kind = .documentStart then
      drop
      expectLater .documentEnd
      expect .documentContent
      pure .nothing
    else throw (.malformed .noDocumentStart token.start none)

def documentEnd : Step Result := do
  let token ← peek
  if token.kind = .documentEnd then drop
  modify fun g => { g with handles := [] }
  expect (.documentStart false)
  pure .documentEnd

/-! ### Nodes -/

/-- The properties read so far, and where they and the tag among them began. -/
structure Pending where
  anchor : Option String
  tag : Option (String × Octets)
  start : Mark
  tagMark : Mark

def takeAnchor (p : Pending) : Step Pending := do
  let token ← peek
  match token.kind with
  | .anchor name =>
    drop
    pure { p with anchor := some name }
  | _ => pure p

def takeTag (p : Pending) : Step Pending := do
  let token ← peek
  match token.kind with
  | .tag handle suffix =>
    drop
    pure { p with tag := some (handle, suffix), tagMark := token.start }
  | _ => pure p

/-- Takes an anchor and a tag in either order. -/
def takeProperties : Step Pending := do
  let token ← peek
  let p : Pending := ⟨none, none, token.start, token.start⟩
  match token.kind with
  | .anchor _ => takeTag (← takeAnchor p)
  | .tag .. => takeAnchor (← takeTag p)
  | _ => pure p

/-- The tag that a handle and a suffix stand for. -/
def resolveTag (p : Pending) : Step (Option Octets) :=
  match p.tag with
  | none => pure none
  | some (handle, suffix) =>
    if handle.isEmpty then pure (some suffix)
    else do
      match (← get).handles.lookup handle with
      | some base => pure (some (base ++ suffix))
      | none => fail .node p.start .unknownTagHandle p.tagMark

/-- A node; in a flow collection, and where a sequence may lie no deeper than its parent,
other tokens begin it than elsewhere. -/
def node (block indentless : Bool) : Step Result := do
  let token ← peek
  if let .aliasOf name := token.kind then
    drop
    leave
    emit (.aliasOf name) token.start
  else
    let p ← takeProperties
    let token ← peek
    let properties : Properties := ⟨p.anchor, ← resolveTag p⟩
    match token.kind with
    | .scalar text plain =>
      drop
      leave
      emit (.scalar properties text plain) p.start
    | .flowSequenceStart =>
      expect (.flowSequenceEntry true)
      emit (.sequenceStart properties) p.start
    | .flowMappingStart =>
      expect (.flowMappingKey true)
      emit (.mappingStart properties) p.start
    | kind =>
      if indentless && kind = .blockEntry then
        expect .indentlessEntry
        emit (.sequenceStart properties) p.start
      else if block && kind = .blockSequenceStart then
        enter
        expect .blockSequenceEntry
        emit (.sequenceStart properties) p.start
      else if block && kind = .blockMappingStart then
        enter
        expect .blockMappingKey
        emit (.mappingStart properties) p.start
      else if p.anchor.isSome || p.tag.isSome then
        leave
        emit (.scalar properties "" true) p.start
      else fail (if block then .blockNode else .flowNode) p.start .noContent token.start

/-- A node with something expected after it. -/
def nodeThen (block indentless : Bool) (next : Expected) : Step Result := do
  expectLater next
  node block indentless

/-- No node, with something expected after it. -/
def emptyThen (mark : Mark) (next : Expected) : Step Result := do
  expect next
  emitEmpty mark

/-- Takes the token that closes a collection. -/
def closeWith (kind : Event.Kind) : Step Result := do
  let token ← peek
  drop
  leave
  close
  emit kind token.start

def documentContent : Step Result := do
  let token ← peek
  if isDirective token.kind ∨ token.kind ∈ [.documentStart, .documentEnd, .streamEnd] then
    leave
    emitEmpty token.start
  else node true false

/-! ### Block collections -/

def blockSequenceEntry : Step Result := do
  let token ← peek
  if token.kind = .blockEntry then
    let next ← peekNext
    if next.kind ∈ [.blockEntry, .blockEnd] then emptyThen token.stop .blockSequenceEntry
    else nodeThen true false .blockSequenceEntry
  else if token.kind = .blockEnd then closeWith .sequenceEnd
  else failInside .blockSequence .noBlockEntry token.start

def indentlessEntry : Step Result := do
  let token ← peek
  if token.kind = .blockEntry then
    let next ← peekNext
    if next.kind ∈ [.blockEntry, .key, .value, .blockEnd] then
      emptyThen token.stop .indentlessEntry
    else nodeThen true false .indentlessEntry
  else
    leave
    emit .sequenceEnd token.start

def blockMappingKey : Step Result := do
  let token ← peek
  if token.kind = .key then
    let next ← peekNext
    if next.kind ∈ [.key, .value, .blockEnd] then emptyThen token.stop .blockMappingValue
    else nodeThen true true .blockMappingValue
  else if token.kind = .blockEnd then closeWith .mappingEnd
  else failInside .blockMapping .noBlockKey token.start

def blockMappingValue : Step Result := do
  let token ← peek
  if token.kind = .value then
    let next ← peekNext
    if next.kind ∈ [.key, .value, .blockEnd] then emptyThen token.stop .blockMappingKey
    else nodeThen true true .blockMappingKey
  else emptyThen token.start .blockMappingKey

/-! ### Flow collections -/

/-- Takes the comma in front of an entry other than the first. -/
def comma (activity : Activity) (problem : Problem) : Step Unit := do
  let token ← peek
  if token.kind = .flowEntry then drop
  else failInside activity problem token.start

def flowSequenceEntry (first : Bool) : Step Result := do
  if first then enter
  if (← peek).kind = .flowSequenceEnd then closeWith .sequenceEnd
  else
    unless first do comma .flowSequence .noSequenceEnd
    let token ← peek
    if token.kind = .key then
      drop
      expect .flowPairKey
      emit (.mappingStart noProperties) token.start
    else if token.kind = .flowSequenceEnd then closeWith .sequenceEnd
    else nodeThen false false (.flowSequenceEntry false)

/-- The key of a pair that is an entry of a sequence; where there is none, the token in its
place is lost. -/
def flowPairKey : Step Result := do
  let token ← peek
  if token.kind ∈ [.value, .flowEntry, .flowSequenceEnd] then
    drop
    emptyThen token.stop .flowPairValue
  else nodeThen false false .flowPairValue

def flowPairValue : Step Result := do
  let token ← peek
  if token.kind = .value then
    let next ← peekNext
    if next.kind ∈ [.flowEntry, .flowSequenceEnd] then emptyThen next.start .flowPairEnd
    else nodeThen false false .flowPairEnd
  else emptyThen token.start .flowPairEnd

def flowPairEnd : Step Result := do
  let token ← peek
  expect (.flowSequenceEntry false)
  emit .mappingEnd token.start

def flowMappingKey (first : Bool) : Step Result := do
  if first then enter
  if (← peek).kind = .flowMappingEnd then closeWith .mappingEnd
  else
    unless first do comma .flowMapping .noMappingEnd
    let token ← peek
    if token.kind = .key then
      let next ← peekNext
      if next.kind ∈ [.value, .flowEntry, .flowMappingEnd] then
        emptyThen next.start (.flowMappingValue false)
      else nodeThen false false (.flowMappingValue false)
    else if token.kind = .flowMappingEnd then closeWith .mappingEnd
    else nodeThen false false (.flowMappingValue true)

def flowMappingValue (empty : Bool) : Step Result := do
  let token ← peek
  if !empty && token.kind = .value then
    let next ← peekNext
    if next.kind ∈ [.flowEntry, .flowMappingEnd] then
      emptyThen next.start (.flowMappingKey false)
    else nodeThen false false (.flowMappingKey false)
  else emptyThen token.start (.flowMappingKey false)

/-! ### Documents from tokens -/

def step : Step Result := do
  match (← get).expected with
  | .documentStart implicit => documentStart implicit
  | .documentContent => documentContent
  | .documentEnd => documentEnd
  | .blockNode => node true false
  | .blockSequenceEntry => blockSequenceEntry
  | .indentlessEntry => indentlessEntry
  | .blockMappingKey => blockMappingKey
  | .blockMappingValue => blockMappingValue
  | .flowSequenceEntry first => flowSequenceEntry first
  | .flowPairKey => flowPairKey
  | .flowPairValue => flowPairValue
  | .flowPairEnd => flowPairEnd
  | .flowMappingKey first => flowMappingKey first
  | .flowMappingValue empty => flowMappingValue empty

/-- Whether there is anything but the end of the stream. -/
def isFollowed (g : Grammar) : Bool :=
  match (documentStart false).run g with
  | .ok (.streamEnd, _) => false
  | _ => true

/-- Steps through the first document. -/
def firstDocument : Nat → List Event → Grammar → Document
  | 0, events, g => ⟨events.reverse, some g.endOfTokens, false⟩
  | fuel + 1, events, g =>
    match step.run g with
    | .error e => ⟨events.reverse, some e, false⟩
    | .ok (.event event, g) => firstDocument fuel (event :: events) g
    | .ok (.nothing, g) => firstDocument fuel events g
    | .ok (.documentEnd, g) => ⟨events.reverse, none, g.isFollowed⟩
    | .ok (.streamEnd, _) => ⟨events.reverse, none, false⟩

end Grammar

/-- The first document of a token sequence that ends in an error, or in the end of the
stream. -/
def Document.ofTokens (tokens : List Token) (error : Option Error) : Document :=
  Grammar.firstDocument (5 * tokens.length + 10) []
    ⟨tokens.drop 1, error, .documentStart true, [], [], []⟩

end QualityBands.Yaml
