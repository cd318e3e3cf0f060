import QualityBands.Tree.Same
import QualityBands.Yaml.Event.Grammar
import QualityBands.Yaml.Scalar
import QualityBands.Yaml.Token.Stream

/-!
Trees from YAML text.

Aliases stand for copies of what they name. A local tag stays on its node; a tag of the core
schema says what a scalar is, and any other tag makes it a text. Collections nest up to a
limit, and a mapping has each key once.
-/

namespace QualityBands.Yaml

open Text (Octets)

/-! ### Anchors -/

/-- The anchors of a document. A name takes the number of names known before it, also when it
is given again, and an alias stands for the last node with the number of its name. -/
structure Anchors where
  /-- The numbers of names, the latest first. -/
  numbers : List (String × Nat)
  /-- How many names are known. -/
  count : Nat
  /-- The positions of numbers, the latest first. -/
  places : List (Nat × Nat)
  /-- The numbers of the aliases by their position. -/
  aliases : List (Nat × Nat)

namespace Anchors

def none : Anchors := ⟨[], 0, [], []⟩

def define (a : Anchors) (name : String) (position : Nat) : Anchors where
  numbers := (name, a.count) :: a.numbers
  count := if (a.numbers.lookup name).isSome then a.count else a.count + 1
  places := (a.count, position) :: a.places
  aliases := a.aliases

/-- The position that the alias at a position stands for. -/
def target? (a : Anchors) (position : Nat) : Option Nat :=
  (a.aliases.lookup position).bind fun number => a.places.lookup number

def anchorOf : Event.Kind → Option String
  | .scalar properties .. | .sequenceStart properties | .mappingStart properties =>
    properties.anchor
  | _ => .none

/-- Collects the anchors of events, up to an alias without an anchor. -/
def collect : Nat → List Event → Anchors → Anchors × Option (Nat × Error)
  | _, [], a => (a, .none)
  | position, event :: rest, a =>
    match event.kind with
    | .aliasOf name =>
      match a.numbers.lookup name with
      | some number =>
        collect (position + 1) rest { a with aliases := (position, number) :: a.aliases }
      | .none => (a, some (position, .unknownAnchor event.mark))
    | kind =>
      collect (position + 1) rest ((anchorOf kind).elim a fun name => a.define name position)

end Anchors

/-! ### Tags -/

/-- Whether a tag begins with an exclamation mark. -/
def isLocalTag (tag : Octets) : Bool := tag.head? = some '!'.toUInt8

/-- A local tag, with the one exclamation mark that it is known by. Octets that are no text are
no tag. -/
def localTag? (tag : Option Octets) : Option String :=
  (tag.bind Octets.text?).bind fun t =>
    match t.toList with
    | ['!'] | ['!', '!'] => some "!!"
    | '!' :: '!' :: rest => some (String.ofList ('!' :: rest))
    | '!' :: _ => some t
    | _ => none

def coreTag (name : String) : Octets := .ofString ("tag:yaml.org,2002:" ++ name)

/-! ### Scalars -/

/-- The meaning of a text that is tagged with a name of the core schema. -/
def ofCoreTag (tag : Octets) (text : String) : Except String Meaning :=
  let expect := fun (meaning : Option Meaning) (expected : String) =>
    match meaning with
    | some meaning => .ok meaning
    | none => .error expected
  if tag = coreTag "bool" then expect ((Meaning.bool? text).map .bool) "a boolean"
  else if tag = coreTag "int" then expect (Meaning.integer? text) "an integer"
  else if tag = coreTag "float" then expect ((Meaning.float? text).map .float) "a float"
  else if tag = coreTag "null" then
    expect (if Meaning.isNullWord text then some .null else none) "null"
  else .ok .text

/-- The meaning of a scalar; a local tag has no part in it. -/
def scalarMeaning (tag : Option Octets) (text : String) (plain : Bool) :
    Except String Meaning :=
  match tag.filter (!isLocalTag ·) with
  | some tag => ofCoreTag tag text
  | none => .ok (if plain then Meaning.ofPlain text else .text)

/-- The tree of a scalar. -/
def scalarTree (path : List String) (mark : Mark) (text : String) (meaning : Meaning) :
    Except Error Tree :=
  match meaning with
  | .null => .ok .null
  | .bool b => .ok (.bool b)
  | .integer n => .ok (.number (.integer n))
  | .oversized n => .error (.oversized n path mark)
  | .float x => .ok (.number (.float x))
  | .text => .ok (.text text)

/-! ### Nodes -/

/-- A document whose aliases have been found out. -/
structure Source where
  events : Array Event
  anchors : Anchors
  /-- What comes behind the last event. -/
  error : Error

/-- How far a document has been read, and how many aliases have been followed. -/
structure Progress where
  position : Nat
  jumps : Nat

abbrev Builder := StateT Progress (Except Error)

namespace Source

/-- How deep collections may nest. -/
def deepest : Nat := 128

/-- How many aliases may be followed for each event. -/
def jumpsPerEvent : Nat := 100

def current (s : Source) : Builder Event := do
  match s.events[(← get).position]? with
  | some event => pure event
  | none => throw s.error

def advance : Builder Unit := modify fun p => { p with position := p.position + 1 }

/-- Reads at another position, and goes on behind the present one. -/
def visit (s : Source) (target : Nat) (read : Builder α) : Builder α := do
  let here ← get
  if s.events.size * jumpsPerEvent < here.jumps + 1 then throw .tooManyAliases
  set (⟨target, here.jumps + 1⟩ : Progress)
  let result ← read
  modify fun p => { p with position := here.position }
  pure result

/-- The name that a key gives to the path of its value. -/
def keyName : Event.Kind → String
  | .scalar _ text _ => text
  | _ => "?"

/-- A tree with the local tag of its node. -/
def tagged (properties : Properties) (tree : Tree) : Tree :=
  match localTag? properties.tag with
  | some tag => .tagged tag tree
  | none => tree

mutual

/-- Reads the node here. -/
def node (s : Source) (path : List String) (depth : Nat) : Nat → Builder Tree
  | 0 => throw s.error
  | fuel + 1 => do
    let event ← s.current
    let position := (← get).position
    advance
    match event.kind with
    | .aliasOf _ =>
      match s.anchors.target? position with
      | some target => s.visit target (s.node (path ++ [""]) depth fuel)
      | none => throw s.error
    | .scalar properties text plain =>
      match scalarMeaning properties.tag text plain with
      | .ok meaning => pure (tagged properties (← scalarTree path event.mark text meaning))
      | .error expected => throw (.mistagged text expected path event.mark)
    | .sequenceStart properties =>
      if depth = 0 then throw (.tooDeep event.mark)
      else pure (tagged properties (.list (← s.items path (depth - 1) 0 fuel)))
    | .mappingStart properties =>
      if depth = 0 then throw (.tooDeep event.mark)
      else pure (tagged properties (.mapping (← s.entries path (depth - 1) event.mark [] fuel)))
    | .sequenceEnd | .mappingEnd => throw s.error
termination_by structural fuel => fuel

/-- Reads the items of a sequence from the one with a given index on. -/
def items (s : Source) (path : List String) (depth index : Nat) : Nat → Builder (List Tree)
  | 0 => throw s.error
  | fuel + 1 => do
    if (← s.current).kind = .sequenceEnd then
      advance
      pure []
    else
      let item ← s.node (path ++ ["\\[" ++ toString index ++ "\\]"]) depth fuel
      let rest ← s.items path depth (index + 1) fuel
      pure (item :: rest)
termination_by structural fuel => fuel

/-- Reads the entries of a mapping behind those in `done`. -/
def entries (s : Source) (path : List String) (depth : Nat) (start : Mark)
    (done : List (Tree × Tree)) : Nat → Builder (List (Tree × Tree))
  | 0 => throw s.error
  | fuel + 1 => do
    let event ← s.current
    if event.kind = .mappingEnd then
      advance
      pure done
    else
      let key ← s.node path depth fuel
      if Tree.hasKey key done then throw (.repeatedKey key path start)
      let value ← s.node (path ++ [keyName event.kind]) depth fuel
      s.entries path depth start (done ++ [(key, value)]) fuel
termination_by structural fuel => fuel

end

/-- Enough for every chain of nested items and entries. -/
def fuel (s : Source) : Nat := 2 * (deepest + 2) * (s.events.size + 2)

end Source

/-- The tree of a document. -/
def Document.toTree (d : Document) : Except Error Tree := do
  let (anchors, unknown) := Anchors.collect 0 d.events .none
  let events := match unknown with
    | some (position, _) => d.events.take position
    | none => d.events
  let error := (unknown.map (·.2)).or d.error
  match events, error with
  | [], none => pure .null
  | _, _ =>
    let source : Source := ⟨events.toArray, anchors, error.getD .severalDocuments⟩
    let (tree, _) ← (source.node [] Source.deepest source.fuel).run ⟨0, 0⟩
    match error with
    | some e => throw e
    | none => if d.followed then throw .severalDocuments else pure tree

/-- Reads the only document of a text, given by its characters. -/
def readChars (cs : List Char) : Except Error Tree :=
  let (tokens, error) := tokensOf cs
  (Document.ofTokens tokens error).toTree

def read (text : String) : Except Error Tree := readChars text.toList

end QualityBands.Yaml
