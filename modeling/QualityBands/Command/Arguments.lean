import QualityBands.Command.Basic

/-!
Reading the arguments of a command line.

The arguments before the verb and those after it form two sides that are read alike: switches,
and after the verb settings with a value. Words are taken from left to right, and the first
mistake ends the reading. A setting whose value is a word of its own is only settled when the
next switch or setting is met or the side ends, and a mistake in it gives way to an unknown word
in between. A setting that is not given may come from the environment.
-/

namespace QualityBands

namespace Arguments

/-- Why no request comes out of the arguments. -/
inductive Stop where
  | help
  | version (verb : Option Verb)
  | nothingAsked
  | missingVerb
  | unknownVerb
  | unknownArgument
  | missingSetting
  | invalidValue
  | unwantedValue
  | conflict
  deriving DecidableEq

/-! ### Vocabulary -/

inductive Switch where
  | quiet
  | verbose
  | help
  | version
  deriving DecidableEq

inductive Setting where
  | config
  | out
  | fragments
  | format
  deriving DecidableEq

inductive Flag where
  | switch (switch : Switch)
  | setting (setting : Setting)

/-- The settings of a side; before the verb there are none. -/
def settings : Option Verb → List Setting
  | none => []
  | some .validate => [.config]
  | some .generate => [.config, .out, .fragments]
  | some .normalize => [.config, .format]

def Setting.long : Setting → String
  | config => "config"
  | out => "out"
  | fragments => "write-fragments"
  | format => "format"

def Setting.short? : Setting → Option Char
  | format => some 'f'
  | _ => none

/-- The environment variable that a setting may come from. -/
def Setting.environmentName? : Setting → Option String
  | config => some "COLOR_RULES_CONFIG"
  | out => some "COLOR_RULES_OUT"
  | fragments => some "COLOR_RULES_FRAGMENTS"
  | format => none

/-- A path must not be empty, and a format has a name. -/
def Setting.accepts : Setting → String → Bool
  | format, value => (Format.ofName? value).isSome
  | _, value => !value.isEmpty

def Switch.ofLong? : String → Option Switch
  | "quiet" => some quiet
  | "verbose" => some verbose
  | "help" => some help
  | "version" => some version
  | _ => none

def Switch.ofShort? : Char → Option Switch
  | 'q' => some quiet
  | 'v' => some verbose
  | 'h' => some help
  | 'V' => some version
  | _ => none

def long? (verb : Option Verb) (name : String) : Option Flag :=
  match Switch.ofLong? name with
  | some switch => some (.switch switch)
  | none => ((settings verb).find? (·.long = name)).map .setting

def short? (verb : Option Verb) (c : Char) : Option Flag :=
  match Switch.ofShort? c with
  | some switch => some (.switch switch)
  | none => ((settings verb).find? (·.short? = some c)).map .setting

/-! ### One side -/

/-- What a side has given so far. -/
structure Given where
  quiet : Bool := false
  verbose : Bool := false
  values : List (Setting × String) := []
  /-- The setting that was met last, with the word after it. -/
  pending : Option (Setting × Option String) := none

namespace Given

def isEmpty (given : Given) : Bool := !given.quiet && !given.verbose && given.values.isEmpty

def value? (given : Given) (setting : Setting) : Option String := given.values.lookup setting

/-- Each setting is given at most once. -/
def give (given : Given) (setting : Setting) : Option String → Except Stop Given
  | none => .error .invalidValue
  | some value =>
    if (given.value? setting).isSome then .error .conflict
    else if setting.accepts value then
      .ok { given with values := given.values ++ [(setting, value)] }
    else .error .invalidValue

def settle (given : Given) : Except Stop Given :=
  match given.pending with
  | none => .ok given
  | some (setting, word) => { given with pending := none }.give setting word

def throwSwitch (verb : Option Verb) (given : Given) : Switch → Except Stop Given
  | .quiet => if given.quiet then .error .conflict else .ok { given with quiet := true }
  | .verbose => if given.verbose then .error .conflict else .ok { given with verbose := true }
  | .help => .error .help
  | .version => .error (.version verb)

/-- A long flag, with the value that an equals sign attaches to it. -/
def long (verb : Option Verb) (given : Given) (name : String) (attached : Option String) :
    Except Stop Given :=
  match long? verb name, attached with
  | none, _ => .error .unknownArgument
  | some (.switch _), some _ => .error .unwantedValue
  | some (.switch switch), none => do (← given.settle).throwSwitch verb switch
  | some (.setting setting), some value => do (← given.settle).give setting (some value)
  | some (.setting setting), none => do
    return { ← given.settle with pending := some (setting, none) }

/-- A row of short flags, where the rest of the row is the value of a setting. -/
def row (verb : Option Verb) (given : Given) : List Char → Except Stop Given
  | [] => .ok given
  | c :: rest =>
    match short? verb c with
    | none => .error .unknownArgument
    | some (.switch switch) => do row verb (← (← given.settle).throwSwitch verb switch) rest
    | some (.setting setting) => do
      let given ← given.settle
      match rest with
      | [] => return { given with pending := some (setting, none) }
      | '=' :: value => given.give setting (some (String.ofList value))
      | value => given.give setting (some (String.ofList value))

end Given

/-! ### Words -/

inductive Word where
  /-- Two dashes, after which no word is a flag. -/
  | dashes
  | long (name : String) (attached : Option String)
  | row (flags : List Char)
  | plain

/-- The text before the first equals sign and the one after it. -/
def splitValue (cs : List Char) : String × Option String :=
  match cs.span (· ≠ '=') with
  | (name, _ :: value) => (String.ofList name, some (String.ofList value))
  | (name, []) => (String.ofList name, none)

def Word.of (word : String) : Word :=
  match word.toList with
  | ['-', '-'] => .dashes
  | '-' :: '-' :: rest => let (name, attached) := splitValue rest; .long name attached
  | ['-'] => .plain
  | '-' :: rest => .row rest
  | _ => .plain

/-- What a word that is no flag and no value means. -/
def stray : Option Verb → Stop
  | none => .unknownVerb
  | some _ => .unknownArgument

/-- What a word after two dashes means: a verb does not stand there. -/
def strayAfterDashes (verb : Option Verb) (word : String) : Stop :=
  if (Verb.ofName? word).isSome || word = "help" then .unknownArgument else stray verb

/-- Help on at most one verb, help itself included. -/
def helpOn : List String → Stop
  | [] => .help
  | [word] => if (Verb.ofName? word).isSome || word = "help" then .help else .unknownVerb
  | _ => .unknownVerb

/-- Reads a side up to its end, which before the verb is the verb. -/
def side (verb : Option Verb) (given : Given) :
    List String → Except Stop (Given × Option (Verb × List String))
  | [] => do return (← given.settle, none)
  | word :: rest =>
    match verb, Verb.ofName? word with
    | none, some found => do return (← given.settle, some (found, rest))
    | _, _ =>
      if verb = none ∧ word = "help" then .error (helpOn rest)
      else match Word.of word with
        | .dashes =>
          match rest with
          | [] => do return (← given.settle, none)
          | next :: _ => .error (strayAfterDashes verb next)
        | .long name attached => do side verb (← given.long verb name attached) rest
        | .row flags => do side verb (← given.row verb flags) rest
        | .plain =>
          match given.pending with
          | some (setting, none) => side verb { given with pending := some (setting, word) } rest
          | _ => .error (stray verb)

/-! ### The whole line -/

/-- Takes the settings that were not given from the environment. -/
def fill (environment : String → Option String) (given : Given) :
    List Setting → Except Stop Given
  | [] => .ok given
  | setting :: rest =>
    match given.value? setting, setting.environmentName?.bind environment with
    | none, some value => do fill environment (← given.give setting (some value)) rest
    | _, _ => fill environment given rest

/-- Quiet and verbose exclude each other within a side. -/
def checkConflict (given : Given) : Except Stop Unit :=
  if given.quiet && given.verbose then .error .conflict else .ok ()

def path (given : Given) (setting : Setting) : Except Stop Path :=
  match given.value? setting with
  | some value => .ok ⟨value⟩
  | none => .error .missingSetting

def command (given : Given) : Verb → Except Stop Command
  | .validate => do return .validate (← path given .config)
  | .generate => do
    return .generate (← path given .config) (← path given .out)
      ((given.value? .fragments).map Path.mk)
  | .normalize => do
    return .normalize (← path given .config)
      (((given.value? .format).bind Format.ofName?).getD .yaml)

/-- The request of a command line in an environment. -/
def request (environment : String → Option String) (arguments : List String) :
    Except Stop Request := do
  let (before, found) ← side none {} arguments
  match found with
  | none => .error (if before.isEmpty then .nothingAsked else .missingVerb)
  | some (verb, rest) =>
    let (after, _) ← side (some verb) {} rest
    let after ← fill environment after (settings (some verb))
    checkConflict after
    let command ← command after verb
    checkConflict before
    return ⟨command, ⟨before.quiet || after.quiet, before.verbose || after.verbose⟩⟩

/-! ### Answers -/

/-- The version text of the program, or of a verb. -/
def versionText : Option Verb → String
  | none => "color-rules 0.1.0\n"
  | some verb => "color-rules-" ++ verb.name ++ " 0.1.0\n"

/-- Only help and the version that were asked for leave no failure. -/
def Stop.exitCode : Stop → Nat
  | help | version _ => 0
  | _ => 2

end Arguments

end QualityBands
