import QualityBands.Command.Basic
import QualityBands.Files.FileSystem
import QualityBands.Json
import QualityBands.Rules.Outline
import QualityBands.Rules.Source
import QualityBands.Rules.Validation
import QualityBands.Snippets
import QualityBands.Yaml.Printing

/-!
What a command does.

The rules file is read first. What was found there decides everything that follows: the actions
to take in order, and the report to end with if the rules cannot be used. No action can make the
rules unusable, so a plan with a report changes no file.
-/

namespace QualityBands

open FileSystem (Found)

inductive Action where
  | print (text : String)
  /-- Says something beside the output. -/
  | note (text : String)
  | createDirectories (path : Path)
  | write (path : Path) (text : String)
  deriving DecidableEq

structure Plan where
  actions : List Action
  failure : Option Report
  deriving DecidableEq

namespace Plan

/-! ### Reading the rules -/

def load (config : Path) : Found → Except RulesError Reading
  | .nothing => .error (.notFound config.text)
  | .unreadable cause => .error (.unreadable config.text cause)
  | .text source => do Rules.read (← Rules.parse source)

/-! ### Status lines -/

/-- Actions that are taken only if a condition holds. -/
def only (condition : Bool) (actions : List Action) : List Action :=
  if condition then actions else []

def dialectText (reading : Reading) : String :=
  "Loaded config schema: " ++ reading.dialect.name ++ "\n"

def sizeText (rules : Rules) : String :=
  "  " ++ toString rules.dimensions.length ++ " dimension(s), " ++
    toString rules.cards.length ++ " error card(s)\n"

def omittedText (key : String) : String :=
  "  ! no variable_count for " ++ key ++ ", error card omitted\n"

/-- What is printed about the rules that were read. -/
def status (verbosity : Verbosity) (reading : Reading) : List Action :=
  only (!verbosity.quiet) [.print ("→ " ++ dialectText reading)] ++
    only verbosity.verbose (.print (sizeText reading.rules) ::
      reading.omitted.map fun key => .print (omittedText key))

/-- What is said beside the output about the rules that were read. -/
def notes (verbosity : Verbosity) (reading : Reading) : List Action :=
  only verbosity.verbose (.note (dialectText reading) ::
    reading.omitted.map fun key => .note (omittedText key))

/-! ### Plans -/

def failed (report : Report) : Plan := ⟨[], some report⟩

/-- Reads rules, tells their status and goes on if they are valid. -/
def onValid (verbosity : Verbosity) (config : Path) (found : Found)
    (next : Rules → List Action) : Plan :=
  match load config found with
  | .error e => failed e.report
  | .ok reading =>
    match reading.rules.validate with
    | .error e => ⟨status verbosity reading, some e.report⟩
    | .ok () => ⟨status verbosity reading ++ next reading.rules, none⟩

def validate (verbosity : Verbosity) (config : Path) (found : Found) : Plan :=
  onValid verbosity config found fun _ => [.print "✓ OK: config passes basic validation\n"]

/-- Writes a file and tells so. -/
def writeSection (verbosity : Verbosity) (path : Path) (text : String) : List Action :=
  .write path text :: only verbosity.verbose [.print ("  wrote " ++ path.text ++ "\n")]

/-- The directory that has to be made for a file; the empty path is no directory to make. -/
def makeParent (path : Path) : List Action :=
  match path.parent? with
  | some parent => only (!parent.text.isEmpty) [.createDirectories parent]
  | none => []

def writeFragments (verbosity : Verbosity) (path : Path) (text : String) : List Action :=
  makeParent path ++ .write path text ::
    only (!verbosity.quiet) [.print ("✓ Wrote fragments to: " ++ path.text ++ "\n")]

def deliver (verbosity : Verbosity) (out : Path) (fragments : Option Path)
    (snippets : Snippets) : List Action :=
  .createDirectories out ::
    writeSection verbosity (out.child Snippets.dimensionFile) snippets.dimensionSection ++
    writeSection verbosity (out.child Snippets.errorFile) snippets.errorSection ++
    (match fragments with
      | some path => writeFragments verbosity path snippets.fragmentsDocument
      | none => []) ++
    only (!verbosity.quiet) [.print ("✓ Wrote snippets to: " ++ out.text ++ "\n")]

def generate (verbosity : Verbosity) (config out : Path) (fragments : Option Path)
    (found : Found) : Plan :=
  onValid verbosity config found fun rules =>
    deliver verbosity out fragments (Snippets.render rules)

def canonicalText (rules : Rules) : Format → String
  | .yaml => Yaml.Printing.print rules.outline
  | .json => Json.pretty rules.outline ++ "\n"

/-- Prints the rules; status lines stay out of the output. -/
def normalize (verbosity : Verbosity) (config : Path) (format : Format) (found : Found) : Plan :=
  match load config found with
  | .error e => failed e.report
  | .ok reading =>
    ⟨notes verbosity reading ++ [.print (canonicalText reading.rules format)], none⟩

end Plan

/-- The file that a command reads. -/
def Command.config : Command → Path
  | validate config => config
  | generate config _ _ => config
  | normalize config _ => config

/-- The plan of a request, given what stands at the path of the rules. -/
def Request.plan (request : Request) (found : Found) : Plan :=
  match request.command with
  | .validate config => Plan.validate request.verbosity config found
  | .generate config out fragments => Plan.generate request.verbosity config out fragments found
  | .normalize config format => Plan.normalize request.verbosity config format found

/-- What tells that a directory could not be made. -/
def Report.notCreated (path : Path) (cause : String) : Report :=
  { message := "Failed to create " ++ path.text ++ ": " ++ cause }

/-- What tells that a file could not be written. -/
def Report.notWritten (path : Path) (cause : String) : Report :=
  { message := "Failed to write " ++ path.text ++ ": " ++ cause }

end QualityBands
