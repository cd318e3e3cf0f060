import QualityBands.Command.Arguments
import QualityBands.Command.Calls

/-!
The program: arguments and environment in, files and texts out.
-/

namespace QualityBands.Program

def usage : String :=
  "Turns a quality-threshold color rules YAML file into copy/paste-ready HTML snippets for the " ++
  "data quality report template.\n\n" ++
  "Usage: color-rules [-q | -v] <COMMAND>\n\n" ++
  "Commands:\n" ++
  "  validate --config <FILE>\n" ++
  "  generate --config <FILE> --out <DIRECTORY> [--write-fragments <FILE>]\n" ++
  "  normalize --config <FILE> [-f yaml|json]\n"

def stopMessage : Arguments.Stop → String
  | .help | .nothingAsked => usage
  | .version verb => Arguments.versionText verb
  | .missingVerb => "error: a command is required\n"
  | .unknownVerb => "error: unrecognized command\n"
  | .unknownArgument => "error: unexpected argument\n"
  | .missingSetting => "error: a required argument was not provided\n"
  | .invalidValue => "error: invalid value\n"
  | .unwantedValue => "error: a value was not expected\n"
  | .conflict => "error: an argument cannot be used twice or with another one\n"

def reportText (report : Report) : String :=
  let line := fun (label : String) (text : Option String) =>
    match text with
    | some text => label ++ text ++ "\n"
    | none => ""
  line "" report.code ++ line "error: " report.message ++ line "help: " report.help

/-- What a failure of the system says. -/
def cause : IO.Error → String
  | .alreadyExists _ code text | .noFileOrDirectory _ code text | .inappropriateType _ code text
  | .permissionDenied _ code text | .invalidArgument _ code text | .resourceExhausted _ code text
  | .otherError code text => text ++ " (os error " ++ toString code ++ ")"
  | e => toString e

/-- Tells a failure by its kind where the program needs it. -/
def fileError : IO.Error → FileError
  | .noFileOrDirectory .. => .notFound
  | e => .other (cause e)

def succeeds (act : IO Unit) : IO Bool := do
  try act; return true
  catch _ => return false

def failure? (act : IO Unit) : IO (Option FileError) := do
  try act; return none
  catch e => return some (fileError e)

/-- The calls of the program as the operating system has them. -/
def calls : Calls IO where
  stands path := succeeds (discard (IO.FS.realPath path.text))
  isDirectory path := succeeds (discard (IO.FS.realPath (path.child ".").text))
  read path := do
    try return .ok (← IO.FS.readBinFile path.text)
    catch e => return .error (fileError e)
  makeDirectory path := failure? (IO.FS.createDir path.text)
  write path text := failure? (IO.FS.writeFile path.text text)
  print text := do (← IO.getStdout).putStr text
  note text := do (← IO.getStderr).putStr text

def environmentNames : List String :=
  (Verb.all.flatMap fun verb => Arguments.settings (some verb)).filterMap (·.environmentName?)

def start (arguments : List String) : IO UInt32 := do
  let environment ← environmentNames.mapM fun name => return (name, ← IO.getEnv name)
  match Arguments.request (fun name => (environment.lookup name).join) arguments with
  | .error stop =>
    let stream ← if stop.exitCode = 0 then IO.getStdout else IO.getStderr
    stream.putStr (stopMessage stop)
    return stop.exitCode.toUInt32
  | .ok request =>
    let failure ← calls.perform request
    if let some report := failure then (← IO.getStderr).putStr (reportText report)
    return (exitStatus failure).toUInt32

end QualityBands.Program

def main (arguments : List String) : IO UInt32 := QualityBands.Program.start arguments
