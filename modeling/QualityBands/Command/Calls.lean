import QualityBands.Command.Plan

/-!
Carrying out a plan.

A plan is carried out by calls to the outside, and nothing else is known of the outside here.
Actions are taken in order until one of them fails.
-/

namespace QualityBands

open FileSystem (Found)

/-- The calls that a program can make; one that may fail gives its error. -/
structure Calls (m : Type → Type) where
  /-- Whether something stands at a path. -/
  stands : Path → m Bool
  isDirectory : Path → m Bool
  read : Path → m (Except FileError ByteArray)
  makeDirectory : Path → m (Option FileError)
  write : Path → String → m (Option FileError)
  print : String → m Unit
  note : String → m Unit

namespace Calls

variable {m : Type → Type} [Monad m] (calls : Calls m)

/-- Reads the text of a file. -/
def find (path : Path) : m Found := do
  if ← calls.stands path then
    match ← calls.read path with
    | .ok bytes => return .ofBytes bytes
    | .error e => return .unreadable e.message
  else return .nothing

/-! ### Directories -/

/-- Forgives that a directory could not be made if it is there. -/
def orPresent (path : Path) : Option FileError → m (Option FileError)
  | none => return none
  | some e => return if ← calls.isDirectory path then none else some e

/-- Makes the first directory of a list, after those that follow it if it has no place yet. -/
def createFrom : List Path → m (Option FileError)
  | [] => return some (.other "failed to create whole tree")
  | path :: above => do
    if path.text.isEmpty then return none
    match ← calls.makeDirectory path with
    | some .notFound =>
      match ← createFrom above with
      | none => calls.orPresent path (← calls.makeDirectory path)
      | failure => return failure
    | failure => calls.orPresent path failure

/-- Makes a directory together with those above it. What was made before a failure stays. -/
def createDirectories (path : Path) : m (Option FileError) := calls.createFrom (path :: path.above)

/-! ### Actions -/

/-- Takes one action, with a report if it fails. -/
def take : Action → m (Option Report)
  | .print text => do calls.print text; return none
  | .note text => do calls.note text; return none
  | .createDirectories path => do
    return (← calls.createDirectories path).map fun e => .notCreated path e.message
  | .write path text => do
    return (← calls.write path text).map fun e => .notWritten path e.message

/-- Takes actions until one fails. -/
def run : List Action → m (Option Report)
  | [] => return none
  | action :: rest => do
    match ← calls.take action with
    | none => run rest
    | failure => return failure

/-- Takes the actions of a plan, with its own report if none of them fails. -/
def carryOut (plan : Plan) : m (Option Report) := do
  return (← calls.run plan.actions).or plan.failure

/-- Does what is asked for, with a report if it fails. -/
def perform (request : Request) : m (Option Report) := do
  calls.carryOut (request.plan (← calls.find request.command.config))

end Calls

/-- The status with which a command ends. -/
def exitStatus : Option Report → Nat
  | none => 0
  | some _ => 1

end QualityBands
