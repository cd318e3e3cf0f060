import QualityBands.Command.Calls

/-!
Commands on a file system.

A session is what a command has brought about so far: the files as they are now, and the two
texts it has put out. Whether a call succeeds depends on the files and on the host, which may
refuse any call and may stop any file from being filled: rights can be missing, and a device
can be full or broken.
-/

namespace QualityBands

/-- What a computer has against the calls of a run, which are known by their number. -/
structure Host where
  /-- Why a call fails before it does anything. -/
  refusal? : Nat → Option FileError
  /-- How many bytes get into a file before the call that fills it fails, and why it does. -/
  limit? : Nat → Option (Nat × FileError)

/-- A computer that has nothing against any call. -/
def Host.willing : Host := ⟨fun _ => none, fun _ => none⟩

structure Session where
  files : FileSystem
  output : String := ""
  notes : String := ""
  /-- How many calls have been made. -/
  calls : Nat := 0

namespace Host

variable {α : Type} (host : Host)

/-- A call that gives what it finds among the files and may change them. -/
def call (act : FileSystem → Except FileError (α × FileSystem)) :
    StateM Session (Except FileError α) := fun session =>
  let later := { session with calls := session.calls + 1 }
  match (host.refusal? session.calls).elim (act session.files) .error with
  | .error e => (.error e, later)
  | .ok (result, files) => (.ok result, { later with files := files })

/-- A call that changes nothing. -/
def ask (look : FileSystem → Except FileError α) : StateM Session (Except FileError α) :=
  host.call fun files => (·, files) <$> look files

/-- Fills the empty file at a place, as far as the host lets it. -/
def fill (place : Place) (bytes : ByteArray) : StateM Session (Option FileError) :=
  fun session =>
    let holding := fun bytes =>
      { session with files := session.files.put place (.file bytes), calls := session.calls + 1 }
    match (host.limit? session.calls).filter (·.1 < bytes.size) with
    | none => (none, holding bytes)
    | some (count, e) => (some e, holding (bytes.extract 0 count))

/-- Writes a file: opens it and then fills it. -/
def write (path : Path) (text : String) : StateM Session (Option FileError) := do
  match ← host.call (·.openEmpty path) with
  | .error e => return some e
  | .ok place => host.fill place text.toUTF8

/-- The calls of a program as they go on a computer. -/
def calls : Calls (StateM Session) where
  stands path := return (← host.ask (·.look path)) matches .ok _
  isDirectory path := return (← host.ask (·.look path)) matches .ok .directory
  read path := host.ask (·.read path)
  makeDirectory path := do
    match ← host.call fun files => ((), ·) <$> files.createDirectory path with
    | .ok () => return none
    | .error e => return some e
  write := host.write
  print text := modify fun session => { session with output := session.output ++ text }
  note text := modify fun session => { session with notes := session.notes ++ text }

end Host

/-- A command on a file system. -/
def Request.run (request : Request) (files : FileSystem) (host : Host := .willing) :
    Session × Option Report :=
  let (failure, session) := (host.calls.perform request).run { files := files }
  (session, failure)

end QualityBands
