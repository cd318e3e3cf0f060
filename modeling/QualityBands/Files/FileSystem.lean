import QualityBands.Files.Path

/-!
Files and directories.

A place is the list of names that leads to it from the root. A file system says what stands at
each place; the newest entry of a place counts, and the root is always a directory. A path is
followed name by name from the root or from the working directory, and each place on the way
has to be a directory. Making a directory and opening a file to write it change what stands at
one place.
-/

namespace QualityBands

inductive FileError where
  | notFound
  | notADirectory
  | isADirectory
  | alreadyExists
  | nameTooLong
  | nulInName
  /-- What the system has against a call for reasons of its own. -/
  | other (text : String)
  deriving DecidableEq

def FileError.message : FileError → String
  | notFound => "No such file or directory (os error 2)"
  | notADirectory => "Not a directory (os error 20)"
  | isADirectory => "Is a directory (os error 21)"
  | alreadyExists => "File exists (os error 17)"
  | nameTooLong => "File name too long (os error 36)"
  | nulInName => "file name contained an unexpected NUL byte"
  | other text => text

abbrev Place := List String

inductive Entry where
  | file (bytes : ByteArray)
  | directory

instance : DecidableEq Entry
  | .file a, .file b =>
    match ByteArray.instDecidableEq a b with
    | isTrue h => isTrue (congrArg Entry.file h)
    | isFalse h => isFalse fun he => h (Entry.file.inj he)
  | .directory, .directory => isTrue rfl
  | .file _, .directory | .directory, .file _ => isFalse nofun

structure FileSystem where
  entries : List (Place × Entry)
  workingDirectory : Place

namespace FileSystem

def entry? (files : FileSystem) (place : Place) : Option Entry :=
  if place = [] then some .directory else files.entries.lookup place

def put (files : FileSystem) (place : Place) (entry : Entry) : FileSystem :=
  { files with entries := (place, entry) :: files.entries }

/-! ### Following a path -/

def longestName : Nat := 255

def longestPath : Nat := 4095

def requireDirectory (files : FileSystem) (place : Place) : Except FileError Unit :=
  match files.entry? place with
  | some .directory => .ok ()
  | some (.file _) => .error .notADirectory
  | none => .error .notFound

/-- One name further: one dot stays, and two dots go back. -/
def step (place : Place) (name : String) : Place :=
  if name = "." then place
  else if name = ".." then place.dropLast
  else place ++ [name]

/-- One name further from a place that is a directory. -/
def follow (files : FileSystem) (place : Place) (name : String) : Except FileError Place := do
  files.requireDirectory place
  if longestName < name.utf8ByteSize then .error .nameTooLong
  else .ok (step place name)

def start (files : FileSystem) (path : Path) : Place :=
  if path.isAbsolute then [] else files.workingDirectory

def checkText (path : Path) : Except FileError Unit :=
  if '\x00' ∈ path.text.toList then .error .nulInName
  else if longestPath < path.text.utf8ByteSize then .error .nameTooLong
  else .ok ()

/-- The place of a path. -/
def locate (files : FileSystem) (path : Path) : Except FileError Place := do
  checkText path
  path.names.foldlM files.follow (files.start path)

/-- What stands at the place of a path. -/
def look (files : FileSystem) (path : Path) : Except FileError Entry := do
  if path.text.isEmpty then .error .notFound
  let place ← files.locate path
  match files.entry? place with
  | none => .error .notFound
  | some (.file bytes) => if path.endsInSlash then .error .notADirectory else .ok (.file bytes)
  | some .directory => .ok .directory

/-! ### Reading -/

/-- What reading the text of a file comes to. -/
inductive Found where
  | nothing
  | unreadable (cause : String)
  | text (source : String)

/-- A file that is no UTF-8 text cannot be read. -/
def Found.ofBytes (bytes : ByteArray) : Found :=
  match String.fromUTF8? bytes with
  | some source => .text source
  | none => .unreadable "stream did not contain valid UTF-8"

/-- The octets of the file at a path. -/
def read (files : FileSystem) (path : Path) : Except FileError ByteArray := do
  match ← files.look path with
  | .directory => .error .isADirectory
  | .file bytes => .ok bytes

/-! ### Changing -/

/-- The directory and the name of a new entry, if the last name of the path can name one. -/
def newName? (files : FileSystem) (path : Path) : Except FileError (Option (Place × String)) := do
  checkText path
  match path.names.getLast? with
  | none => .ok none
  | some name =>
    let place ← path.names.dropLast.foldlM files.follow (files.start path)
    files.requireDirectory place
    .ok (if name = "." ∨ name = ".." then none else some (place, name))

def createDirectory (files : FileSystem) (path : Path) : Except FileError FileSystem := do
  match ← files.newName? path with
  | none => .error .alreadyExists
  | some (above, name) =>
    let place ← files.follow above name
    if (files.entry? place).isSome then .error .alreadyExists
    else .ok (files.put place .directory)

/-- Opens a file to write it: it stands there and is empty, whatever stood in it before. A path
that ends in a slash names a directory, whatever the name in front of it. -/
def openEmpty (files : FileSystem) (path : Path) : Except FileError (Place × FileSystem) := do
  match ← files.newName? path with
  | none => .error .isADirectory
  | some (above, name) =>
    if path.endsInSlash then .error .isADirectory
    else
      let place ← files.follow above name
      match files.entry? place with
      | some .directory => .error .isADirectory
      | _ => .ok (place, files.put place (.file .empty))

end FileSystem

end QualityBands
