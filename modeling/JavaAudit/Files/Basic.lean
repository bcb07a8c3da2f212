import JavaAudit.Files.Path
import JavaAudit.Table
import JavaAudit.Text.Quoted
import JavaAudit.Text.Utf8

/-!
# Files and directories

A file system is a table from locations to files and directories, with a working directory. A location
is the list of names from the top. Everything that a known location lies in is a directory, whether
the table says so or not.

A path is looked up name by name, and every name has to be looked up in a directory: `x/..` fails when
there is no directory `x`, and `x/` fails when `x` is a file. Neither a path nor a name in it may be too
long, and a path with a NUL character is none.
-/

namespace JavaAudit

/-- What stands at a location. -/
inductive FileEntry where
  | directory
  | file (content : List UInt8)
  deriving DecidableEq, Repr

/-- Why a file cannot be read or written. -/
inductive FileFault where
  | missing
  | notDirectory
  | isDirectory
  | nameTooLong
  /-- The path contains a NUL character. -/
  | nulInPath
  deriving DecidableEq, Repr

namespace FileFault

/-- An error of the system, with its number. -/
def systemMessage (number : Nat) (reason path : String) : String :=
  "[Errno " ++ toString number ++ "] " ++ reason ++ ": " ++ Text.quoted path

/-- A fault met at a path. A path with a NUL character never reaches the system. -/
def message (fault : FileFault) (path : String) : String :=
  match fault with
  | .missing => systemMessage 2 "No such file or directory" path
  | .notDirectory => systemMessage 20 "Not a directory" path
  | .isDirectory => systemMessage 21 "Is a directory" path
  | .nameTooLong => systemMessage 36 "File name too long" path
  | .nulInPath => "embedded null byte"

end FileFault

/-- A fault and the path where it was met. -/
structure PathFault where
  path : String
  fault : FileFault
  deriving DecidableEq, Repr

def PathFault.message (f : PathFault) : String := f.fault.message f.path

/-- Files and directories, seen from a working directory. -/
structure Files where
  workingDirectory : List String
  entries : List (List String × FileEntry)

namespace Files

variable (files : Files)

/-- All locations that are known to exist. -/
def locations : List (List String) := files.workingDirectory :: Table.keys files.entries

/-- What stands at a location. -/
def entry? (location : List String) : Option FileEntry :=
  match Table.get? location files.entries with
  | some entry => some entry
  | none => if files.locations.any location.isPrefixOf then some .directory else none

/-! ## Looking up paths -/

/-- Fail unless there is a directory. -/
def requireDirectory (location : List String) : Except FileFault Unit :=
  match files.entry? location with
  | none => .error .missing
  | some (.file _) => .error .notDirectory
  | some .directory => .ok ()

/-- Fail if a name is too long. -/
def requireName (name : String) : Except FileFault Unit :=
  if Path.nameByteLimit < name.utf8ByteSize then .error .nameTooLong else .ok ()

/-- Look up one name in a directory. -/
def step (location : List String) (name : String) : Except FileFault (List String) := do
  files.requireDirectory location
  requireName name
  return if name = "" ∨ name = Path.here then location else Path.follow location name

/-- Fail if a path cannot be looked up at all. -/
def requirePath (path : String) : Except FileFault Unit :=
  if Path.hasNul path then .error .nulInPath
  else if path.isEmpty then .error .missing
  else if Path.isTooLong path then .error .nameTooLong
  else .ok ()

/-- Where a path starts. -/
def startOf (path : String) : List String :=
  if Path.isAbsolute path then [] else files.workingDirectory

/-- The location that a path leads to. -/
def locate (path : String) : Except FileFault (List String) := do
  requirePath path
  (Path.names path).foldlM files.step (files.startOf path)

/-- What a path leads to. -/
def find (path : String) : Except FileFault FileEntry := do
  match files.entry? (← files.locate path) with
  | some entry => return entry
  | none => throw .missing

def isFile (path : String) : Bool :=
  match files.find path with
  | .ok (.file _) => true
  | _ => false

def isDirectory (path : String) : Bool :=
  match files.find path with
  | .ok .directory => true
  | _ => false

/-! ## Reading and writing -/

/-- The content of a file. -/
def read (path : String) : Except FileFault (List UInt8) := do
  match ← files.find path with
  | .file content => return content
  | .directory => throw .isDirectory

/-- Write a file that may not exist yet, in a directory that has to exist. -/
def write (path : String) (content : List UInt8) : Except FileFault Files := do
  requirePath path
  let trimmed := ((Path.names path).reverse.dropWhile (· == "")).reverse
  let directory ← trimmed.dropLast.foldlM files.step (files.startOf path)
  files.requireDirectory directory
  match trimmed.getLast? with
  | none => throw .isDirectory
  | some name =>
    if name = Path.here ∨ name = Path.up ∨ (Path.names path).getLast? = some "" then
      throw .isDirectory
    requireName name
    let location := directory ++ [name]
    if files.entry? location = some .directory then throw .isDirectory
    return { files with entries := Table.put location (.file content) files.entries }

/-- The ways from a location to everything below it. -/
def below (location : List String) : List (List String) :=
  ((files.locations.filter location.isPrefixOf).flatMap fun l =>
    let way := l.drop location.length
    (List.range way.length).map fun n => way.take (n + 1)).eraseDups

/-! ## Text -/

/-- The text of a file, with a replacement for every byte that is not UTF-8. -/
def lossyText (content : List UInt8) : String :=
  String.ofList (Text.Utf8.unifyNewlines (Text.Utf8.lossy content))

/-- The text of a file, without the bytes that are not UTF-8. -/
def readableText (content : List UInt8) : String :=
  String.ofList (Text.Utf8.unifyNewlines (Text.Utf8.dropping content))

/-- The text of a file in UTF-8. -/
def text? (content : List UInt8) : Option String :=
  (Text.Utf8.strict? content).map fun cs => String.ofList (Text.Utf8.unifyNewlines cs)

end Files

end JavaAudit
