import JavaAudit.Files.Basic
import JavaAudit.Settings.Reader

/-!
# Finding the settings of a project

The settings file may be named. Otherwise the nearest one counts: the directory of the target is searched
first, then the directory that it lies in, and so on to the top.
-/

namespace JavaAudit

/-- A parser of the data in settings files; it fails on a text that is not well formed. -/
abbrev DataParser := String → Option Value

/-- Why settings cannot be loaded. -/
inductive SettingsFault where
  | notFound (path : String)
  | malformed (path : String)
  | notUtf8 (path : String)
  | invalid (path : String) (problem : SettingsProblem)
  | unwritable (path : String) (fault : WriteFault)

namespace SettingsFault

def message : SettingsFault → String
  | .notFound path => "Config file not found: " ++ path
  | .malformed path => "Cannot read " ++ path
  | .notUtf8 path => "Not a text file: " ++ path
  | .invalid path problem => Settings.complaint (some path) problem
  | .unwritable path fault => path ++ ": " ++ fault.message

/-- Is this a fault that the program complains about? The others make it break off. -/
def isComplaint : SettingsFault → Bool
  | .notFound _ => true
  | .malformed _ => true
  | .notUtf8 _ => false
  | .invalid _ _ => true
  | .unwritable _ _ => false

/-- A fault in the data of a file. -/
def ofRead (path : String) : ReadFault → SettingsFault
  | .problem problem => .invalid path problem
  | .unwritable fault => .unwritable path fault

end SettingsFault

namespace Settings

/-- The names of a settings file, the preferred one first. -/
def fileNames : List String := [".sinkscan.yml", ".sinkscan.yaml"]

/-- The settings that the data of a file hold. -/
def ofData (path : String) (data : Value) : Except SettingsFault Settings :=
  if data.isEmpty then (read (some path) (.map [])).mapError (.ofRead path)
  else match data with
    | .map _ => (read (some path) data).mapError (.ofRead path)
    | _ => .error (.invalid path .notMapping)

/-- The settings in the content of a file. -/
def ofContent (parse : DataParser) (path : String) (content : List UInt8) :
    Except SettingsFault Settings :=
  match Files.text? content with
  | none => .error (.notUtf8 path)
  | some text =>
    match parse text with
    | none => .error (.malformed path)
    | some data => ofData path data

/-- The settings in a file. -/
def ofFile (files : Files) (parse : DataParser) (path : String) : Except SettingsFault Settings :=
  match files.read path with
  | .ok content => ofContent parse path content
  | .error _ => .error (.malformed path)

/-- Where the search for the settings of a target starts. -/
def searchStart (files : Files) (target : String) : Path.Absolute :=
  let place := Path.absolute files.workingDirectory target
  if files.isFile place.text then place.parent else place

/-- The settings file nearest to a target. -/
def discover (files : Files) (target : String) : Option String :=
  let candidates := (searchStart files target).upward.flatMap fun directory =>
    fileNames.map fun name => (directory.child name).text
  candidates.find? files.isFile

/-- Load the settings for a target, from the named file or else from the nearest one. -/
def load (files : Files) (parse : DataParser) (target : String) (named : Option String) :
    Except SettingsFault (Option Settings) :=
  match named.filter fun path => !path.isEmpty with
  | some path =>
    if files.isFile path then (ofFile files parse path).map some else .error (.notFound path)
  | none =>
    match discover files target with
    | some path => (ofFile files parse path).map some
    | none => .ok none

end Settings

end JavaAudit
