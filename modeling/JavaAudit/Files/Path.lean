import JavaAudit.Text.Search

/-!
# Paths

A path is a text whose names are separated by slashes. It is written in normal form without empty names
and without names that mean "here"; a name that means "one up" stays, because it can be undone only
where the directory before it is known. Two slashes at the start, and no more than two, are kept.
-/

namespace JavaAudit.Path

/-- The name that means "here". -/
def here : String := "."

/-- The name that means "one up". -/
def up : String := ".."

/-- The character that no path may contain. -/
def nul : Char := Char.ofNat 0

/-- Does a path contain the character that none may contain? -/
def hasNul (path : String) : Bool := path.toList.contains nul

/-- The number of bytes that a path may have. -/
def byteLimit : Nat := 4095

/-- The number of bytes that one name in a path may have. -/
def nameByteLimit : Nat := 255

/-- Is a path too long to be looked up? -/
def isTooLong (path : String) : Bool := decide (byteLimit < path.utf8ByteSize)

/-- All names between slashes, empty ones included. -/
def names (path : String) : List String := Text.split '/' path

/-- The names that lead somewhere. -/
def steps (path : String) : List String :=
  (names path).filter fun name => name != "" && name != here

/-- The slashes that a path starts with, in normal form. -/
def root (path : String) : String :=
  match path.toList with
  | '/' :: '/' :: '/' :: _ => "/"
  | '/' :: '/' :: _ => "//"
  | '/' :: _ => "/"
  | _ => ""

def isAbsolute (path : String) : Bool := path.toList.head? == some '/'

/-- The text of a path with these slashes at the start and these names. -/
def ofSteps (root : String) (steps : List String) : String :=
  if root.isEmpty && steps.isEmpty then here else root ++ "/".intercalate steps

/-- The normal form of a path. -/
def normal (path : String) : String := ofSteps (root path) (steps path)

/-- A path continued by more names. -/
def extend (path : String) (names : List String) : String :=
  ofSteps (root path) (steps path ++ names)

/-! ## Absolute paths -/

/-- An absolute path in which nothing is left to undo. -/
structure Absolute where
  /-- Does it start with two slashes? -/
  doubled : Bool
  names : List String
  deriving DecidableEq, Repr

namespace Absolute

def text (p : Absolute) : String := ofSteps (if p.doubled then "//" else "/") p.names

/-- The directory that a path lies in; the topmost one lies in itself. -/
def parent (p : Absolute) : Absolute := { p with names := p.names.dropLast }

def child (p : Absolute) (name : String) : Absolute := { p with names := p.names ++ [name] }

/-- A path and everything that it lies in, from the inside out. -/
def upward (p : Absolute) : List Absolute :=
  (List.range (p.names.length + 1)).map fun n =>
    { p with names := p.names.take (p.names.length - n) }

end Absolute

/-- Take one more step, where "one up" removes the last name. -/
def follow (names : List String) (step : String) : List String :=
  if step = up then names.dropLast else names ++ [step]

/-- Names up to the first NUL character; a name that it starts disappears. -/
def beforeNul : List String → List String
  | [] => []
  | name :: rest =>
    if hasNul name then
      [String.ofList (name.toList.takeWhile (· != nul))].filter fun part => !part.isEmpty
    else name :: beforeNul rest

/-- The absolute form of a path, seen from a working directory. It ends before a NUL character. -/
def absolute (workingDirectory : List String) (path : String) : Absolute :=
  let start := if isAbsolute path then [] else workingDirectory
  ⟨root path == "//", beforeNul ((steps path).foldl follow start)⟩

end JavaAudit.Path
