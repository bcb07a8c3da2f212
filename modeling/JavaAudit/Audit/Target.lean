import JavaAudit.Audit.Walk
import JavaAudit.Files.Basic
import JavaAudit.Settings.Basic

/-!
# Auditing files

The target of an audit is a Java file, or a directory of which all Java files are audited. A file that
cannot be read is logged and leaves the other files alone. A target that is too long to be looked up is
not audited at all.
-/

namespace JavaAudit

/-- A parser of Java: from a source text to the nodes of its syntax tree. -/
abbrev JavaParser := String → Array Node

/-- The result of auditing a target. -/
structure TargetAudit where
  audit : Audit
  /-- How many files were looked at. -/
  fileCount : Nat
  deriving DecidableEq, Repr

/-- The ending of the names of Java files. -/
def javaSuffix : String := ".java"

/-- Does a name end like that of a Java file? -/
def endsLikeJava (name : String) : Bool := javaSuffix.toList.isSuffixOf name.toList

/-- Is this the path of a Java file? Its name must not consist of the ending alone. -/
def isJavaPath (path : String) : Bool :=
  (Path.steps path).getLast?.any fun name => endsLikeJava name && name != javaSuffix

namespace Files

/-- The ways from a directory to everything below it, ordered by names. -/
def waysBelow (files : Files) (location : List String) : List (List String) :=
  (files.below location).mergeSort fun a b => !decide (b < a)

/-- The directories below a directory. -/
def directoriesBelow (files : Files) (directory : String) (location : List String) : List String :=
  ((files.waysBelow location).filter fun way =>
    files.entry? (location ++ way) = some .directory).map (Path.extend directory)

/-- The Java files below a directory, ordered by their names. Directories with such a name count. -/
def javaPaths (files : Files) (directory : String) (location : List String) : List String :=
  ((files.waysBelow location).filter fun way => way.getLast?.any endsLikeJava).map
    (Path.extend directory)

end Files

namespace Registry

variable (reg : Registry) (parse : JavaParser) (files : Files) (settings : Option Settings)

/-- Audit a source text. The rules share the answers of their lookups. -/
def auditText (path source : String) : Audit :=
  (reg.auditRecalling (.ofTree path (.ofNodes source (parse source))) []).1

/-- Audit one file, unless the settings leave it out. -/
def auditFile (path : String) : Audit :=
  if settings.any (·.excludes path) then .empty
  else match files.read path with
    | .error fault => .logged .error ("Error reading " ++ path ++ ": " ++ fault.message path)
    | .ok content => reg.auditText parse path (Files.lossyText content)

/-- Audit one file by a path that may come from anywhere. A path with a NUL character is refused. -/
def checkedAuditFile (path : String) : Except PathFault Audit :=
  if Path.hasNul path && !settings.any (·.excludes path) then .error ⟨path, .nulInPath⟩
  else .ok (reg.auditFile parse files settings path)

/-- Audit these files, except for those that the settings leave out. -/
def auditFiles (paths : List String) : TargetAudit :=
  let paths := paths.filter fun path => !settings.any (·.excludes path)
  ⟨.concat (paths.map (reg.auditFile parse files settings)), paths.length⟩

/-- Audit all Java files of a directory, in which every directory has to be reached. -/
def auditDirectory (directory : String) : Except PathFault TargetAudit := do
  let location ← (files.locate directory).mapError fun fault => ⟨directory, fault⟩
  match (files.directoriesBelow directory location).find? Path.isTooLong with
  | some path => throw ⟨path, .nameTooLong⟩
  | none => return reg.auditFiles parse files settings (files.javaPaths directory location)

/-- Audit a file or all Java files of a directory. -/
def auditTarget (target : String) : Except PathFault TargetAudit :=
  let path := Path.normal target
  match files.find path with
  | .ok (.file _) =>
    if isJavaPath path then .ok ⟨reg.auditFile parse files settings path, 1⟩
    else .ok ⟨.logged .warning (target ++ " is not a .java file"), 0⟩
  | .ok .directory => reg.auditDirectory parse files settings path
  | .error .nameTooLong => .error ⟨path, .nameTooLong⟩
  | .error _ => .ok ⟨.logged .error (target ++ " does not exist"), 0⟩

end Registry

namespace Settings

/-- The rules that the settings leave on. -/
def registry (settings : Option Settings) : Registry :=
  .builtin (settings.elim [] (·.disabledRules))

end Settings

end JavaAudit
