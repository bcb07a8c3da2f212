import JavaAudit.Finding.Severity
import JavaAudit.Finding.Suppression
import JavaAudit.Text.Glob

/-!
# Settings of a project

A project may switch rules off, set the severity of rules, leave out files and choose how grave a
finding has to be.
-/

namespace JavaAudit

/-- The settings of a project. -/
structure Settings where
  /-- Ids of the rules that are switched off. -/
  disabledRules : List String
  /-- The severity of rules that differs from their own. -/
  severities : List (String × Severity)
  /-- Patterns of the paths that are left out. -/
  exclusions : List String
  /-- The keyword of a comment that silences its line. -/
  keyword : String
  /-- The least severity that is reported. -/
  least : Severity
  /-- The file that the settings were read from. -/
  source : Option String
  deriving DecidableEq, Repr

namespace Settings

/-- Everything is on and everything is reported. -/
def standard : Settings where
  disabledRules := []
  severities := []
  exclusions := []
  keyword := Suppression.defaultKeyword
  least := .info
  source := none

/-- A pattern without the slashes at its end. -/
def withoutSlashes (pattern : String) : String :=
  String.ofList (pattern.toList.reverse.dropWhile (· == '/')).reverse

/-- Does a pattern leave out a path? It stands for the whole path or for the file name; a pattern
with a slash at its end also names a directory anywhere on the path. -/
def patternExcludes (path pattern : String) : Bool :=
  Text.Glob.isMatch pattern path || Text.Glob.isMatch pattern (Text.lastPiece '/' path)
    || (pattern.toList.getLast? == some '/' && (Text.split '/' path).contains (withoutSlashes pattern))

/-- Is a path left out? -/
def excludes (s : Settings) (path : String) : Bool := s.exclusions.any (patternExcludes path)

end Settings

end JavaAudit
