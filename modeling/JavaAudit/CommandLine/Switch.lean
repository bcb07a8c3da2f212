import JavaAudit.Finding.Severity
import JavaAudit.Text.Quoted

/-!
# Switches of the command line

A switch is either a flag or takes a value. Some have a short spelling with one dash beside the long
one with two. The order of the spellings is the order in which complaints name them.
-/

namespace JavaAudit.CommandLine

/-- What may be asked for on the command line. -/
inductive Switch where
  | help
  | format
  | outputFile
  | leastSeverity
  | settingsFile
  | listRules
  | noBanner
  | verbose
  | version
  deriving DecidableEq, Repr

namespace Switch

/-- All spellings. -/
def spellings : List (String × Switch) :=
  [("-h", .help), ("--help", .help), ("--output", .format), ("-o", .outputFile),
    ("--output-file", .outputFile), ("--min-severity", .leastSeverity), ("--config", .settingsFile),
    ("--list-rules", .listRules), ("--no-banner", .noBanner), ("-v", .verbose),
    ("--verbose", .verbose), ("--version", .version)]

/-- The switch with this spelling. -/
def ofSpelling? (spelling : String) : Option Switch := spellings.lookup spelling

/-- Does the switch take a value? -/
def takesValue : Switch → Bool
  | .format | .outputFile | .leastSeverity | .settingsFile => true
  | .help | .listRules | .noBanner | .verbose | .version => false

/-- A switch by all its spellings. -/
def name (s : Switch) : String :=
  "/".intercalate ((spellings.filter (·.2 = s)).map (·.1))

/-- The values to choose from, where there is a choice. -/
def choices : Switch → List String
  | .format => ["text", "json"]
  | .leastSeverity => Severity.all.map Severity.name
  | _ => []

end Switch

/-- What is wrong with the arguments. -/
inductive UsageError where
  | ambiguous (argument : String) (spellings : List String)
  | unexpectedValue (switch : Switch) (value : String)
  | missingValue (switch : Switch)
  | invalidChoice (switch : Switch) (value : String)
  | unrecognized (arguments : List String)
  | missingTarget
  deriving DecidableEq, Repr

namespace UsageError

/-- A complaint about one switch. -/
def about (switch : Switch) (complaint : String) : String :=
  "argument " ++ switch.name ++ ": " ++ complaint

def message : UsageError → String
  | .ambiguous argument spellings =>
    "ambiguous option: " ++ argument ++ " could match " ++ ", ".intercalate spellings
  | .unexpectedValue switch value =>
    about switch ("ignored explicit argument " ++ Text.quoted value)
  | .missingValue switch => about switch "expected one argument"
  | .invalidChoice switch value =>
    about switch ("invalid choice: " ++ Text.quoted value ++ " (choose from "
      ++ ", ".intercalate (switch.choices.map Text.quoted) ++ ")")
  | .unrecognized arguments => "unrecognized arguments: " ++ " ".intercalate arguments
  | .missingTarget => "the following arguments are required: target"

end UsageError

end JavaAudit.CommandLine
