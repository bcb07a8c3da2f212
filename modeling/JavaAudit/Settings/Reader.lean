import JavaAudit.Rule.Registry
import JavaAudit.Settings.Basic
import JavaAudit.Value.Printer

/-!
# Reading settings

Settings are a mapping with up to five keys, all of them optional. A list or mapping that is absent or
empty in any way (nothing, false, zero, an empty text) sets nothing. Rule ids and patterns are the
texts of the given values, whatever their kind; of two severities for one rule the later counts.

A value that cannot be written has no text. Where the text is needed reading breaks off, except that a
severity with too many digits is a severity that is not known.
-/

namespace JavaAudit

/-- What is wrong with the data of a settings file. -/
inductive SettingsProblem where
  | notMapping
  | listExpected (key : String)
  | mappingExpected (key : String)
  | unknownRule (key : String) (id : Value)
  | unknownSeverity (level : Value)
  | longSeverity

/-- Why data cannot be read. -/
inductive ReadFault where
  /-- The data are wrong, and the program can say so. -/
  | problem (problem : SettingsProblem)
  /-- A value without a text breaks reading off. -/
  | unwritable (fault : WriteFault)

def SettingsProblem.message : SettingsProblem → String
  | .notMapping => "top level must be a mapping"
  | .listExpected key => key ++ " must be a list"
  | .mappingExpected key => key ++ " must be a mapping"
  | .unknownRule key id => "unknown rule id " ++ id.quoted ++ " in " ++ key
  | .unknownSeverity level => Severity.unknownMessage level
  | .longSeverity => WriteFault.message .tooManyDigits

namespace Settings

def disabledKey : String := "disabled_rules"
def severitiesKey : String := "severity_overrides"
def exclusionsKey : String := "exclude_paths"
def keywordKey : String := "suppression_keyword"
def leastKey : String := "min_severity"

/-- The value under a key, unless it is absent or empty. -/
def given? (data : Value) (key : String) : Option Value :=
  (data.get? key).filter fun v => !v.isEmpty

/-- The text of a value. -/
def written (v : Value) : Except ReadFault String :=
  match v.obstacle? with
  | some fault => .error (.unwritable fault)
  | none => .ok v.text

def listUnder (data : Value) (key : String) : Except ReadFault (List Value) :=
  match given? data key with
  | none => .ok []
  | some (.list items) => .ok items
  | some _ => .error (.problem (.listExpected key))

def entriesUnder (data : Value) (key : String) : Except ReadFault (List (Value × Value)) :=
  match given? data key with
  | none => .ok []
  | some (.map entries) => .ok entries
  | some _ => .error (.problem (.mappingExpected key))

/-- The id of a rule, which has to be one of the rules that come with the program. -/
def ruleId (key : String) (v : Value) : Except ReadFault String := do
  let id ← written v
  if id ∈ Rule.builtinIds then return id else throw (.problem (.unknownRule key v))

def severity (v : Value) : Except ReadFault Severity :=
  match v.obstacle? with
  | some .tooDeep => .error (.unwritable .tooDeep)
  | some .tooManyDigits => .error (.problem .longSeverity)
  | none =>
    match Severity.ofValue? v with
    | some level => .ok level
    | none => .error (.problem (.unknownSeverity v))

/-- The severity that an entry sets for a rule. -/
def ruleSeverity (entry : Value × Value) : Except ReadFault (String × Severity) := do
  let id ← ruleId severitiesKey entry.1
  let level ← severity entry.2
  return (id, level)

/-- Read a mapping; `source` is the file that it comes from. -/
def read (source : Option String) (data : Value) : Except ReadFault Settings := do
  let disabled ← (← listUnder data disabledKey).mapM (ruleId disabledKey)
  let severities ← (← entriesUnder data severitiesKey).mapM ruleSeverity
  let exclusions ← (← listUnder data exclusionsKey).mapM written
  let keyword ← written ((data.get? keywordKey).getD (.str Suppression.defaultKeyword))
  let least ← severity ((data.get? leastKey).getD (.str Severity.info.name))
  return {
    disabledRules := disabled
    severities := Table.ofEntries severities
    exclusions := exclusions
    keyword := keyword
    least := least
    source := source }

/-- How a complaint names where the data comes from. -/
def placeName (source : Option String) : String :=
  match source with
  | some path => if path.isEmpty then "config" else path
  | none => "config"

/-- A problem with the place where it was met. -/
def complaint (source : Option String) (problem : SettingsProblem) : String :=
  placeName source ++ ": " ++ problem.message

end Settings

end JavaAudit
