import JavaAudit.Text.CharacterClass
import JavaAudit.Text.LetterCase
import JavaAudit.Value.Printer

/-!
# Severity levels

Four levels from `info` to `critical`. A level may be written in any case, with blanks around it.
-/

namespace JavaAudit

/-- How grave a finding is. -/
inductive Severity where
  | info
  | warning
  | error
  | critical
  deriving DecidableEq, Repr

namespace Severity

/-- All levels, gravest last. -/
def all : List Severity := [.info, .warning, .error, .critical]

def name : Severity → String
  | .info => "INFO"
  | .warning => "WARNING"
  | .error => "ERROR"
  | .critical => "CRITICAL"

def rank : Severity → Nat
  | .info => 0
  | .warning => 1
  | .error => 2
  | .critical => 3

/-- Is a level at least as grave as another one? -/
def atLeast (least s : Severity) : Bool := least.rank ≤ s.rank

/-- From this level on a finding makes the audit fail. -/
def failing : Severity := .error

/-- The level with this name, in any case and with blanks around it. -/
def ofText? (text : String) : Option Severity :=
  all.find? fun s => s.name = Text.upperAscii (Text.strip text)

/-- The level that a value names. -/
def ofValue? (v : Value) : Option Severity := ofText? v.text

/-- What is wrong with a value that names no level. -/
def unknownMessage (v : Value) : String :=
  "Unknown severity " ++ v.quoted ++ " (expected one of: " ++ ", ".intercalate (all.map name) ++ ")"

end Severity

end JavaAudit
