import JavaAudit.CommandLine.Token

/-!
# Reading the command line

Tokens are acted upon from left to right. The first plain argument is the target; another one is not
understood. Short flags may be joined behind one dash, and the last of them may be a switch that takes
a value. A separator in place of a value takes back what was said with the switch before.
-/

namespace JavaAudit.CommandLine

/-- The form of the report. -/
inductive Format where
  | text
  | json
  deriving DecidableEq, Repr

/-- What the arguments ask for. -/
structure Arguments where
  target : Option String
  format : Format
  outputFile : Option String
  least : Option Severity
  settingsFile : Option String
  listRules : Bool
  noBanner : Bool
  verbose : Bool
  /-- Arguments that were not understood. -/
  extras : List String
  deriving DecidableEq, Repr

/-- Why there is nothing to audit. -/
inductive Stop where
  | help
  | version
  | usage (error : UsageError)
  deriving DecidableEq, Repr

/-! ## Switches that share one dash -/

/-- How an argument with switches ends. -/
inductive Ending where
  | done
  | value (switch : Switch) (value : String)
  /-- The value is the next argument. -/
  | awaiting (switch : Switch)
  deriving DecidableEq, Repr

/-- The flags of one argument, and how it ends. -/
structure Cluster where
  flags : List Switch
  ending : Ending
  deriving DecidableEq, Repr

namespace Cluster

/-- A switch with nothing behind it. -/
def bare (switch : Switch) : Cluster :=
  if switch.takesValue then ⟨[], .awaiting switch⟩ else ⟨[switch], .done⟩

def withFlag (flag : Switch) (c : Cluster) : Cluster := { c with flags := flag :: c.flags }

/-- The short switch of one character. -/
def shortSwitch? (c : Char) : Option Switch := Switch.ofSpelling? (String.ofList ['-', c])

/-- A switch with something behind it. Behind a short flag there may only be more short switches. -/
def attached (short : Bool) (switch : Switch) : List Char → Except UsageError Cluster
  | [] =>
    if switch.takesValue then .ok ⟨[], .value switch ""⟩ else .error (.unexpectedValue switch "")
  | c :: cs =>
    if switch.takesValue then .ok ⟨[], .value switch (String.ofList (c :: cs))⟩
    else match if short then shortSwitch? c else none with
      | none => .error (.unexpectedValue switch (String.ofList (c :: cs)))
      | some next =>
        if cs.isEmpty then .ok ((bare next).withFlag switch)
        else (attached short next cs).map (withFlag switch)

/-- The switches of one argument. -/
def ofSwitch (switch : Switch) (spelling : String) : Option String → Except UsageError Cluster
  | none => .ok (bare switch)
  | some text =>
    attached (!Token.separatorText.toList.isPrefixOf spelling.toList) switch text.toList

end Cluster

/-! ## Acting upon tokens -/

namespace Arguments

/-- Nothing asked for. -/
def none : Arguments where
  target := .none
  format := .text
  outputFile := .none
  least := .none
  settingsFile := .none
  listRules := false
  noBanner := false
  verbose := false
  extras := []

def reject (args : Arguments) (argument : String) : Arguments :=
  { args with extras := args.extras ++ [argument] }

/-- Take a plain argument. -/
def accept (args : Arguments) (argument : String) : Arguments :=
  if args.target.isNone then { args with target := some argument } else args.reject argument

def setFlag (args : Arguments) : Switch → Except Stop Arguments
  | .help => .error .help
  | .version => .error .version
  | .listRules => .ok { args with listRules := true }
  | .noBanner => .ok { args with noBanner := true }
  | .verbose => .ok { args with verbose := true }
  | _ => .ok args

def setValue (args : Arguments) (switch : Switch) (value : String) : Except Stop Arguments :=
  match switch with
  | .format =>
    if value = "text" then .ok { args with format := .text }
    else if value = "json" then .ok { args with format := .json }
    else .error (.usage (.invalidChoice switch value))
  | .leastSeverity =>
    match Severity.all.find? (·.name = value) with
    | some level => .ok { args with least := some level }
    | .none => .error (.usage (.invalidChoice switch value))
  | .outputFile => .ok { args with outputFile := some value }
  | .settingsFile => .ok { args with settingsFile := some value }
  | _ => .ok args

/-- Take back what was said with a switch. -/
def clearValue (args : Arguments) : Switch → Arguments
  | .format => { args with format := .text }
  | .leastSeverity => { args with least := .none }
  | .outputFile => { args with outputFile := .none }
  | .settingsFile => { args with settingsFile := .none }
  | _ => args

/-- Take a value from the same argument as its switch. -/
def setAttached (args : Arguments) (switch : Switch) (value : String) : Except Stop Arguments :=
  if value = Token.separatorText then .ok (args.clearValue switch) else args.setValue switch value

/-- The tokens without a separator at the start. -/
def skipSeparator : List Token → List Token
  | .separator :: rest => rest
  | tokens => tokens

theorem length_skipSeparator_le (tokens : List Token) :
    (skipSeparator tokens).length ≤ tokens.length := by
  unfold skipSeparator
  split <;> simp

/-- Act upon the tokens in turn. A separator directly before or after the target belongs to it. -/
def readTokens (args : Arguments) : List Token → Except Stop Arguments
  | [] => .ok args
  | .plain argument :: rest =>
    if args.target.isNone then (args.accept argument).readTokens (skipSeparator rest)
    else (args.accept argument).readTokens rest
  | .separator :: rest =>
    if args.target.isNone then args.readTokens rest
    else (args.reject Token.separatorText).readTokens rest
  | .unknown argument :: rest => (args.reject argument).readTokens rest
  | .switch switch spelling attached :: rest => do
    let cluster ← (Cluster.ofSwitch switch spelling attached).mapError .usage
    match cluster.ending, rest with
    | .awaiting last, .plain value :: rest =>
      let args ← cluster.flags.foldlM setFlag args
      (← args.setValue last value).readTokens rest
    | .awaiting last, _ => .error (.usage (.missingValue last))
    | .done, rest => (← cluster.flags.foldlM setFlag args).readTokens rest
    | .value last value, rest =>
      let args ← cluster.flags.foldlM setFlag args
      (← args.setAttached last value).readTokens rest
termination_by tokens => tokens.length
decreasing_by
  · exact Nat.lt_succ_of_le (length_skipSeparator_le rest)
  all_goals (simp only [List.length_cons]; omega)

/-- Read the command line. -/
def read (arguments : List String) : Except Stop Arguments := do
  let tokens ← (Token.ofArguments arguments).mapError .usage
  let args ← Arguments.none.readTokens tokens
  if args.extras.isEmpty then return args
  else throw (.usage (.unrecognized args.extras))

end Arguments

end JavaAudit.CommandLine
