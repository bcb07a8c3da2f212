import JavaAudit.CommandLine.Switch
import JavaAudit.Text.CharacterClass
import JavaAudit.Text.Search

/-!
# Arguments by their looks

Before any argument is acted upon, each is told apart by its looks: a switch, a plain argument, or a
switch that does not exist. A long switch may be cut short as long as it stays unique, and its value may
follow an equals sign; the value of a short switch may follow directly. After `--` everything is a
plain argument. A dash alone, a negative number and anything with a space are plain arguments too.
-/

namespace JavaAudit.CommandLine

/-- An argument, told apart by its looks. -/
inductive Token where
  | plain (argument : String)
  /-- `--`, after which there are no switches. -/
  | separator
  /-- A switch, with the text behind it in the same argument. -/
  | switch (switch : Switch) (spelling : String) (attached : Option String)
  /-- It looks like a switch, but there is none. -/
  | unknown (argument : String)
  deriving DecidableEq, Repr

namespace Token

def separatorText : String := "--"

/-- A dash, then digits, maybe with a point before the last of them. A line break may follow. -/
def isNegativeNumber (argument : String) : Bool :=
  match argument.toList with
  | '-' :: cs =>
    let cs := if cs.getLast? = some '\n' then cs.dropLast else cs
    match cs.dropWhile Text.isDigit with
    | [] => !cs.isEmpty
    | '.' :: decimals => !decimals.isEmpty && decimals.all Text.isDigit
    | _ => false
  | _ => false

/-- What a long switch that is cut short may stand for. -/
def longReadings (argument : String) : List Token :=
  let (start, value) := Text.cutFirst '=' argument
  (Switch.spellings.filter fun (spelling, _) => start.toList.isPrefixOf spelling.toList).map
    fun (spelling, s) => .switch s spelling value

/-- What a short switch with something directly behind it may stand for. -/
def shortReadings (argument : String) : List Token :=
  let spelling := String.ofList (argument.toList.take 2)
  match Switch.ofSpelling? spelling with
  | some s => [.switch s spelling (some (String.ofList (argument.toList.drop 2)))]
  | none => []

/-- What an argument that is not the exact spelling of a switch may stand for. -/
def readings (argument : String) : List Token :=
  if separatorText.toList.isPrefixOf argument.toList then longReadings argument
  else shortReadings argument

/-- The spelling in a reading. -/
def spelling : Token → String
  | .switch _ spelling _ => spelling
  | _ => ""

/-- An argument that starts with a dash and has more than that. -/
def ofDashed (argument : String) : Except UsageError Token :=
  let (start, value) := Text.cutFirst '=' argument
  match Switch.ofSpelling? start, value with
  | some s, some v => .ok (.switch s start (some v))
  | _, _ =>
    match readings argument with
    | [] =>
      if isNegativeNumber argument || argument.toList.contains ' ' then .ok (.plain argument)
      else .ok (.unknown argument)
    | [reading] => .ok reading
    | several => .error (.ambiguous argument (several.map spelling))

/-- Tell an argument apart by its looks. -/
def ofArgument (argument : String) : Except UsageError Token :=
  match Switch.ofSpelling? argument with
  | some s => .ok (.switch s argument none)
  | none =>
    match argument.toList with
    | '-' :: _ :: _ => ofDashed argument
    | _ => .ok (.plain argument)

/-- Tell all arguments apart. -/
def ofArguments : List String → Except UsageError (List Token)
  | [] => .ok []
  | argument :: rest =>
    if argument = separatorText then .ok (.separator :: rest.map .plain)
    else do
      let token ← ofArgument argument
      return token :: (← ofArguments rest)

end Token

end JavaAudit.CommandLine
