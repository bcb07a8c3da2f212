import JavaAudit.Decimal.Shortest
import JavaAudit.Text.Quoted
import JavaAudit.Value.Basic

/-!
# Values as text

`quoted` shows a value inside a message. `text` is what a value means where a text is expected: a text
stands for itself, and so does a value of a rarer kind; any other value stands for what `quoted` shows.

Not every value can be written: a number may have too many digits, and lists and mappings may stand too deep
inside each other. `obstacle?` is what is met first in the way of writing a value.
-/

namespace JavaAudit.Value

mutual

/-- A value as messages show it. -/
def quoted : Value → String
  | .null => "None"
  | .bool b => if b then "True" else "False"
  | .int n => toString n
  | .float x => Decimal.number x
  | .str s => Text.quoted s
  | .other _ shown _ => shown
  | .unwritable _ _ => ""
  | .list items => "[" ++ ", ".intercalate (quotedItems items) ++ "]"
  | .map entries => "\x7b" ++ ", ".intercalate (quotedEntries entries) ++ "\x7d"

def quotedItems : List Value → List String
  | [] => []
  | v :: vs => quoted v :: quotedItems vs

def quotedEntries : List (Value × Value) → List String
  | [] => []
  | (k, v) :: rest => (quoted k ++ ": " ++ quoted v) :: quotedEntries rest

end

/-- A value where a text is expected. -/
def text : Value → String
  | .str s => s
  | .other text _ _ => text
  | v => quoted v

/-! ## Values that cannot be written -/

/-- The most digits of a number that can be written. -/
def digitLimit : Nat := 4300

/-- How deep values may stand inside each other to be written. -/
def depthLimit : Nat := 980

/-- What is in the way of writing a value with room for so many levels. -/
def obstacleWithin : (room : Nat) → Value → Option WriteFault
  | 0, _ => some .tooDeep
  | _ + 1, .int n => if Nat.pow 10 digitLimit ≤ n.natAbs then some .tooManyDigits else none
  | _ + 1, .unwritable fault _ => some fault
  | room + 1, .list items => items.findSome? (obstacleWithin room)
  | room + 1, .map entries =>
    entries.findSome? fun entry => (obstacleWithin room entry.1).or (obstacleWithin room entry.2)
  | _ + 1, _ => none

/-- What is in the way of writing a value, if anything is. -/
def obstacle? (v : Value) : Option WriteFault := obstacleWithin depthLimit v

end JavaAudit.Value

namespace JavaAudit

def WriteFault.message : WriteFault → String
  | .tooManyDigits =>
    "Exceeds the limit (" ++ toString Value.digitLimit ++ " digits) for integer string conversion; " ++
      "use sys.set_int_max_str_digits() to increase the limit"
  | .tooDeep => "maximum recursion depth exceeded while getting the repr of an object"

end JavaAudit
