/-!
# Values of configuration data

Configuration files hold free-form data: nothing, truth values, numbers, texts, lists and mappings.
A mapping keeps its entries in the order in which they were written, and anything may be a key. Of the
rarer kinds, such as dates, bytes and sets, nothing matters but how they are written, if they can be, and
whether they are empty.
-/

namespace JavaAudit

/-- Why a value cannot be written. -/
inductive WriteFault where
  | tooManyDigits
  | tooDeep
  deriving DecidableEq, Repr

/-- A value of a configuration file. -/
inductive Value where
  | null
  | bool (b : Bool)
  | int (n : Int)
  | float (x : Float)
  | str (s : String)
  /-- A value of a rarer kind: as a text, as messages show it, and whether it is empty. -/
  | other (text shown : String) (empty : Bool)
  /-- A value of a rarer kind that cannot be written, such as a set with a very large number. -/
  | unwritable (fault : WriteFault) (empty : Bool)
  | list (items : List Value)
  | map (entries : List (Value × Value))

instance : Inhabited Value := ⟨.null⟩

namespace Value

/-- Nothing, false, zero and everything empty count as absent. -/
def isEmpty : Value → Bool
  | .null => true
  | .bool b => !b
  | .int n => n == 0
  | .float x => x == 0
  | .str s => s.isEmpty
  | .other _ _ empty => empty
  | .unwritable _ empty => empty
  | .list items => items.isEmpty
  | .map entries => entries.isEmpty

/-- The mapping with these texts as keys. -/
def object (entries : List (String × Value)) : Value :=
  .map (entries.map fun (key, v) => (.str key, v))

/-- Is the value this text? -/
def isText (s : String) : Value → Bool
  | .str t => t = s
  | _ => false

/-- The value under a text of a mapping. -/
def get? (key : String) : Value → Option Value
  | .map entries => (entries.find? fun entry => entry.1.isText key).map (·.2)
  | _ => none

end Value

end JavaAudit
