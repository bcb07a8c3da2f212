import JavaAudit.Table
import JavaAudit.Value.Printer

/-!
# Values in JSON

`pretty` writes a value with one entry a line, two spaces a level, in ASCII only; where JSON has no
form for a value, and for keys, it writes their text. `read?` reads JSON
text back into a value: mappings keep the order of their entries, a repeated key keeps its first place
and its last value, and a number with a point or an exponent is a `float`.
-/

namespace JavaAudit.Value

/-! ## Writing -/

/-- A UTF-16 unit as an escape. -/
def unitEscape (n : Nat) : List Char := '\\' :: 'u' :: Text.hex 4 n

/-- One character inside a JSON string, in ASCII. -/
def jsonChar (c : Char) : List Char :=
  match c with
  | '"' => ['\\', '"']
  | '\\' => ['\\', '\\']
  | '\n' => ['\\', 'n']
  | '\r' => ['\\', 'r']
  | '\t' => ['\\', 't']
  | '\x08' => ['\\', 'b']
  | '\x0c' => ['\\', 'f']
  | c =>
    if 0x20 ≤ c.toNat && c.toNat < 0x7F then [c]
    else if c.toNat < 0x10000 then unitEscape c.toNat
    else unitEscape (0xD800 + (c.toNat - 0x10000) / 0x400) ++
      unitEscape (0xDC00 + (c.toNat - 0x10000) % 0x400)

/-- A JSON string. -/
def jsonString (s : String) : String :=
  String.ofList ('"' :: (s.toList.flatMap jsonChar ++ ['"']))

/-- The start of a line at this level. -/
def newline (level : Nat) : String := String.ofList ('\n' :: List.replicate (2 * level) ' ')

mutual

/-- A value at the given level of indentation. -/
def prettyAt (level : Nat) : Value → String
  | .null => "null"
  | .bool b => if b then "true" else "false"
  | .int n => toString n
  | .float x => Decimal.number x
  | .str s => jsonString s
  | .other text _ _ => jsonString text
  | .unwritable _ _ => jsonString ""
  | .list [] => "[]"
  | .list items =>
    "[" ++ ",".intercalate (prettyItems (level + 1) items) ++ newline level ++ "]"
  | .map [] => "\x7b\x7d"
  | .map entries =>
    "\x7b" ++ ",".intercalate (prettyEntries (level + 1) entries) ++ newline level ++ "\x7d"

def prettyItems (level : Nat) : List Value → List String
  | [] => []
  | v :: vs => (newline level ++ prettyAt level v) :: prettyItems level vs

def prettyEntries (level : Nat) : List (Value × Value) → List String
  | [] => []
  | (k, v) :: rest =>
    (newline level ++ jsonString k.text ++ ": " ++ prettyAt level v) :: prettyEntries level rest

end

/-- A value with one entry a line. -/
def pretty (v : Value) : String := prettyAt 0 v

/-! ## Reading -/

def isJsonBlank (c : Char) : Bool := c == ' ' || c == '\n' || c == '\r' || c == '\t'

def skipBlank (cs : List Char) : List Char := cs.dropWhile isJsonBlank

/-- The value of a hexadecimal digit. -/
def hexDigit? (c : Char) : Option Nat :=
  if '0' ≤ c && c ≤ '9' then some (c.toNat - '0'.toNat)
  else if 'a' ≤ c && c ≤ 'f' then some (c.toNat - 'a'.toNat + 10)
  else if 'A' ≤ c && c ≤ 'F' then some (c.toNat - 'A'.toNat + 10)
  else none

/-- Four hexadecimal digits. -/
def unit? : List Char → Option (Nat × List Char)
  | a :: b :: c :: d :: rest => do
    let a ← hexDigit? a
    let b ← hexDigit? b
    let c ← hexDigit? c
    let d ← hexDigit? d
    some (((a * 16 + b) * 16 + c) * 16 + d, rest)
  | _ => none

/-- The character after the `u` of an escape; two escapes make one character beyond the first plane. -/
def escapedUnit? (cs : List Char) : Option (Char × List Char) := do
  let (high, rest) ← unit? cs
  if 0xD800 ≤ high && high < 0xDC00 then
    match rest with
    | '\\' :: 'u' :: more =>
      match unit? more with
      | some (low, tail) =>
        if 0xDC00 ≤ low && low < 0xE000 then
          some (Char.ofNat (0x10000 + (high - 0xD800) * 0x400 + (low - 0xDC00)), tail)
        else some ('�', rest)
      | none => none
    | _ => some ('�', rest)
  else if 0xDC00 ≤ high && high < 0xE000 then some ('�', rest)
  else some (Char.ofNat high, rest)

/-- The rest of a string after its opening quote, collected in reverse. -/
def string? : (fuel : Nat) → (collected : List Char) → List Char → Option (String × List Char)
  | 0, _, _ => none
  | _ + 1, _, [] => none
  | _ + 1, collected, '"' :: rest => some (String.ofList collected.reverse, rest)
  | fuel + 1, collected, '\\' :: c :: rest =>
    match c with
    | 'n' => string? fuel ('\n' :: collected) rest
    | 'r' => string? fuel ('\r' :: collected) rest
    | 't' => string? fuel ('\t' :: collected) rest
    | 'b' => string? fuel ('\x08' :: collected) rest
    | 'f' => string? fuel ('\x0c' :: collected) rest
    | 'u' => do
      let (c, rest) ← escapedUnit? rest
      string? fuel (c :: collected) rest
    | '"' => string? fuel ('"' :: collected) rest
    | '\\' => string? fuel ('\\' :: collected) rest
    | '/' => string? fuel ('/' :: collected) rest
    | _ => none
  | fuel + 1, collected, c :: rest => string? fuel (c :: collected) rest

/-- Decimal digits as a number. -/
def digitsValue (cs : List Char) : Nat := cs.foldl (fun n c => n * 10 + (c.toNat - '0'.toNat)) 0

def isDecimal (c : Char) : Bool := '0' ≤ c && c ≤ '9'

/-- An exponent after its mark: its sign and its digits. -/
def exponent? (cs : List Char) : Option (Int × List Char) :=
  let (negative, cs) := match cs with
    | '-' :: rest => (true, rest)
    | '+' :: rest => (false, rest)
    | _ => (false, cs)
  let digits := cs.takeWhile isDecimal
  if digits.isEmpty then none
  else
    let n : Int := digitsValue digits
    some (if negative then -n else n, cs.dropWhile isDecimal)

/-- The double nearest to `mantissa · 10 ^ exponent`. -/
def nearestFloat (negative : Bool) (mantissa : Nat) (exponent : Int) : Float :=
  let x := if exponent < 0 then Float.ofScientific mantissa true exponent.natAbs
    else Float.ofScientific mantissa false exponent.natAbs
  if negative then -x else x

/-- A number without its sign. -/
def unsigned? (negative : Bool) (cs : List Char) : Option (Value × List Char) :=
  let whole := cs.takeWhile isDecimal
  let cs := cs.dropWhile isDecimal
  if whole.isEmpty then none
  else
    let (fraction, cs) := match cs with
      | '.' :: rest => (some (rest.takeWhile isDecimal), rest.dropWhile isDecimal)
      | _ => (none, cs)
    let mark := match cs with
      | c :: _ => c == 'e' || c == 'E'
      | [] => false
    if mark then do
      let (e, cs) ← exponent? (cs.drop 1)
      let digits := fraction.getD []
      some (.float (nearestFloat negative (digitsValue (whole ++ digits)) (e - digits.length)), cs)
    else match fraction with
      | some digits =>
        some (.float (nearestFloat negative (digitsValue (whole ++ digits)) (-digits.length)), cs)
      | none =>
        let n : Int := digitsValue whole
        some (.int (if negative then -n else n), cs)

mutual

/-- A value at the start of the text, and the rest. -/
def value? : (fuel : Nat) → List Char → Option (Value × List Char)
  | 0, _ => none
  | fuel + 1, cs =>
    match skipBlank cs with
    | 'n' :: 'u' :: 'l' :: 'l' :: rest => some (.null, rest)
    | 't' :: 'r' :: 'u' :: 'e' :: rest => some (.bool true, rest)
    | 'f' :: 'a' :: 'l' :: 's' :: 'e' :: rest => some (.bool false, rest)
    | '"' :: rest => do
      let (s, rest) ← string? fuel [] rest
      some (.str s, rest)
    | '[' :: rest =>
      match skipBlank rest with
      | ']' :: rest => some (.list [], rest)
      | rest => items? fuel [] rest
    | '\x7b' :: rest =>
      match skipBlank rest with
      | '\x7d' :: rest => some (.map [], rest)
      | rest => entries? fuel [] rest
    | '-' :: rest => unsigned? true rest
    | rest => unsigned? false rest

/-- The items of a list up to its closing bracket, collected in reverse. -/
def items? : (fuel : Nat) → (collected : List Value) → List Char → Option (Value × List Char)
  | 0, _, _ => none
  | fuel + 1, collected, cs => do
    let (v, rest) ← value? fuel cs
    match skipBlank rest with
    | ',' :: rest => items? fuel (v :: collected) rest
    | ']' :: rest => some (.list (v :: collected).reverse, rest)
    | _ => none

/-- The entries of a mapping up to its closing brace. -/
def entries? : (fuel : Nat) → (collected : List (String × Value)) → List Char →
    Option (Value × List Char)
  | 0, _, _ => none
  | fuel + 1, collected, cs =>
    match skipBlank cs with
    | '"' :: rest => do
      let (key, rest) ← string? fuel [] rest
      match skipBlank rest with
      | ':' :: rest => do
        let (v, rest) ← value? fuel rest
        match skipBlank rest with
        | ',' :: rest => entries? fuel (Table.put key v collected) rest
        | '\x7d' :: rest => some (.object (Table.put key v collected), rest)
        | _ => none
      | _ => none
    | _ => none

end

/-- Read a JSON text. -/
def read? (s : String) : Option Value := do
  let cs := s.toList
  let (v, rest) ← value? (2 * cs.length + 1) cs
  if (skipBlank rest).isEmpty then some v else none

end JavaAudit.Value
