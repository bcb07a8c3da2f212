import JavaAudit.Inquiry
import JavaAudit.Text.CharacterClass

/-!
# Message templates

A template is text with named slots. Written as text, a slot is a name in braces and a doubled brace
stands for itself; a brace without its partner makes the template unreadable. A slot with a number in
place of a name, or with nothing, is never filled.
-/

namespace JavaAudit

/-- A part of a template. -/
inductive Piece where
  | text (s : String)
  | slot (name : String)
  deriving DecidableEq, Repr

/-- Text with named slots. -/
abbrev Template := List Piece

namespace Template

/-- Read a template as far as `fuel` characters. -/
def readWithin : (fuel : Nat) → List Char → Except RuleFault Template
  | 0, _ => .ok []
  | _ + 1, [] => .ok []
  | fuel + 1, '\x7b' :: '\x7b' :: cs => do return .text "\x7b" :: (← readWithin fuel cs)
  | fuel + 1, '\x7d' :: '\x7d' :: cs => do return .text "\x7d" :: (← readWithin fuel cs)
  | fuel + 1, '\x7b' :: cs =>
    match cs.dropWhile fun c => c ≠ '\x7b' && c ≠ '\x7d' with
    | '\x7d' :: rest => do
      let name := String.ofList (cs.takeWhile fun c => c ≠ '\x7b' && c ≠ '\x7d')
      return .slot name :: (← readWithin fuel rest)
    | _ => .error .unbalancedBrace
  | _ + 1, '\x7d' :: _ => .error .unbalancedBrace
  | fuel + 1, c :: cs => do return .text (String.singleton c) :: (← readWithin fuel cs)

/-- Read a template. -/
def read (s : String) : Except RuleFault Template := readWithin s.toList.length s.toList

/-- Can a slot with this name be filled? -/
def isSlotName (name : String) : Bool := name.toList.any fun c => !Text.isDigit c

/-- The value of a piece. -/
def fillPiece (values : List (String × String)) : Piece → Except RuleFault String
  | .text s => .ok s
  | .slot name =>
    match if isSlotName name then values.lookup name else none with
    | some v => .ok v
    | none => .error (.unknownSlot name)

/-- The text of a template with its slots filled. -/
def fill (values : List (String × String)) (t : Template) : Except RuleFault String := do
  return String.join (← t.mapM (fillPiece values))

end Template

end JavaAudit
