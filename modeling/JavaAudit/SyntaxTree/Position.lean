import JavaAudit.SyntaxTree.Basic
import JavaAudit.Text.CharacterClass

/-!
# Lines and columns

A line ends at a line feed, and a carriage return directly before it is not part of the line. Lines
are counted from one, columns from zero, and a column counts characters while offsets count bytes.

A parser gives each node a start point: the row in which the node starts, and the number of bytes before it in
that row. The contract of the parser is that the start point belongs to the offset of the node, where rows end at
line feeds and nowhere else. So the start point is not part of a node here: `row` and `lineOffset` read it off the
offset.
-/

namespace JavaAudit

/-- The lines of a text, without their ends. -/
def sourceLines (source : String) : List (List Char) :=
  (source.toList.splitOn '\n').map fun line =>
    if line.getLast? = some '\r' then line.dropLast else line

/-- How many characters lie wholly within the first `bytes` bytes. -/
def charsWithin : List Char → (bytes : Nat) → Nat
  | [], _ => 0
  | c :: cs, bytes => if c.utf8Size ≤ bytes then charsWithin cs (bytes - c.utf8Size) + 1 else 0

namespace SyntaxTree

variable (t : SyntaxTree)

/-- The characters before the start of a node. -/
def before (n : NodeId) : List Char := (String.Pos.Raw.extract t.source ⟨0⟩ ⟨t.start n⟩).toList

/-- The row of the start point of a node: the number of line feeds before it. -/
def row (n : NodeId) : Nat := (t.before n).count '\n'

/-- The line on which a node starts, counted from one. -/
def line (n : NodeId) : Nat := t.row n + 1

/-- The bytes in the start point of a node: those between the last line feed before it and the node. -/
def lineOffset (n : NodeId) : Nat :=
  ((t.before n).reverse.takeWhile (· ≠ '\n')).foldr (fun c bytes => bytes + c.utf8Size) 0

/-- The column in which a node starts, counted from zero. -/
def column (n : NodeId) : Nat :=
  match (sourceLines t.source)[t.row n]? with
  | none => t.lineOffset n
  | some line => charsWithin line (t.lineOffset n)

/-- A line of the source without the blanks around it; empty if there is no such line. -/
def lineContent (line : Nat) : String :=
  if line = 0 then ""
  else match (sourceLines t.source)[line - 1]? with
    | none => ""
    | some cs => String.ofList (Text.trimEnd (Text.trimStart cs))

end SyntaxTree

end JavaAudit
