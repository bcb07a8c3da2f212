import JavaAudit.SyntaxTree.Position
import JavaAudit.Text.Quoted

/-!
# Excerpts of the source

Messages quote the source on one line and cut it when it is long.
-/

namespace JavaAudit

/-- The items up to a place, which when negative counts from the end. -/
def takeTo {α : Type} (items : List α) (stop : Int) : List α :=
  if stop < 0 then items.take (items.length - stop.natAbs) else items.take stop.toNat

/-- A text as it is, or its start with three dots if it is longer than `limit`. -/
def ellipsis (limit : Int) (s : String) : String :=
  if (s.toList.length : Int) ≤ limit then s
  else String.ofList (takeTo s.toList (limit - 3)) ++ "..."

namespace SyntaxTree

variable (t : SyntaxTree)

/-- The text of a node on one line, cut at `limit` characters. -/
def snippetWithin (limit : Int) (n : NodeId) : String := ellipsis limit (Text.oneLine (t.text n))

/-- The text of a node as messages quote it. -/
def snippet (n : NodeId) : String := t.snippetWithin 120 n

/-- A node with its type, its place and the start of its text. -/
def summary (n : NodeId) : String :=
  "<SourceNode " ++ t.type n ++ " " ++ toString (t.line n) ++ ":" ++ toString (t.column n) ++ " "
    ++ Text.quoted (ellipsis 40 (t.text n)) ++ ">"

end SyntaxTree

end JavaAudit
