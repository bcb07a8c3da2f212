import JavaAudit.Report.Block
import JavaAudit.Text.Search

/-!
# Blocks as lines of text

A plain rendering without styles and boxes: the content of a panel is indented under its title, and the
cells of a table stand side by side.
-/

namespace JavaAudit.Block

/-- Can the name of a style start with this character? -/
def startsStyle (c : Char) : Bool :=
  ('a' ≤ c && c ≤ 'z') || c == '#' || c == '/' || c == '@'

/-- Markup without the names of styles. -/
def unmarked : List Char → List Char
  | [] => []
  | '[' :: c :: cs =>
    if startsStyle c then
      match _h : cs.dropWhile fun d => d != ']' && d != '[' with
      | ']' :: rest => unmarked rest
      | _ => '[' :: unmarked (c :: cs)
    else '[' :: unmarked (c :: cs)
  | c :: cs => c :: unmarked cs
termination_by cs => cs.length
decreasing_by
  · have hle := (List.dropWhile_sublist (l := cs) fun d => d != ']' && d != '[').length_le
    rw [_h] at hle
    simp only [List.length_cons] at hle ⊢
    omega
  all_goals simp

/-- The text of markup. -/
def markupText (s : String) : String := String.ofList (unmarked s.toList)

def indented (lines : List String) : List String :=
  lines.map fun line => if line.isEmpty then line else "  " ++ line

/-- Lines of code with their numbers. -/
def numbered (firstLine : Int) (lines : List String) : List String :=
  lines.zipIdx.map fun (line, n) => toString (firstLine + n) ++ " " ++ line

mutual

/-- The lines of a block. -/
def lines : Block → List String
  | .blank => [""]
  | .markup s => Text.split '\n' (markupText s)
  | .text t => Text.split '\n' (String.join (t.map (·.1)))
  | .panel content title _ => titleLines title ++ indented (lines content)
  | .centered content => lines content
  | .table title _ rows => title.toList ++ rowLines rows
  | .sideBySide blocks => [String.intercalate "    " (allLines blocks)]
  | .group blocks => allLines blocks
  | .code source firstLine _ => numbered firstLine (Text.split '\n' source)
  | .divider title _ => [markupText title]

/-- The lines of blocks one below the other. -/
def allLines : List Block → List String
  | [] => []
  | block :: rest => lines block ++ allLines rest

/-- The line with the title of a panel. -/
def titleLines : Option Block → List String
  | none => []
  | some title => lines title

/-- One line for each row of a table. -/
def rowLines : List (List Block) → List String
  | [] => []
  | row :: rest => String.intercalate "  " (allLines row) :: rowLines rest

end

end JavaAudit.Block
