/-!
# Blocks of console output

What the program shows on a console, before it is laid out: styled text, boxes, tables and excerpts of
code. Styles are names. Markup is text with the names of styles in brackets.
-/

namespace JavaAudit

/-- Text in pieces, each with its style. -/
abbrev StyledText := List (String × String)

namespace StyledText

/-- Characters that would move the cursor of a console. -/
def controlCodes : List Nat := [7, 8, 11, 12, 13]

/-- A text without the characters that would move the cursor. -/
def clean (s : String) : String :=
  String.ofList (s.toList.filter fun c => !controlCodes.contains c.toNat)

/-- Text in one style. -/
def plain (s style : String) : StyledText := [(clean s, style)]

/-- Pieces one after another; an empty one disappears. -/
def ofPieces (pieces : List (String × String)) : StyledText :=
  (pieces.filter fun piece => !piece.1.isEmpty).map fun piece => (clean piece.1, piece.2)

end StyledText

/-- Something to show on a console. -/
inductive Block where
  /-- An empty line. -/
  | blank
  | markup (s : String)
  | text (t : StyledText)
  | panel (content : Block) (title : Option Block) (border : String)
  | centered (content : Block)
  | table (title : Option String) (columns : List String) (rows : List (List Block))
  | sideBySide (blocks : List Block)
  | group (blocks : List Block)
  /-- Lines of code from `firstLine` on, some of them highlighted. -/
  | code (text : String) (firstLine : Int) (highlighted : List Int)
  /-- A line across the console with a title in it. -/
  | divider (title : String) (style : String)

end JavaAudit
