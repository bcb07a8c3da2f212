/-!
# Searching and cutting text

Occurrences of one text in another, removal of every occurrence, and cutting at a separator. All of
it works on lists of characters; the functions on `String` only convert.
-/

namespace JavaAudit.Text

/-- Does `needle` stand somewhere in the list, as consecutive characters? -/
def occursIn (needle : List Char) : List Char → Bool
  | [] => needle.isEmpty
  | c :: cs => needle.isPrefixOf (c :: cs) || occursIn needle cs

/-- Does `needle` stand somewhere in `hay`? The empty text stands everywhere. -/
def contains (hay needle : String) : Bool := occursIn needle.toList hay.toList

/-- Remove every occurrence of `pattern`, from left to right, without rereading what is left. -/
def removeAll (pattern : List Char) : List Char → List Char
  | [] => []
  | c :: cs =>
    if pattern.isPrefixOf (c :: cs) then removeAll pattern (cs.drop (pattern.length - 1))
    else c :: removeAll pattern cs
termination_by cs => cs.length
decreasing_by
  · simp only [List.length_drop, List.length_cons]; omega
  · simp

/-- The pieces of a text between separators; without a separator the one piece. -/
def split (sep : Char) (s : String) : List String := (s.toList.splitOn sep).map String.ofList

/-- A text cut at its first separator: what stands before, and what stands after if there is one. -/
def cutFirst (sep : Char) (s : String) : String × Option String :=
  let (before, after) := s.toList.span (· ≠ sep)
  (String.ofList before, after.tail?.map String.ofList)

/-- A text cut at its last separator: what stands before it, empty if there is none, and the rest. -/
def cutLast (sep : Char) (s : String) : String × String :=
  let (last, before) := s.toList.reverse.span (· ≠ sep)
  (String.ofList (before.drop 1).reverse, String.ofList last.reverse)

/-- What stands after the last separator, or the whole text. -/
def lastPiece (sep : Char) (s : String) : String := (cutLast sep s).2

end JavaAudit.Text
