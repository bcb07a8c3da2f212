/-!
# Shell patterns

A pattern is read into pieces: `*` stands for any text, `?` for any character, a bracket for one
character of a set, and every other character for itself. A bracket that is never closed is an
ordinary character. Inside a bracket a leading `!` takes the complement, a closing bracket directly
at the start belongs to the set, and `a-z` is a range; a range that runs backwards is empty and
disappears together with its ends.
-/

namespace JavaAudit.Text.Glob

/-- A part of a bracket set: one character, or the characters between two. -/
inductive Item where
  | one (c : Char)
  | range (first last : Char)
  deriving Repr

def Item.holds (c : Char) : Item → Bool
  | .one d => c = d
  | .range first last => first.toNat ≤ c.toNat && c.toNat ≤ last.toNat

/-- A part of a pattern. -/
inductive Piece where
  | star
  | any
  | char (c : Char)
  /-- One character inside the set, or outside it when `complement` holds. -/
  | set (complement : Bool) (items : List Item)
  deriving Repr

/-! ## Reading brackets -/

/-- The inside of a bracket, given what follows its opening, and what follows its closing. -/
def bracket? (cs : List Char) : Option (List Char × List Char) :=
  let (bang, cs) := match cs with
    | '!' :: rest => (['!'], rest)
    | _ => ([], cs)
  let (closing, cs) := match cs with
    | ']' :: rest => ([']'], rest)
    | _ => ([], cs)
  let (body, cs) := cs.span (· ≠ ']')
  match cs with
  | [] => none
  | _ :: rest => some (bang ++ closing ++ body, rest)

/-- Cut at each hyphen that joins two ends of a range: a hyphen can do so only after `least`
characters, and after two characters once a range has been cut. A hyphen that has nothing after it
stands for itself. -/
def chunks (least : Nat) (cs : List Char) : List (List Char) :=
  let chunk := cs.take least ++ (cs.drop least).takeWhile (· ≠ '-')
  match _h : (cs.drop least).dropWhile (· ≠ '-') with
  | [] => [chunk]
  | [_] => [chunk ++ ['-']]
  | _ :: c :: tail => chunk :: chunks 2 (c :: tail)
termination_by cs.length
decreasing_by
  have hle := (List.dropWhile_sublist (l := cs.drop least) (· ≠ '-')).length_le
  rw [_h, List.length_drop] at hle
  simp only [List.length_cons] at hle ⊢
  omega

/-- Remove the ranges that run backwards, from right to left. -/
def dropEmptyRanges : List (List Char) → List (List Char)
  | [] => []
  | chunk :: rest =>
    match dropEmptyRanges rest with
    | [] => [chunk]
    | next :: others =>
      match chunk.getLast?, next.head? with
      | some first, some last =>
        if first.toNat > last.toNat then (chunk.dropLast ++ next.drop 1) :: others
        else chunk :: next :: others
      | _, _ => chunk :: next :: others

/-- The set written by chunks, where `none` is a hyphen between two chunks. -/
def items : List (Option Char) → List Item
  | [] => []
  | some a :: none :: some b :: rest => .range a b :: items rest
  | some a :: rest => .one a :: items rest
  | none :: rest => .one '-' :: items rest

/-- The piece that the inside of a bracket stands for. -/
def setPiece (inside : List Char) : Piece :=
  let least := if inside.head? = some '!' then 2 else 1
  let parts := dropEmptyRanges (chunks least inside)
  let marks := [none].intercalate (parts.map (·.map some))
  match marks with
  | [some '!'] => .any
  | some '!' :: rest => .set true (items rest)
  | marks => .set false (items marks)

/-! ## Reading and matching patterns -/

/-- The pieces of a pattern; `fuel` bounds the number of characters still to read. -/
def piecesWithin : Nat → List Char → List Piece
  | 0, _ => []
  | _ + 1, [] => []
  | fuel + 1, '*' :: cs => .star :: piecesWithin fuel cs
  | fuel + 1, '?' :: cs => .any :: piecesWithin fuel cs
  | fuel + 1, '[' :: cs =>
    match bracket? cs with
    | some (inside, rest) => setPiece inside :: piecesWithin fuel rest
    | none => .char '[' :: piecesWithin fuel cs
  | fuel + 1, c :: cs => .char c :: piecesWithin fuel cs

def pieces (pattern : String) : List Piece :=
  piecesWithin pattern.toList.length pattern.toList

/-- Does a piece other than the star stand for this character? -/
def Piece.accepts (c : Char) : Piece → Bool
  | .star => false
  | .any => true
  | .char d => c = d
  | .set complement items => items.any (·.holds c) != complement

/-- At each place, does the list hold there or further on? -/
def holdsFurtherOn : List Bool → List Bool
  | [] => []
  | b :: bs =>
    let rest := holdsFurtherOn bs
    (b || rest.headD false) :: rest

/-- For each end of a text, the longest first and the empty one last: do the pieces stand for it? One
table row for each piece, so that many stars do no harm. -/
def endsMatched : List Piece → List Char → List Bool
  | [], cs => cs.map (fun _ => false) ++ [true]
  | .star :: ps, cs => holdsFurtherOn (endsMatched ps cs)
  | p :: ps, cs =>
    List.zipWith (fun c rest => p.accepts c && rest) cs (endsMatched ps cs).tail ++ [false]

/-- Do the pieces stand for exactly this text? -/
def matchPieces (ps : List Piece) (cs : List Char) : Bool := (endsMatched ps cs).headD false

/-- Does the pattern stand for exactly this text? -/
def isMatch (pattern text : String) : Bool := matchPieces (pieces pattern) text.toList

end JavaAudit.Text.Glob
