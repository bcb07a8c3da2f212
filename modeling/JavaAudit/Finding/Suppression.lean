import JavaAudit.Text.CharacterClass
import JavaAudit.Text.Search
import JavaAudit.Text.Word

/-!
# Suppression comments

A line of source may ask not to be reported. It does so with a comment, `//` or `/*`, whose text begins
with a keyword, or with a fixed marker anywhere on the line. Blanks may stand before the keyword, and
the keyword has to end at the edge of a word.
-/

namespace JavaAudit.Suppression

/-- Silences a line wherever it stands. -/
def marker : String := "sinkscan:ignore"

/-- The keyword that holds unless another one is set. -/
def defaultKeyword : String := "nosec"

/-- Is there the edge of a word between a character and what follows it? -/
def isWordEdge (before : Char) (after : List Char) : Bool :=
  Text.isWordChar before != after.head?.any Text.isWordChar

/-- Does the keyword stand here, up to the edge of a word? `before` is the character in front. -/
def startsWithKeyword (keyword : List Char) (before : Char) (cs : List Char) : Bool :=
  keyword.isPrefixOf cs && isWordEdge (keyword.getLastD before) (cs.drop keyword.length)

/-- Does the keyword stand here or after some blanks? -/
def keywordFollows (keyword : List Char) (before : Char) : List Char → Bool
  | [] => startsWithKeyword keyword before []
  | c :: cs =>
    startsWithKeyword keyword before (c :: cs) || (Text.isBlank c && keywordFollows keyword c cs)

/-- Does the text of some comment on the line begin with the keyword? -/
def hasKeyword (keyword : List Char) : List Char → Bool
  | '/' :: '/' :: cs => keywordFollows keyword '/' cs || hasKeyword keyword ('/' :: cs)
  | '/' :: '*' :: cs => keywordFollows keyword '*' cs || hasKeyword keyword ('*' :: cs)
  | _ :: cs => hasKeyword keyword cs
  | [] => false

/-- Does the line ask not to be reported? -/
def isSuppressed (keyword line : String) : Bool :=
  hasKeyword keyword.toList line.toList || Text.contains line marker

end JavaAudit.Suppression
