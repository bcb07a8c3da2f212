import JavaAudit.Files.Basic
import JavaAudit.SyntaxTree.Row
import JavaAudit.Text.CharacterClass
import JavaAudit.Value.Json

/-!
# Snapshots of a directory

Parsers run before the program and hand over what they found in one document: the files of a directory,
for each Java file its syntax tree, and for each settings file its data. A tree belongs to a text, so
that equal texts have equal trees wherever they stand.
-/

namespace JavaAudit

/-- The files of a directory together with what the parsers made of them. -/
structure Snapshot where
  files : Files
  /-- Syntax trees by source text. -/
  trees : List (String × Array Node)
  /-- Data by text; `none` where a text is not well formed. -/
  documents : List (String × Option Value)

namespace Snapshot

/-- The bytes that pairs of hexadecimal digits stand for. -/
def bytesOfHex : List Char → List UInt8
  | high :: low :: rest =>
    (((Value.hexDigit? high).getD 0) * 16 + (Value.hexDigit? low).getD 0).toUInt8 :: bytesOfHex rest
  | _ => []

/-- The value under a key as text. -/
def textUnder (key : String) (row : Value) : Option String :=
  match row.get? key with
  | some (.str s) => some s
  | _ => none

def isSet (key : String) (row : Value) : Bool :=
  match row.get? key with
  | some (.bool b) => b
  | _ => false

/-- The content of a file, given as text or as hexadecimal digits. -/
def content (row : Value) : List UInt8 :=
  match textUnder "hex" row with
  | some digits => bytesOfHex digits.toList
  | none => ((textUnder "text" row).getD "").toUTF8.toList

/-- A file or directory below the working directory. -/
def entry (workingDirectory : List String) (row : Value) : List String × FileEntry :=
  (workingDirectory ++ Path.steps ((textUnder "path" row).getD ""),
    if isSet "dir" row then .directory else .file (content row))

/-- The syntax tree of a file. -/
def tree? (row : Value) : Option (String × Array Node) := do
  return (Files.lossyText (content row), ← SyntaxTree.nodes? (← row.get? "tree"))

/-- The data of a file, if a parser went over it. -/
def document? (row : Value) : Option (String × Option Value) := do
  let text ← Files.text? (content row)
  if isSet "yaml_error" row then return (text, none)
  else return (text, some (← row.get? "data"))

/-- Read a snapshot of a working directory. -/
def ofValue (workingDirectory : List String) (v : Value) : Snapshot :=
  let rows := match v.get? "files" with
    | some (.list rows) => rows
    | _ => []
  { files := ⟨workingDirectory, Table.ofEntries (rows.map (entry workingDirectory))⟩
    trees := rows.filterMap tree?
    documents := rows.filterMap document? }

/-- What the parser made of a Java source. -/
def parseJava (s : Snapshot) (source : String) : Array Node := (s.trees.lookup source).getD #[]

/-- What the parser made of a settings file. What it did not go over counts as a plain text. -/
def parseData (s : Snapshot) (text : String) : Option Value :=
  (s.documents.lookup text).getD (some (.str (Text.strip text)))

end Snapshot

end JavaAudit
