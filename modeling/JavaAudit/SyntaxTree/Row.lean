import JavaAudit.SyntaxTree.Basic
import JavaAudit.Value.Basic

/-!
# Syntax trees as data

A parser hands a tree over as a list of rows, one for each node in pre-order. A row holds the place of
the parent, negative for the topmost node, the type, two flags (named and missing), the first byte and
the byte after the last one, and the role in the parent if there is one.
-/

namespace JavaAudit

/-- The node in a row. -/
def Node.ofRow? : Value → Option Node
  | .list (.int parent :: .str type :: .int flags :: .int start :: .int stop :: rest) => do
    let field ← match rest with
      | [] => some none
      | [.str role] => some (some role)
      | _ => none
    return {
      parent := if parent < 0 then none else some parent.toNat
      type := type
      named := flags.toNat % 2 == 1
      missing := flags.toNat / 2 % 2 == 1
      start := start.toNat
      stop := stop.toNat
      field := field }
  | _ => none

/-- The nodes of a tree. -/
def SyntaxTree.nodes? : Value → Option (Array Node)
  | .list rows => (rows.mapM Node.ofRow?).map List.toArray
  | _ => none

end JavaAudit
