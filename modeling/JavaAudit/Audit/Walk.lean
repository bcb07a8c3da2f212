import JavaAudit.Audit.Basic
import JavaAudit.Rule.Registry
import JavaAudit.SyntaxTree.Walk

/-!
# Auditing one compilation unit

The tree is walked in pre-order, and every node is shown to the rules for its kind. Nodes that the
parser could not make sense of are skipped with everything below them. A rule that gives up on a node
is logged and leaves all other results alone.

The walk keeps a list of nodes still to visit, so that the depth of the tree does not matter. It ends
because a node weighs more than all its children together: a node weighs twice as much as one that
comes directly after it.
-/

namespace JavaAudit

/-- The result of what a rule has to say about a node. -/
def Rule.report (r : Rule) (u : CompilationUnit) (n : NodeId) :
    Except RuleFault (Option String) → Audit
  | .ok none => .empty
  | .ok (some message) => ⟨[Finding.ofMatch r u n message], []⟩
  | .error _ => ⟨[], [⟨.warning,
      "Rule " ++ r.id ++ " failed on " ++ u.path ++ ":" ++ toString (u.tree.line n) ++ "; skipping",
      some r.id⟩]⟩

/-- Show a node to a rule. -/
def Rule.audit (r : Rule) (u : CompilationUnit) (n : NodeId) : Audit := r.report u n (r.verdict u n)

/-- Show a node to a rule whose questions are answered from a recollection. -/
def Rule.auditRecalling (r : Rule) (u : CompilationUnit) (n : NodeId) : StateM Recollection Audit := do
  return r.report u n (← (r.judge u n callDepth).recalling u)

namespace SyntaxTree

variable (t : SyntaxTree)

/-- The weight of the nodes still to visit. -/
def load : (pending : List NodeId) → Nat
  | [] => 0
  | n :: rest => Nat.pow 2 (t.size - n) + load rest

theorem load_cons (n : NodeId) (rest : List NodeId) :
    t.load (n :: rest) = Nat.pow 2 (t.size - n) + t.load rest := rfl

theorem load_append (a b : List NodeId) : t.load (a ++ b) = t.load a + t.load b := by
  induction a with
  | nil => simp [load]
  | cons n rest ih => simp [load, ih, Nat.add_assoc]

/-- Nodes in ascending order after a node weigh less than it does. -/
theorem load_lt {n : Nat} {later : List Nat} (hsorted : later.Pairwise (· < ·))
    (hbounds : ∀ c ∈ later, n < c ∧ c < t.size) : t.load later < Nat.pow 2 (t.size - n) := by
  induction later generalizing n with
  | nil => exact Nat.pow_pos (by decide)
  | cons c rest ih =>
    rw [List.pairwise_cons] at hsorted
    have hc := hbounds c (by simp)
    have hrest := ih hsorted.2 fun d hd =>
      ⟨hsorted.1 d hd, (hbounds d (List.mem_cons_of_mem c hd)).2⟩
    have hle : Nat.pow 2 (t.size - c + 1) ≤ Nat.pow 2 (t.size - n) :=
      Nat.pow_le_pow_right (by decide) (by omega)
    have hdouble : Nat.pow 2 (t.size - c + 1) = Nat.pow 2 (t.size - c) * 2 := rfl
    rw [load_cons]
    omega

theorem pairwise_parts (n : NodeId) : (t.parts n).Pairwise (· < ·) := by
  have hchildren : (t.children n).Pairwise (· < ·) := by
    rw [children_eq]
    split
    · exact List.pairwise_lt_range.filter _
    · exact .nil
  exact (hchildren.filter _).filter _

theorem load_parts_lt (n : NodeId) : t.load (t.parts n) < Nat.pow 2 (t.size - n) :=
  t.load_lt (t.pairwise_parts n) fun _ hc => lt_of_mem_parts hc

theorem load_lt_cons (n : NodeId) (rest : List NodeId) : t.load rest < t.load (n :: rest) := by
  have hpos : 0 < Nat.pow 2 (t.size - n) := Nat.pow_pos (by decide)
  rw [load_cons]
  omega

theorem load_parts_append_lt (n : NodeId) (rest : List NodeId) :
    t.load (t.parts n ++ rest) < t.load (n :: rest) := by
  have hparts := t.load_parts_lt n
  rw [load_append, load_cons]
  omega

end SyntaxTree

namespace Registry

variable (reg : Registry) (u : CompilationUnit)

/-- Show a node to the rules for its kind. -/
def auditNode (n : NodeId) : Audit :=
  .concat ((reg.rulesFor (u.tree.kind? n)).map fun r => r.audit u n)

/-- Visit the pending nodes and all that is below them. -/
def auditFrom : (pending : List NodeId) → Audit
  | [] => .empty
  | n :: rest =>
    if u.tree.isError n then auditFrom rest
    else reg.auditNode u n ++ auditFrom (u.tree.parts n ++ rest)
termination_by pending => u.tree.load pending
decreasing_by
  · exact u.tree.load_lt_cons n rest
  · exact u.tree.load_parts_append_lt n rest

/-- Audit a compilation unit with the registered rules. -/
def audit : Audit := reg.auditFrom u [SyntaxTree.root]

/-- Audit a compilation unit with the rules of the default registry. -/
def auditShared : StateM Kept Audit := do return (← shared).audit u

/-! ## Remembering the answers -/

/-- Show a node to the rules for its kind, with one recollection for all of them. -/
def auditNodeRecalling (n : NodeId) : StateM Recollection Audit := do
  return .concat (← (reg.rulesFor (u.tree.kind? n)).mapM fun r => r.auditRecalling u n)

/-- Visit the pending nodes and all that is below them, with one recollection for all rules. -/
def auditFromRecalling : (pending : List NodeId) → StateM Recollection Audit
  | [] => return .empty
  | n :: rest =>
    if u.tree.isError n then auditFromRecalling rest
    else do
      let first ← reg.auditNodeRecalling u n
      return first ++ (← auditFromRecalling (u.tree.parts n ++ rest))
termination_by pending => u.tree.load pending
decreasing_by
  · exact u.tree.load_lt_cons n rest
  · exact u.tree.load_parts_append_lt n rest

/-- Audit a compilation unit with rules that share a recollection. -/
def auditRecalling : StateM Recollection Audit := reg.auditFromRecalling u [SyntaxTree.root]

end Registry

end JavaAudit
