/-!
# Syntax trees

A parser reports the nodes of a Java source in pre-order, each with the position of its parent in that
order. A node is then named by its position. `SyntaxTree` keeps the nodes together with the source
they were read from and with the children of every node.

Main statements: a parent comes before its children (`lt_of_parent?`), and the children of a node are
exactly the nodes that have it as parent (`mem_children`).
-/

namespace JavaAudit

/-- A node is named by its place in the pre-order. -/
abbrev NodeId := Nat

/-- A node as the parser reports it. -/
structure Node where
  parent : Option NodeId
  /-- The name of the grammar rule or the token. -/
  type : String
  named : Bool
  /-- Inserted by the parser to repair the source; it covers no text. -/
  missing : Bool
  /-- First byte and the byte after the last one. -/
  start : Nat
  stop : Nat
  /-- The role that the node has in its parent. -/
  field : Option String
  deriving Repr, DecidableEq

namespace Node

/-- What stands at a place where there is no node. -/
def absent : Node := ⟨none, "", false, false, 0, 0, none⟩

end Node

/-- The parent of the node at place `n`, which comes before it. -/
def parentAt (nodes : Array Node) (n : NodeId) : Option NodeId :=
  (nodes[n]?.bind (·.parent)).filter (· < n)

/-- The children of every node, in order. -/
def childTable (nodes : Array Node) : Array (List NodeId) :=
  (Array.range nodes.size).map fun n =>
    (List.range nodes.size).filter fun c => parentAt nodes c == some n

/-- The nodes of a source text. -/
structure SyntaxTree where
  source : String
  nodes : Array Node
  childLists : Array (List NodeId)
  childLists_eq : childLists = childTable nodes

namespace SyntaxTree

/-- The tree with these nodes. -/
def ofNodes (source : String) (nodes : Array Node) : SyntaxTree :=
  ⟨source, nodes, childTable nodes, rfl⟩

variable (t : SyntaxTree)

/-! ## Nodes -/

def size : Nat := t.nodes.size

def node (n : NodeId) : Node := t.nodes.getD n Node.absent

/-- Grammar type of a node. -/
def type (n : NodeId) : String := (t.node n).type

/-- Is the node of one of these types? -/
def isA (n : NodeId) (types : List String) : Bool := types.contains (t.type n)

def isNamed (n : NodeId) : Bool := (t.node n).named

/-- Nodes that hold what the parser could not make sense of. -/
def isError (n : NodeId) : Bool := t.type n == "ERROR"

def start (n : NodeId) : Nat := (t.node n).start

def stop (n : NodeId) : Nat := (t.node n).stop

/-- The source text that a node covers. -/
def text (n : NodeId) : String := String.Pos.Raw.extract t.source ⟨t.start n⟩ ⟨t.stop n⟩

/-- Byte range and type. Two nodes with the same key are taken for the same piece of source. -/
def key (n : NodeId) : Nat × Nat × String := (t.start n, t.stop n, t.type n)

/-- The first node, of which all others are descendants. -/
def root : NodeId := 0

/-- Did the parser meet something that it could not make sense of, or repair the source? -/
def hasErrors : Bool := t.nodes.any fun node => node.missing || node.type == "ERROR"

/-! ## Parent and children -/

def parent? (n : NodeId) : Option NodeId := parentAt t.nodes n

def children (n : NodeId) : List NodeId := t.childLists.getD n []

/-- Named children, comments included. -/
def namedChildren (n : NodeId) : List NodeId := (t.children n).filter t.isNamed

/-- Node types of comments. -/
def commentTypes : List String := ["line_comment", "block_comment"]

/-- Named children, comments left out. -/
def parts (n : NodeId) : List NodeId :=
  (t.namedChildren n).filter fun c => !t.isA c commentTypes

/-- The children in a role. -/
def fields (n : NodeId) (role : String) : List NodeId :=
  (t.children n).filter fun c => (t.node c).field == some role

/-- The first child in a role. -/
def field? (n : NodeId) (role : String) : Option NodeId :=
  (t.children n).find? fun c => (t.node c).field == some role

/-- The first child of one of these types. -/
def childOfType? (n : NodeId) (types : List String) : Option NodeId :=
  (t.children n).find? fun c => t.isA c types

/-! ## Order of parents and children -/

theorem lt_of_parent? {t : SyntaxTree} {n p : Nat} (h : t.parent? n = some p) : p < n := by
  simp only [parent?, parentAt, Option.filter_eq_some_iff, decide_eq_true_eq] at h
  exact h.2

theorem children_eq (n : Nat) :
    t.children n = if n < t.size then
      (List.range t.size).filter fun c => t.parent? c == some n else [] := by
  unfold children
  rw [t.childLists_eq]
  by_cases h : n < t.nodes.size <;> simp [childTable, size, parent?, h]

theorem mem_children {n c : Nat} :
    c ∈ t.children n ↔ n < t.size ∧ c < t.size ∧ t.parent? c = some n := by
  rw [children_eq]
  split <;> simp [*]

theorem lt_of_mem_children {t : SyntaxTree} {n c : Nat} (h : c ∈ t.children n) :
    n < c ∧ c < t.size :=
  ⟨lt_of_parent? ((t.mem_children).1 h).2.2, ((t.mem_children).1 h).2.1⟩

theorem lt_of_mem_namedChildren {t : SyntaxTree} {n c : Nat} (h : c ∈ t.namedChildren n) :
    n < c ∧ c < t.size :=
  lt_of_mem_children ((List.mem_filter.1 h).1)

theorem lt_of_mem_parts {t : SyntaxTree} {n c : Nat} (h : c ∈ t.parts n) :
    n < c ∧ c < t.size :=
  lt_of_mem_namedChildren ((List.mem_filter.1 h).1)

theorem lt_of_field? {t : SyntaxTree} {n c : Nat} {role : String} (h : t.field? n role = some c) :
    n < c ∧ c < t.size :=
  lt_of_mem_children (List.mem_of_find?_eq_some h)

theorem lt_of_mem_fields {t : SyntaxTree} {n c : Nat} {role : String} (h : c ∈ t.fields n role) :
    n < c ∧ c < t.size :=
  lt_of_mem_children ((List.mem_filter.1 h).1)

theorem lt_of_head?_parts {t : SyntaxTree} {n c : Nat} (h : (t.parts n).head? = some c) :
    n < c ∧ c < t.size :=
  lt_of_mem_parts (List.mem_of_mem_head? h)

end SyntaxTree

end JavaAudit
