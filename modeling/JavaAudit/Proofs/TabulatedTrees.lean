import Mathlib.Data.List.Nodup
import Mathlib.Data.String.Basic
import JavaAudit.Proofs.Ancestry
import JavaAudit.CompilationUnit.Lookup

/-!
# Trees that are written down node by node

What a tree of any size is, where its nodes are known one by one: a node with its parent and its role tells which
child a node has in a role, and which one is the first. A source without package, imports and type declarations
declares nothing, so that no type of it has a field.
-/

namespace JavaAudit

/-! ## First children -/

namespace SyntaxTree

variable {t : SyntaxTree} {n p c : Nat}

theorem parent_of_parent? (h : t.parent? n = some p) : (t.node n).parent = some p := by
  unfold parent? parentAt at h
  obtain ⟨hp, -⟩ := Option.filter_eq_some_iff.1 h
  obtain ⟨found, hfound, hparent⟩ := Option.bind_eq_some_iff.1 hp
  rw [node, Array.getD_eq_getD_getElem?, hfound]
  exact hparent

/-- A parent that comes before the node is the parent in the tree. -/
theorem parent?_of_parent (h : (t.node n).parent = some p) (hp : p < n) : t.parent? n = some p := by
  rw [node, Array.getD_eq_getD_getElem?] at h
  unfold parent? parentAt
  cases hfound : t.nodes[n]? with
  | none =>
    rw [hfound] at h
    cases h
  | some found =>
    rw [hfound] at h
    rw [Option.bind_some, show found.parent = some p from h]
    simp [hp]

/-- A child is the first one of its kind if none of the nodes between it and its parent is one. -/
theorem find?_children_of_first {q : NodeId → Bool} (hc : (t.node c).parent = some n) (hn : n < c)
    (hq : q c = true) (hfirst : ∀ m, n < m → m < c → (t.node m).parent = some n → q m = false) :
    (t.children n).find? q = some c := by
  have hparent := parent?_of_parent hc hn
  have hsize := lt_size_of_parent? hparent
  rw [children_eq, if_pos (Nat.lt_trans hn hsize), List.find?_filter, List.find?_range_eq_some]
  refine ⟨by simp [hparent, hq], List.mem_range.2 hsize, fun m hm => ?_⟩
  by_cases hmp : t.parent? m = some n
  · simp [hfirst m (lt_of_parent? hmp) hm (parent_of_parent? hmp)]
  · simp [hmp]

/-- The child that stands `d` nodes behind is the one in a role if no node between has that role. -/
theorem field?_of_offset {role : String} {d : Nat} (hd : 0 < d) (hparent : (t.node (n + d)).parent = some n)
    (hrole : (t.node (n + d)).field = some role)
    (hfirst : ∀ r < d, 0 < r → (t.node (n + r)).field ≠ some role) : t.field? n role = some (n + d) := by
  refine find?_children_of_first hparent (by omega) ?_ fun m hm hmd _ => ?_
  · rw [hrole]
    exact beq_self_eq_true _
  · obtain ⟨r, rfl⟩ := Nat.exists_eq_add_of_le (Nat.le_of_lt hm)
    exact beq_eq_false_iff_ne.2 (hfirst r (by omega) (by omega))

theorem head?_parts (t : SyntaxTree) (n : NodeId) :
    (t.parts n).head? = (t.children n).find? fun c => !t.isA c commentTypes && t.isNamed c := by
  rw [parts, namedChildren, List.filter_filter, List.head?_filter]

/-- The only child that a rule sees is the only part. -/
theorem parts_eq_singleton (hc : (t.node c).parent = some n) (hn : n < c) (hnamed : t.isNamed c = true)
    (hcomment : t.isA c commentTypes = false)
    (honly : ∀ m < t.size, (t.node m).parent = some n → t.isNamed m = true → m = c) : t.parts n = [c] := by
  have hmem : ∀ m, m ∈ t.parts n ↔ m = c := by
    intro m
    constructor
    · intro hm
      exact honly m (lt_of_mem_parts hm).2 (parent_of_parent? (parent?_of_mem_parts hm))
        (List.mem_filter.1 (List.mem_filter.1 hm).1).2
    · rintro rfl
      exact mem_parts_of_parent? (parent?_of_parent hc hn) hnamed hcomment
  have hnodup : (t.parts n).Nodup := by
    refine (List.Nodup.filter _ ?_).filter _
    rw [children_eq]
    split
    · exact List.nodup_range.filter _
    · exact List.nodup_nil
  refine List.perm_singleton.1 ((List.perm_ext_iff_of_nodup hnodup (List.nodup_singleton c)).2 fun m => ?_)
  rw [hmem, List.mem_singleton]

end SyntaxTree

namespace SyntaxTree

/-- The tree whose nodes are those that a function tells for the numbers below `size`. -/
def tabulate (source : String) (size : Nat) (node : Nat → Node) : SyntaxTree :=
  .ofNodes source ((List.range size).map node).toArray

variable {source : String} {size n : Nat} {node : Nat → Node}

theorem size_tabulate : (tabulate source size node).size = size := by
  show ((List.range size).map node).length = size
  rw [List.length_map, List.length_range]

theorem node_tabulate (h : n < size) : (tabulate source size node).node n = node n := by
  show ((List.range size).map node).toArray.getD n .absent = node n
  simp [Array.getD_eq_getD_getElem?, h]

/-- What two lists of nodes have in common, each node of them has. -/
theorem getD_congr {α : Type} (nodes nodes' : List Node) (f : Node → α) (h : nodes.map f = nodes'.map f)
    (n : Nat) : f (nodes[n]?.getD .absent) = f (nodes'[n]?.getD .absent) := by
  have hmap : ∀ nodes : List Node, f (nodes[n]?.getD .absent) = (nodes.map f)[n]?.getD (f .absent) := by
    intro nodes
    rw [List.getElem?_map]
    exact (Option.getD_map f .absent nodes[n]?).symm
  rw [hmap, hmap, h]

/-- Where the nodes behind a node are those of a list, its child in a role is found in a table with the same
roles. -/
theorem field?_of_table {t : SyntaxTree} (nodes table : List Node) (base : Nat) {d : Nat} {role : String}
    (hroles : nodes.map Node.field = table.map Node.field) (hd : 0 < d)
    (hnode : ∀ r ≤ d, t.node (n + r) = nodes[base + r]?.getD .absent)
    (hparent : (nodes[base + d]?.getD .absent).parent = some n)
    (hrole : (table[base + d]?.getD .absent).field = some role)
    (hfirst : ∀ r < d, 0 < r → (table[base + r]?.getD .absent).field ≠ some role) :
    t.field? n role = some (n + d) := by
  have hfield : ∀ r ≤ d, (t.node (n + r)).field = (table[base + r]?.getD .absent).field := by
    intro r hr
    rw [hnode r hr]
    exact getD_congr nodes table Node.field hroles (base + r)
  refine field?_of_offset hd ?_ ((hfield d (Nat.le_refl d)).trans hrole) fun r hr hpos => ?_
  · rw [hnode d (Nat.le_refl d)]
    exact hparent
  · rw [hfield r (Nat.le_of_lt hr)]
    exact hfirst r hr hpos

/-- The text of a node that lies between two parts of the source. -/
theorem text_of_source {t : SyntaxTree} {before part after : List Char}
    (hsource : t.source = String.ofList (before ++ part ++ after))
    (hstart : t.start n = String.utf8Len before)
    (hstop : t.stop n = String.utf8Len before + String.utf8Len part) :
    t.text n = String.ofList part := by
  rw [text, hstart, hstop, hsource]
  exact String.extract_of_valid _ _ _

end SyntaxTree

/-! ## Sources that declare nothing -/

namespace CompilationUnit

variable {u : CompilationUnit}

/-- Without a package and without imports the header is empty. -/
theorem header_eq_empty
    (h : ∀ n < u.tree.size, u.tree.type n ∉ ["package_declaration", "import_declaration"]) :
    u.header = .empty := by
  have hfold : ∀ nodes : List NodeId, (∀ n ∈ nodes, n < u.tree.size) →
      nodes.foldl (Header.add u.tree) .empty = .empty := by
    intro nodes hnodes
    induction nodes with
    | nil => rfl
    | cons n nodes ih =>
      have htype := h n (hnodes n List.mem_cons_self)
      simp only [List.mem_cons, List.not_mem_nil, or_false, not_or] at htype
      have hadd : Header.add u.tree .empty n = .empty := by
        unfold Header.add
        cases Header.nameIn? u.tree n with
        | none => rfl
        | some name =>
          dsimp only
          rw [if_neg htype.1, if_neg htype.2]
      rw [List.foldl_cons, hadd]
      exact ih fun m hm => hnodes m (List.mem_cons_of_mem n hm)
  rw [u.header_eq]
  exact hfold _ fun n hn => (SyntaxTree.lt_of_mem_parts hn).2

section NoTypes

variable (h : ∀ n < u.tree.size, u.tree.isA n typeDeclarationTypes = false)

include h

theorem types_eq_empty : u.types = .empty := by
  have hnone : u.tree.descendantsOfType SyntaxTree.root typeDeclarationTypes = [] := by
    refine List.filter_eq_nil_iff.2 fun n hn => ?_
    have hsize := SyntaxTree.lt_size_of_mem_ancestors
      (SyntaxTree.isNamed_and_mem_ancestors_of_mem_descendants hn).2
    rw [h n hsize]
    exact Bool.false_ne_true
  rw [u.types_eq, TypeTable.collect, hnone]
  rfl

theorem fieldOf_eq_none (type name : String) : u.fieldOf type name = none := by
  refine List.findSome?_eq_none_iff.2 fun a _ => ?_
  unfold ownField declaration?
  rw [types_eq_empty h]
  rfl

end NoTypes

end CompilationUnit

end JavaAudit
