import JavaAudit.Proofs.PlusChain

/-!
# The leaves of a `+` chain

A `+` chain is written with operands, parentheses and `+` signs (`PlusChain`), and its leaves are read
off by recursion: those of the left side, then those of the right side. `Reads` says how the expression at a
node is written. The walk over a list of pending expressions arrives at the same leaves
(`operands?_of_reads`), and all else follows from the way the chain is written:

1. a leaf is neither in parentheses nor a `+` (`mem_leaves_of_reads`);
2. a relation that holds between whatever is inside the left and the right side of every `+` of the chain
   holds between any two leaves, in their order (`pairwise_leaves_of_reads`), which gives disjoint subtrees,
   the order of the tree and the order of the source;
3. another grouping, or other parentheses, leave the leaves as they are (`leaves_eq_of_regroups`).
-/

namespace JavaAudit

/-- A `+` chain as it is written. -/
inductive PlusChain (α : Type) where
  /-- There is nothing where an expression should be. -/
  | absent
  | operand (a : α)
  | parens (inner : PlusChain α)
  | plus (left right : PlusChain α)

namespace PlusChain

variable {α β : Type}

/-- The operands from left to right. -/
def leaves : PlusChain α → List α
  | .absent => []
  | .operand a => [a]
  | .parens inner => inner.leaves
  | .plus left right => left.leaves ++ right.leaves

/-- The chain with other names for its operands. -/
def map (f : α → β) : PlusChain α → PlusChain β
  | .absent => .absent
  | .operand a => .operand (f a)
  | .parens inner => .parens (inner.map f)
  | .plus left right => .plus (left.map f) (right.map f)

theorem leaves_map (f : α → β) (e : PlusChain α) : (e.map f).leaves = e.leaves.map f := by
  induction e with
  | absent => rfl
  | operand a => rfl
  | parens inner ih => exact ih
  | plus left right ihl ihr => rw [map, leaves, leaves, List.map_append, ihl, ihr]

/-- Two chains differ in nothing but their grouping and their parentheses. -/
inductive Regroups : PlusChain α → PlusChain α → Prop where
  | refl (e) : Regroups e e
  | symm {d e} : Regroups d e → Regroups e d
  | trans {d e f} : Regroups d e → Regroups e f → Regroups d f
  | assoc (d e f) : Regroups (.plus (.plus d e) f) (.plus d (.plus e f))
  | strip (e) : Regroups (.parens e) e
  | plus {d d' e e'} : Regroups d d' → Regroups e e' → Regroups (.plus d e) (.plus d' e')

/-- Parentheses and grouping do not move the leaves. -/
theorem leaves_eq_of_regroups {d e : PlusChain α} (h : Regroups d e) : d.leaves = e.leaves := by
  induction h with
  | refl => rfl
  | symm _ ih => exact ih.symm
  | trans _ _ ih ih' => exact ih.trans ih'
  | assoc d e f => simp only [leaves, List.append_assoc]
  | strip e => rfl
  | plus _ _ ih ih' => rw [leaves, leaves, ih, ih']

end PlusChain

namespace SyntaxTree

variable {t : SyntaxTree}

/-- No parentheses hold more than one expression. -/
def SinglyParenthesized (t : SyntaxTree) : Prop :=
  ∀ n < t.size, t.isParen n = true → (t.parts n).length ≤ 1

/-- How the expression at a node, if there is one, is written. -/
inductive Reads (t : SyntaxTree) : Option NodeId → PlusChain NodeId → Prop where
  | absent : Reads t none .absent
  | operand {n} (hparen : t.isParen n = false) (hplus : t.isPlus n = false) :
    Reads t (some n) (.operand n)
  | emptyParens {n} (hparen : t.isParen n = true) (hempty : t.parts n = []) :
    Reads t (some n) (.parens .absent)
  | parens {n c e} (hparen : t.isParen n = true) (hc : c ∈ t.parts n) (inner : Reads t (some c) e) :
    Reads t (some n) (.parens e)
  | plus {n d e} (hplus : t.isPlus n = true) (left : Reads t (t.field? n "left") d)
    (right : Reads t (t.field? n "right") e) : Reads t (some n) (.plus d e)

/-- A `+` with both sides. -/
theorem Reads.sum {n l r : Nat} {d e : PlusChain Nat} (hplus : t.isPlus n = true)
    (hl : t.field? n "left" = some l) (hr : t.field? n "right" = some r) (left : Reads t (some l) d)
    (right : Reads t (some r) e) : Reads t (some n) (.plus d e) := by
  rw [← hl] at left
  rw [← hr] at right
  exact .plus hplus left right

/-- The operands of an expression that may be absent. -/
def operands? (t : SyntaxTree) (n : Option NodeId) : List NodeId := n.elim [] t.operands

/-! ## The walk and the recursion -/

/-- Every expression is written in some way. -/
theorem exists_reads (t : SyntaxTree) (n : Option NodeId) : ∃ e, Reads t n e := by
  -- from the leaves of the tree up, since sides and insides are children
  have hnode : ∀ n : Nat, ∃ e, Reads t (some n) e := by
    intro n
    induction n using children_induction (t := t) with
    | step n ih =>
      have hfield : ∀ role, ∃ e, Reads t (t.field? n role) e := by
        intro role
        cases hf : t.field? n role with
        | none => exact ⟨.absent, .absent⟩
        | some c => exact ih c (List.mem_of_find?_eq_some hf)
      cases hparen : t.isParen n with
      | true =>
        cases hparts : t.parts n with
        | nil => exact ⟨_, .emptyParens hparen hparts⟩
        | cons c rest =>
          have hc : c ∈ t.parts n := hparts ▸ List.mem_cons_self
          obtain ⟨e, he⟩ := ih c (mem_children_of_parent? (parent?_of_mem_parts hc))
          exact ⟨_, .parens hparen hc he⟩
      | false =>
        cases hplus : t.isPlus n with
        | true =>
          obtain ⟨d, hd⟩ := hfield "left"
          obtain ⟨e, he⟩ := hfield "right"
          exact ⟨_, .plus hplus hd he⟩
        | false => exact ⟨_, .operand hparen hplus⟩
  cases n with
  | none => exact ⟨.absent, .absent⟩
  | some n => exact hnode n

/-- The operands that the walk finds are the leaves of the chain as it is written. -/
theorem operands?_of_reads (ht : t.SinglyParenthesized) {n : Option Nat} {e : PlusChain Nat}
    (h : Reads t n e) : t.operands? n = e.leaves := by
  induction h with
  | absent => rfl
  | operand hparen hplus => exact operands_eq_self hparen hplus
  | @emptyParens n hparen hempty =>
    refine operands_of_unwrap_eq_none ?_
    rw [unwrap_of_isParen hparen, hempty]
    rfl
  | @parens n c e hparen hc _ ih =>
    have hsize : n < t.size := Nat.lt_trans (lt_of_mem_parts hc).1 (lt_of_mem_parts hc).2
    -- the expression in the parentheses is the only one, so it is the one that is looked at
    have hinner : t.unwrap n = t.unwrap c := by
      rw [unwrap_of_isParen hparen, head?_parts_of_mem (ht n hsize hparen) hc]
      rfl
    exact (operands_of_unwrap_eq hinner).trans ih
  | @plus n d e hplus _ _ ihl ihr =>
    show t.operands n = d.leaves ++ e.leaves
    rw [← ihl, ← ihr]
    exact operands_of_isPlus hplus

/-! ## Where the leaves are -/

/-- The first node is the second one or above it. -/
def Covers (t : SyntaxTree) (n a : NodeId) : Prop := n ∈ a :: t.ancestors a

theorem Covers.trans {n m a : Nat} (hnm : t.Covers n m) (hma : t.Covers m a) : t.Covers n a := by
  unfold Covers at *
  rcases List.mem_cons.1 hma with rfl | hma
  · exact hnm
  · rcases List.mem_cons.1 hnm with rfl | hnm
    · exact List.mem_cons_of_mem a hma
    · exact List.mem_cons_of_mem a (mem_ancestors_trans hnm hma)

theorem covers_of_parent? {c n : Nat} (h : t.parent? c = some n) : t.Covers n c :=
  List.mem_cons_of_mem c (mem_ancestors_of_parent? h)

/-- A leaf is inside the expression, and neither parentheses nor a `+`. -/
theorem mem_leaves_of_reads {n : Option Nat} {e : PlusChain Nat} (h : Reads t n e) {a : Nat}
    (ha : a ∈ e.leaves) :
    (∃ m ∈ n, t.Covers m a) ∧ t.isParen a = false ∧ t.isPlus a = false := by
  induction h with
  | absent => cases ha
  | @operand n hparen hplus =>
    rw [PlusChain.leaves, List.mem_singleton] at ha
    subst ha
    exact ⟨⟨a, rfl, List.mem_cons_self⟩, hparen, hplus⟩
  | emptyParens => cases ha
  | @parens n c e _ hc _ ih =>
    obtain ⟨⟨m, hm, hcovers⟩, hleaf⟩ := ih ha
    cases hm
    exact ⟨⟨n, rfl, (covers_of_parent? (parent?_of_mem_parts hc)).trans hcovers⟩, hleaf⟩
  | @plus n d e _ _ _ ihl ihr =>
    -- on which side the leaf is does not matter, only that a side is a child
    have hchild : (∃ m role, t.field? n role = some m ∧ t.Covers m a) ∧
        t.isParen a = false ∧ t.isPlus a = false := by
      rcases List.mem_append.1 ha with ha | ha
      · obtain ⟨⟨m, hm, hcovers⟩, hleaf⟩ := ihl ha
        exact ⟨⟨m, "left", hm, hcovers⟩, hleaf⟩
      · obtain ⟨⟨m, hm, hcovers⟩, hleaf⟩ := ihr ha
        exact ⟨⟨m, "right", hm, hcovers⟩, hleaf⟩
    obtain ⟨⟨m, role, hm, hcovers⟩, hleaf⟩ := hchild
    exact ⟨⟨n, rfl, (covers_of_parent? (parent?_of_field? hm)).trans hcovers⟩, hleaf⟩

/-- Some `+` in the expression has these two sides. -/
def Adds (t : SyntaxTree) (n : Option NodeId) (left right : NodeId) : Prop :=
  ∃ m ∈ n, ∃ p, t.Covers m p ∧ t.isPlus p = true ∧
    t.field? p "left" = some left ∧ t.field? p "right" = some right

theorem Adds.outwards {n l r : Nat} {inner : Option Nat} (h : t.Adds inner l r)
    (hinner : ∀ m ∈ inner, t.parent? m = some n) : t.Adds (some n) l r := by
  obtain ⟨m, hm, p, hcovers, hsides⟩ := h
  exact ⟨n, rfl, p, (covers_of_parent? (hinner m hm)).trans hcovers, hsides⟩

/-- A relation between whatever is inside the two sides of each `+` is one between the leaves. -/
theorem pairwise_leaves_of_reads {n : Option Nat} {e : PlusChain Nat} (h : Reads t n e)
    {rel : Nat → Nat → Prop}
    (hrel : ∀ l r, t.Adds n l r → ∀ a b, t.Covers l a → t.Covers r b → rel a b) :
    e.leaves.Pairwise rel := by
  induction h with
  | absent => exact .nil
  | operand => exact List.pairwise_singleton rel _
  | emptyParens => exact .nil
  | @parens n c e _ hc _ ih =>
    have hinner : ∀ m ∈ some c, t.parent? m = some n := by
      rintro m ⟨⟩
      exact parent?_of_mem_parts hc
    exact ih fun l r hadds => hrel l r (hadds.outwards hinner)
  | @plus n d e hplus left right ihl ihr =>
    refine List.pairwise_append.2 ⟨ihl fun l r hadds => ?_, ihr fun l r hadds => ?_, fun a ha b hb => ?_⟩
    · exact hrel l r (hadds.outwards fun m hm => parent?_of_field? hm)
    · exact hrel l r (hadds.outwards fun m hm => parent?_of_field? hm)
    · obtain ⟨⟨l, hl, hla⟩, -⟩ := mem_leaves_of_reads left ha
      obtain ⟨⟨r, hr, hrb⟩, -⟩ := mem_leaves_of_reads right hb
      exact hrel l r ⟨n, rfl, n, List.mem_cons_self, hplus, hl, hr⟩ a b hla hrb

/-- The subtrees of the nodes have nothing in common. -/
def Apart (t : SyntaxTree) (a b : NodeId) : Prop := ∀ m, ¬ (t.Covers a m ∧ t.Covers b m)

/-- The nodes are in different children of some node, the first one in the earlier child. -/
def Precedes (t : SyntaxTree) (a b : NodeId) : Prop :=
  ∃ p c d, t.parent? c = some p ∧ t.parent? d = some p ∧ c < d ∧ t.Covers c a ∧ t.Covers d b

/-- The two sides of an addition have one parent. -/
theorem Adds.parent? {n : Option Nat} {l r : Nat} (h : t.Adds n l r) :
    ∃ p, t.parent? l = some p ∧ t.parent? r = some p := by
  obtain ⟨-, -, p, -, -, hl, hr⟩ := h
  exact ⟨p, parent?_of_field? hl, parent?_of_field? hr⟩

theorem Adds.ne {n : Option Nat} {l r : Nat} (h : t.Adds n l r) : l ≠ r := by
  obtain ⟨-, -, p, -, -, hl, hr⟩ := h
  rintro rfl
  have hfield := (field_of_field? hl).symm.trans (field_of_field? hr)
  exact absurd hfield (by decide)

/-- Whatever is inside the two sides of a `+` is apart. -/
theorem Adds.apart {n : Option Nat} {l r a b : Nat} (h : t.Adds n l r) (ha : t.Covers l a)
    (hb : t.Covers r b) : t.Apart a b := by
  rintro m ⟨ham, hbm⟩
  obtain ⟨p, hl, hr⟩ := h.parent?
  -- both sides would be above the common node, and they are siblings
  rcases mem_ancestors_total (ha.trans ham) (hb.trans hbm) with heq | habove | habove
  · exact h.ne heq
  · exact not_mem_ancestors_of_sibling hl hr habove
  · exact not_mem_ancestors_of_sibling hr hl habove

/-- In a well nested tree a node lies within the nodes that cover it. -/
theorem WellNested.range_of_covers (ht : t.WellNested) {n a : Nat} (h : t.Covers n a) :
    t.start n ≤ t.start a ∧ t.stop a ≤ t.stop n := by
  induction a using climb_induction (t := t) with
  | root a hroot =>
    rw [Covers, ancestors_of_parent?_eq_none hroot, List.mem_singleton] at h
    rw [h]
    exact ⟨Nat.le_refl _, Nat.le_refl _⟩
  | step a p hp ih =>
    rcases List.mem_cons.1 h with rfl | h
    · exact ⟨Nat.le_refl _, Nat.le_refl _⟩
    · rw [ancestors_of_parent? hp] at h
      obtain ⟨hstart, hstop⟩ := ih h
      exact ⟨Nat.le_trans hstart (ht.start_le a p hp), Nat.le_trans (ht.stop_le a p hp) hstop⟩

end SyntaxTree

namespace CompilationUnit

open SyntaxTree

/-- A chain without a tainted operand concatenates nothing. -/
theorem concatenates_of_all_constant {u : CompilationUnit} {n : Nat}
    (h : ∀ leaf ∈ u.tree.operands n, u.isConstant leaf = true) (keywords : List String) :
    u.concatenates keywords n = false := by
  cases he : u.tree.unwrap n with
  | none => rw [concatenates, he]
  | some e =>
    refine Bool.eq_false_iff.2 fun hc => ?_
    obtain ⟨-, -, leaf, hleaf, htainted⟩ := (concatenates_iff he).1 hc
    rw [h leaf hleaf] at htainted
    cases htainted

/-- The walk over pending expressions flattens a `+` chain as the recursion over its sides does. So a leaf is
neither in parentheses nor a `+`; the leaves are disjoint subtrees, in the order of the tree and of the source
where the left side of a `+` comes first; another tree with the same chain in other groups and parentheses
has the same leaves; and a chain of constants concatenates nothing, whatever the keywords are. -/
theorem operands_are_leaves_of_chain {u : CompilationUnit} (ht : u.tree.SinglyParenthesized)
    (n : Option NodeId) :
    let leaves := u.tree.operands? n
    (∃ e, u.tree.Reads n e) ∧ (∀ e, u.tree.Reads n e → leaves = e.leaves) ∧
      (∀ leaf ∈ leaves, u.tree.isParen leaf = false ∧ u.tree.isConcatenation leaf = false) ∧
      leaves.Pairwise u.tree.Apart ∧
      ((∀ l r, u.tree.Adds n l r → l < r) → leaves.Pairwise u.tree.Precedes) ∧
      (u.tree.WellNested → (∀ l r, u.tree.Adds n l r → u.tree.stop l ≤ u.tree.start r) →
        leaves.Pairwise fun a b => u.tree.stop a ≤ u.tree.start b) ∧
      (∀ (other : SyntaxTree), other.SinglyParenthesized →
        ∀ m e e', u.tree.Reads n e → other.Reads m e' →
        ∀ {α : Type} (name name' : NodeId → α), (e.map name).Regroups (e'.map name') →
          leaves.map name = (other.operands? m).map name') ∧
      ((∀ leaf ∈ leaves, u.isConstant leaf = true) →
        ∀ keywords, n.any (u.concatenates keywords) = false) := by
  intro leaves
  obtain ⟨e, he⟩ := u.tree.exists_reads n
  have hleaves : leaves = e.leaves := operands?_of_reads ht he
  refine ⟨⟨e, he⟩, fun e' he' => operands?_of_reads ht he', ?_, ?_, ?_, ?_, ?_, ?_⟩
  · intro leaf hleaf
    obtain ⟨-, hparen, hplus⟩ := mem_leaves_of_reads he (hleaves ▸ hleaf)
    exact ⟨hparen, by rw [isConcatenation_of_not_isParen hparen, hplus]⟩
  · rw [hleaves]
    exact pairwise_leaves_of_reads he fun l r hadds a b ha hb => hadds.apart ha hb
  · intro hfirst
    rw [hleaves]
    refine pairwise_leaves_of_reads he fun l r hadds a b ha hb => ?_
    obtain ⟨p, hl, hr⟩ := hadds.parent?
    exact ⟨p, l, r, hl, hr, hfirst l r hadds, ha, hb⟩
  · intro hnested hfirst
    rw [hleaves]
    refine pairwise_leaves_of_reads he fun l r hadds a b ha hb => ?_
    exact Nat.le_trans (hnested.range_of_covers ha).2
      (Nat.le_trans (hfirst l r hadds) (hnested.range_of_covers hb).1)
  · intro other hother m d d' hd hd' α name name' hregroups
    have hsame := PlusChain.leaves_eq_of_regroups hregroups
    rw [PlusChain.leaves_map, PlusChain.leaves_map] at hsame
    rw [operands?_of_reads hother hd', ← hsame, ← operands?_of_reads ht hd]
  · intro hconstant keywords
    cases n with
    | none => rfl
    | some n => exact concatenates_of_all_constant hconstant keywords

/-! ### One sum in two groupings -/

/-- The sum of three literals, the first two in parentheses. -/
def leftGrouped : SyntaxTree :=
  .ofNodes "(\"a\"+1)+2;" #[
    ⟨none, "program", true, false, 0, 10, none⟩,
    ⟨some 0, "expression_statement", true, false, 0, 10, none⟩,
    ⟨some 1, "binary_expression", true, false, 0, 9, none⟩,
    ⟨some 2, "parenthesized_expression", true, false, 0, 7, some "left"⟩,
    ⟨some 3, "(", false, false, 0, 1, none⟩,
    ⟨some 3, "binary_expression", true, false, 1, 6, none⟩,
    ⟨some 5, "string_literal", true, false, 1, 4, some "left"⟩,
    ⟨some 6, "\"", false, false, 1, 2, none⟩,
    ⟨some 6, "string_fragment", true, false, 2, 3, none⟩,
    ⟨some 6, "\"", false, false, 3, 4, none⟩,
    ⟨some 5, "+", false, false, 4, 5, some "operator"⟩,
    ⟨some 5, "decimal_integer_literal", true, false, 5, 6, some "right"⟩,
    ⟨some 3, ")", false, false, 6, 7, none⟩,
    ⟨some 2, "+", false, false, 7, 8, some "operator"⟩,
    ⟨some 2, "decimal_integer_literal", true, false, 8, 9, some "right"⟩,
    ⟨some 1, ";", false, false, 9, 10, none⟩]

/-- The same sum, the last two literals in parentheses. -/
def rightGrouped : SyntaxTree :=
  .ofNodes "\"a\"+(1+2);" #[
    ⟨none, "program", true, false, 0, 10, none⟩,
    ⟨some 0, "expression_statement", true, false, 0, 10, none⟩,
    ⟨some 1, "binary_expression", true, false, 0, 9, none⟩,
    ⟨some 2, "string_literal", true, false, 0, 3, some "left"⟩,
    ⟨some 3, "\"", false, false, 0, 1, none⟩,
    ⟨some 3, "string_fragment", true, false, 1, 2, none⟩,
    ⟨some 3, "\"", false, false, 2, 3, none⟩,
    ⟨some 2, "+", false, false, 3, 4, some "operator"⟩,
    ⟨some 2, "parenthesized_expression", true, false, 4, 9, some "right"⟩,
    ⟨some 8, "(", false, false, 4, 5, none⟩,
    ⟨some 8, "binary_expression", true, false, 5, 8, none⟩,
    ⟨some 10, "decimal_integer_literal", true, false, 5, 6, some "left"⟩,
    ⟨some 10, "+", false, false, 6, 7, some "operator"⟩,
    ⟨some 10, "decimal_integer_literal", true, false, 7, 8, some "right"⟩,
    ⟨some 8, ")", false, false, 8, 9, none⟩,
    ⟨some 1, ";", false, false, 9, 10, none⟩]

theorem leftGrouped_wellNested : leftGrouped.WellNested := by
  obtain ⟨hstart, hstop, hinside⟩ :
      (∀ n < leftGrouped.size, String.Pos.Raw.IsValid leftGrouped.source ⟨leftGrouped.start n⟩) ∧
      (∀ n < leftGrouped.size, String.Pos.Raw.IsValid leftGrouped.source ⟨leftGrouped.stop n⟩) ∧
      ∀ n < leftGrouped.size, ∀ p ∈ leftGrouped.parent? n,
        leftGrouped.start p ≤ leftGrouped.start n ∧ leftGrouped.stop n ≤ leftGrouped.stop p := by
    decide
  exact ⟨hstart, hstop, fun n p h => (hinside n (lt_size_of_parent? h) p h).1,
    fun n p h => (hinside n (lt_size_of_parent? h) p h).2⟩

/-- The sums, the parentheses and the operands of both trees. -/
theorem grouped_nodes :
    (leftGrouped.isParen 3 = true ∧
      (leftGrouped.isPlus 2 = true ∧ leftGrouped.field? 2 "left" = some 3 ∧
        leftGrouped.field? 2 "right" = some 14) ∧
      (leftGrouped.isPlus 5 = true ∧ leftGrouped.field? 5 "left" = some 6 ∧
        leftGrouped.field? 5 "right" = some 11) ∧
      5 ∈ leftGrouped.parts 3 ∧
      ∀ n ∈ [6, 11, 14], leftGrouped.isParen n = false ∧ leftGrouped.isPlus n = false) ∧
    rightGrouped.isParen 8 = true ∧
      (rightGrouped.isPlus 2 = true ∧ rightGrouped.field? 2 "left" = some 3 ∧
        rightGrouped.field? 2 "right" = some 8) ∧
      (rightGrouped.isPlus 10 = true ∧ rightGrouped.field? 10 "left" = some 11 ∧
        rightGrouped.field? 10 "right" = some 13) ∧
      10 ∈ rightGrouped.parts 8 ∧
      ∀ n ∈ [3, 11, 13], rightGrouped.isParen n = false ∧ rightGrouped.isPlus n = false := by
  decide +kernel

theorem reads_leftGrouped :
    leftGrouped.Reads (some 2) (.plus (.parens (.plus (.operand 6) (.operand 11))) (.operand 14)) := by
  obtain ⟨⟨hparen, hplus, hinner, hpart, hleaves⟩, -⟩ := grouped_nodes
  have hoperand : ∀ n ∈ [6, 11, 14], leftGrouped.Reads (some n) (.operand n) :=
    fun n hn => .operand (hleaves n hn).1 (hleaves n hn).2
  have hsum := Reads.sum hinner.1 hinner.2.1 hinner.2.2 (hoperand 6 (by simp)) (hoperand 11 (by simp))
  exact .sum hplus.1 hplus.2.1 hplus.2.2 (.parens hparen hpart hsum) (hoperand 14 (by simp))

theorem reads_rightGrouped :
    rightGrouped.Reads (some 2) (.plus (.operand 3) (.parens (.plus (.operand 11) (.operand 13)))) := by
  obtain ⟨-, hparen, hplus, hinner, hpart, hleaves⟩ := grouped_nodes
  have hoperand : ∀ n ∈ [3, 11, 13], rightGrouped.Reads (some n) (.operand n) :=
    fun n hn => .operand (hleaves n hn).1 (hleaves n hn).2
  have hsum := Reads.sum hinner.1 hinner.2.1 hinner.2.2 (hoperand 11 (by simp)) (hoperand 13 (by simp))
  exact .sum hplus.1 hplus.2.1 hplus.2.2 (hoperand 3 (by simp)) (.parens hparen hpart hsum)

/-- The two groupings of the sum have the same operands, in the order of the source, and nothing is
concatenated in either. -/
theorem operands_of_leftGrouped :
    let u := CompilationUnit.ofTree "Sum.java" leftGrouped
    u.tree.SinglyParenthesized ∧ rightGrouped.SinglyParenthesized ∧
      u.tree.operands? (some 2) = [6, 11, 14] ∧
      List.Pairwise u.tree.Apart [6, 11, 14] ∧ List.Pairwise u.tree.Precedes [6, 11, 14] ∧
      List.Pairwise (fun a b => u.tree.stop a ≤ u.tree.start b) [6, 11, 14] ∧
      [6, 11, 14].map u.tree.text = (rightGrouped.operands? (some 2)).map rightGrouped.text ∧
      ∀ keywords, u.concatenates keywords 2 = false := by
  intro u
  obtain ⟨hsingle, hother, hfirst⟩ :
      leftGrouped.SinglyParenthesized ∧ rightGrouped.SinglyParenthesized ∧
      ∀ p < leftGrouped.size, ∀ l ∈ leftGrouped.field? p "left", ∀ r ∈ leftGrouped.field? p "right",
        l < r ∧ leftGrouped.stop l ≤ leftGrouped.start r := by
    unfold SinglyParenthesized
    decide +kernel
  obtain ⟨hconstant, htext⟩ :
      (∀ leaf ∈ [6, 11, 14], u.isConstant leaf = true) ∧
      leftGrouped.text 6 = rightGrouped.text 3 ∧ leftGrouped.text 11 = rightGrouped.text 11 ∧
        leftGrouped.text 14 = rightGrouped.text 13 := by
    decide +kernel
  obtain ⟨-, hleaves, -, hapart, hprecedes, hsource, hsame, hnone⟩ :=
    operands_are_leaves_of_chain (u := u) hsingle (some 2)
  have hoperands : u.tree.operands? (some 2) = [6, 11, 14] := hleaves _ reads_leftGrouped
  simp only [hoperands] at hapart hprecedes hsource hsame hnone
  have hordered : ∀ l r, leftGrouped.Adds (some 2) l r →
      l < r ∧ leftGrouped.stop l ≤ leftGrouped.start r := by
    rintro l r ⟨-, -, p, -, hp, hl, hr⟩
    exact hfirst p (lt_size_of_isPlus hp) l hl r hr
  have hregroups : (PlusChain.map leftGrouped.text
        (.plus (.parens (.plus (.operand 6) (.operand 11))) (.operand 14))).Regroups
      (PlusChain.map rightGrouped.text
        (.plus (.operand 3) (.parens (.plus (.operand 11) (.operand 13))))) := by
    simp only [PlusChain.map, htext]
    -- strip the first parentheses, group to the right and put the others around
    exact (((PlusChain.Regroups.strip _).plus (.refl _)).trans (.assoc _ _ _)).trans
      ((PlusChain.Regroups.refl _).plus (.symm (.strip _)))
  exact ⟨hsingle, hother, hoperands, hapart, hprecedes fun l r hadds => (hordered l r hadds).1,
    hsource leftGrouped_wellNested fun l r hadds => (hordered l r hadds).2,
    hsame rightGrouped hother (some 2) _ _ reads_leftGrouped reads_rightGrouped _ _ hregroups,
    hnone hconstant⟩

end CompilationUnit

end JavaAudit
