import JavaAudit.SyntaxTree.Walk

/-!
# Parents and ancestors

How the two directions of a syntax tree fit together: a child reached from its parent, by whatever
role or type, has that parent, and the ancestors of an ancestor end the list of ancestors
(`ancestors_eq_append`). The descendants of a node are told by their ancestors, where everything above a
named node is named (`mem_descendants_iff`). `climb` cuts the list of ancestors at the first node that a
walk does not pass. Everything that is shown by climbing a tree goes through these lemmas, so no later
proof opens `ancestors` or `children`.
-/

namespace JavaAudit.SyntaxTree

variable {t : SyntaxTree} {n p : Nat}

/-- Different nodes have different keys: no two cover the same bytes under one type. -/
def DistinctKeys (t : SyntaxTree) : Prop :=
  ∀ m < t.size, ∀ k < t.size, t.key m = t.key k → m = k

/-- What holds of any two entries of the list of nodes holds of any two nodes in their order. -/
theorem of_pairwise_nodes {α : Type} {f : Node → α} {R : α → α → Prop} (h : (t.nodes.toList.map f).Pairwise R)
    {i j : Nat} (hij : i < j) (hj : j < t.size) : R (f (t.node i)) (f (t.node j)) := by
  have hlength : (t.nodes.toList.map f).length = t.size := by
    rw [List.length_map]
    rfl
  have hentry : ∀ k (hk : k < t.size), (t.nodes.toList.map f)[k] = f (t.node k) := by
    intro k hk
    rw [List.getElem_map, node, Array.getD_eq_getD_getElem?, Array.getElem?_eq_getElem hk]
    rfl
  have hpair := List.pairwise_iff_getElem.1 h i j (by omega) (by omega) hij
  rwa [hentry i (by omega), hentry j hj] at hpair

/-- Keys are distinct if the list of them has no duplicates. -/
theorem DistinctKeys.of_nodup
    (h : (t.nodes.toList.map fun node => (node.start, node.stop, node.type)).Nodup) : t.DistinctKeys := by
  intro m hm k hk hkey
  rcases Nat.lt_trichotomy m k with hlt | heq | hlt
  · exact absurd hkey (of_pairwise_nodes h hlt hk)
  · exact heq
  · exact absurd hkey.symm (of_pairwise_nodes h hlt hm)

/-- What the grammar says of every tree: the children of a node stand in the order of the source, and what a
declaration of local variables declares are variable declarators. -/
structure WellFormed (t : SyntaxTree) : Prop where
  ordered : ∀ c d p, t.parent? c = some p → t.parent? d = some p → c < d → t.start c ≤ t.start d
  declarators : ∀ s, t.type s = "local_variable_declaration" → ∀ d ∈ t.fields s "declarator",
    t.type d = "variable_declarator"

/-! ## From a child to its parent -/

theorem parent?_of_mem_children {c : Nat} (h : c ∈ t.children n) : t.parent? c = some n :=
  ((t.mem_children).1 h).2.2

theorem parent?_of_mem_parts {c : Nat} (h : c ∈ t.parts n) : t.parent? c = some n :=
  parent?_of_mem_children (List.mem_filter.1 (List.mem_filter.1 h).1).1

theorem parent?_of_mem_fields {c : Nat} {role : String} (h : c ∈ t.fields n role) :
    t.parent? c = some n :=
  parent?_of_mem_children (List.mem_filter.1 h).1

theorem parent?_of_field? {c : Nat} {role : String} (h : t.field? n role = some c) :
    t.parent? c = some n :=
  parent?_of_mem_children (List.mem_of_find?_eq_some h)

theorem field_of_field? {c : Nat} {role : String} (h : t.field? n role = some c) :
    (t.node c).field = some role := by
  have hrole := List.find?_some h
  exact beq_iff_eq.1 hrole

theorem parent?_of_childOfType? {c : Nat} {types : List String}
    (h : t.childOfType? n types = some c) : t.parent? c = some n :=
  parent?_of_mem_children (List.mem_of_find?_eq_some h)

theorem lt_size_of_parent? (h : t.parent? n = some p) : n < t.size := by
  rcases Nat.lt_or_ge n t.size with hlt | hge
  · exact hlt
  · have hnone : t.nodes[n]? = none := Array.getElem?_eq_none hge
    simp [parent?, parentAt, hnone] at h

/-- A number that is no node has the empty type. -/
theorem type_eq_empty_of_size_le (h : t.size ≤ n) : t.type n = "" := by
  have hnone : t.nodes[n]? = none := Array.getElem?_eq_none h
  rw [type, node, Array.getD_eq_getD_getElem?, hnone]
  rfl

/-- Only a node of the tree has a type. -/
theorem lt_size_of_type_ne (h : t.type n ≠ "") : n < t.size :=
  Nat.lt_of_not_le fun hge => h (type_eq_empty_of_size_le hge)

theorem mem_children_of_parent? (h : t.parent? n = some p) : n ∈ t.children p := by
  have hn := lt_size_of_parent? h
  exact (t.mem_children).2 ⟨Nat.lt_trans (lt_of_parent? h) hn, hn, h⟩

/-- A node that is named and no comment is one of the parts of its parent. -/
theorem mem_parts_of_parent? (h : t.parent? n = some p) (hnamed : t.isNamed n = true)
    (hcomment : t.isA n commentTypes = false) : n ∈ t.parts p := by
  refine List.mem_filter.2 ⟨List.mem_filter.2 ⟨mem_children_of_parent? h, hnamed⟩, ?_⟩
  rw [hcomment]
  rfl

/-! ## Ancestors -/

theorem ancestors_of_parent?_eq_none (h : t.parent? n = none) : t.ancestors n = [] := by
  rw [ancestors]
  split
  · rfl
  · next q hq => rw [h] at hq; cases hq

theorem ancestors_of_parent? (h : t.parent? n = some p) : t.ancestors n = p :: t.ancestors p := by
  rw [ancestors]
  split
  · next hq => rw [h] at hq; cases hq
  · next q hq =>
    rw [h] at hq
    cases hq
    rfl

theorem mem_ancestors_of_parent? (h : t.parent? n = some p) : p ∈ t.ancestors n := by
  rw [ancestors_of_parent? h]
  exact List.mem_cons_self

/-- What holds where there is no parent, and at a node whenever it holds at its parent, holds at every
node. -/
theorem climb_induction {motive : Nat → Prop} (root : ∀ n, t.parent? n = none → motive n)
    (step : ∀ n p, t.parent? n = some p → motive p → motive n) (n : Nat) : motive n := by
  induction n using Nat.strongRecOn with
  | _ n ih =>
    cases h : t.parent? n with
    | none => exact root n h
    | some p => exact step n p h (ih p (lt_of_parent? h))

/-- What holds at a node whenever it holds at all its children holds at every node. -/
theorem children_induction {motive : Nat → Prop}
    (step : ∀ n, (∀ c ∈ t.children n, motive c) → motive n) (n : Nat) : motive n := by
  refine step n fun c hc => ?_
  exact children_induction step c
termination_by t.size - n
decreasing_by
  have := lt_of_mem_children hc
  omega

/-- What holds at a node whenever it holds at all its named children holds at every node. -/
theorem namedChildren_induction {motive : Nat → Prop}
    (step : ∀ n, (∀ c ∈ t.namedChildren n, motive c) → motive n) (n : Nat) : motive n :=
  children_induction (fun n ih => step n fun c hc => ih c (List.mem_filter.1 hc).1) n

/-- What holds at a node whenever it holds at all its parts holds at every node. -/
theorem parts_induction {motive : Nat → Prop} (step : ∀ n, (∀ c ∈ t.parts n, motive c) → motive n)
    (n : Nat) : motive n :=
  namedChildren_induction (fun n ih => step n fun c hc => ih c (List.mem_filter.1 hc).1) n

/-- The ancestors of an ancestor come right behind it. -/
theorem ancestors_eq_append {a : Nat} (h : a ∈ t.ancestors n) :
    ∃ between, t.ancestors n = between ++ a :: t.ancestors a := by
  induction n using climb_induction (t := t) with
  | root n hn =>
    rw [ancestors_of_parent?_eq_none hn] at h
    cases h
  | step n p hp ih =>
    rw [ancestors_of_parent? hp] at h ⊢
    rcases List.mem_cons.1 h with rfl | h
    · exact ⟨[], rfl⟩
    · obtain ⟨between, hb⟩ := ih h
      exact ⟨p :: between, by rw [hb]; rfl⟩

theorem mem_ancestors_trans {a b : Nat} (hab : a ∈ t.ancestors b) (hbn : b ∈ t.ancestors n) :
    a ∈ t.ancestors n := by
  obtain ⟨between, hb⟩ := ancestors_eq_append hbn
  rw [hb]
  exact List.mem_append_right between (List.mem_cons_of_mem b hab)

/-- What comes behind an ancestor in the list is what is above it. -/
theorem ancestors_of_append {a : Nat} {front back : List Nat}
    (h : t.ancestors n = front ++ a :: back) : t.ancestors a = back := by
  induction n using climb_induction (t := t) generalizing front with
  | root n hn =>
    rw [ancestors_of_parent?_eq_none hn] at h
    exact absurd h (by simp)
  | step n p hp ih =>
    rw [ancestors_of_parent? hp] at h
    cases front with
    | nil =>
      obtain ⟨rfl, hback⟩ := List.cons.inj h
      exact hback
    | cons b front => exact ih (List.cons.inj h).2

/-- What comes before an ancestor in the list is below it. -/
theorem mem_ancestors_of_append {a b : Nat} {front back : List Nat}
    (h : t.ancestors n = front ++ a :: back) (hb : b ∈ front) : a ∈ t.ancestors b := by
  obtain ⟨before, after, rfl⟩ := List.append_of_mem hb
  rw [List.append_assoc, List.cons_append] at h
  rw [ancestors_of_append h]
  exact List.mem_append_right after List.mem_cons_self

theorem mem_ancestors_step {a : Nat} (h : t.parent? n = some p) (ha : a ∈ t.ancestors p) :
    a ∈ t.ancestors n :=
  mem_ancestors_trans ha (mem_ancestors_of_parent? h)

/-- A tree is numbered in preorder, so that all ancestors come earlier. -/
theorem lt_of_mem_ancestors {a : Nat} (h : a ∈ t.ancestors n) : a < n := by
  induction n using climb_induction (t := t) with
  | root n hn =>
    rw [ancestors_of_parent?_eq_none hn] at h
    cases h
  | step n p hp ih =>
    rw [ancestors_of_parent? hp] at h
    have hpn := lt_of_parent? hp
    rcases List.mem_cons.1 h with rfl | h
    · exact hpn
    · exact Nat.lt_trans (ih h) hpn

theorem lt_size_of_mem_ancestors {a : Nat} (h : a ∈ t.ancestors n) : n < t.size := by
  cases hp : t.parent? n with
  | none =>
    rw [ancestors_of_parent?_eq_none hp] at h
    cases h
  | some p => exact lt_size_of_parent? hp

/-- Of two nodes on the way from a node to the root, one is above the other. -/
theorem mem_ancestors_total {a b : Nat} (ha : a ∈ n :: t.ancestors n) (hb : b ∈ n :: t.ancestors n) :
    a = b ∨ a ∈ t.ancestors b ∨ b ∈ t.ancestors a := by
  induction n using climb_induction (t := t) with
  | root n hn =>
    rw [ancestors_of_parent?_eq_none hn, List.mem_singleton] at ha hb
    exact .inl (ha.trans hb.symm)
  | step n p hp ih =>
    -- either one of them is the node itself, or both are on the way up from its parent
    rcases List.mem_cons.1 ha with rfl | ha'
    · rcases List.mem_cons.1 hb with rfl | hb'
      · exact .inl rfl
      · exact .inr (.inr hb')
    · rcases List.mem_cons.1 hb with rfl | hb'
      · exact .inr (.inl ha')
      · rw [ancestors_of_parent? hp] at ha' hb'
        exact ih ha' hb'

/-- The ways up from two children of a node do not meet below it. -/
theorem not_mem_ancestors_of_sibling {a b : Nat} (ha : t.parent? a = some p)
    (hb : t.parent? b = some p) : a ∉ t.ancestors b := by
  intro h
  -- above `b` there is only the common parent and what is above that, and all of it precedes `a`
  have hlt := lt_of_parent? ha
  rw [ancestors_of_parent? hb] at h
  rcases List.mem_cons.1 h with rfl | h
  · exact Nat.lt_irrefl _ hlt
  · exact Nat.lt_asymm hlt (lt_of_mem_ancestors h)

/-! ## Named descendants -/

/-- Everything above a named node is named. -/
def NamedAbove (t : SyntaxTree) : Prop :=
  ∀ n < t.size, t.isNamed n = true → ∀ a ∈ t.ancestors n, t.isNamed a = true

/-- The named descendants are the named children and their named descendants. -/
theorem mem_descendants_iff_child {c : Nat} :
    c ∈ t.descendants n ↔ ∃ d ∈ t.namedChildren n, c = d ∨ c ∈ t.descendants d := by
  rw [descendants_eq, List.mem_flatMap]
  simp only [List.mem_cons]

/-- A descendant is named and has the node above it. -/
theorem isNamed_and_mem_ancestors_of_mem_descendants {c : Nat} (h : c ∈ t.descendants n) :
    t.isNamed c = true ∧ n ∈ t.ancestors c := by
  induction n using namedChildren_induction (t := t) with
  | step n ih =>
    obtain ⟨d, hd, hc⟩ := mem_descendants_iff_child.1 h
    obtain ⟨hchild, hnamed⟩ := List.mem_filter.1 hd
    have habove := mem_ancestors_of_parent? (parent?_of_mem_children hchild)
    rcases hc with rfl | hc
    · exact ⟨hnamed, habove⟩
    · obtain ⟨hnamed', hd'⟩ := ih d hd hc
      exact ⟨hnamed', mem_ancestors_trans habove hd'⟩

/-- Named children of descendants are descendants. -/
theorem mem_descendants_of_namedChild {m c : Nat} (h : m ∈ t.descendants n)
    (hc : c ∈ t.namedChildren m) : c ∈ t.descendants n := by
  induction n using namedChildren_induction (t := t) with
  | step n ih =>
    obtain ⟨d, hd, hm⟩ := mem_descendants_iff_child.1 h
    refine mem_descendants_iff_child.2 ⟨d, hd, .inr ?_⟩
    rcases hm with rfl | hm
    · exact mem_descendants_iff_child.2 ⟨c, hc, .inl rfl⟩
    · exact ih d hd hm

/-- Where everything above a named node is named, the descendants of a node are the named nodes that
have it above them. -/
theorem mem_descendants_iff {c : Nat} (ht : t.NamedAbove) :
    c ∈ t.descendants n ↔ t.isNamed c = true ∧ n ∈ t.ancestors c := by
  refine ⟨isNamed_and_mem_ancestors_of_mem_descendants, ?_⟩
  rintro ⟨hnamed, habove⟩
  induction c using climb_induction (t := t) with
  | root c hc =>
    rw [ancestors_of_parent?_eq_none hc] at habove
    cases habove
  | step c p hp ih =>
    have hchild : c ∈ t.namedChildren p := List.mem_filter.2 ⟨mem_children_of_parent? hp, hnamed⟩
    rw [ancestors_of_parent? hp] at habove
    rcases List.mem_cons.1 habove with rfl | habove
    · exact mem_descendants_iff_child.2 ⟨c, hchild, .inl rfl⟩
    · have hpnamed := ht c (lt_size_of_parent? hp) hnamed p (mem_ancestors_of_parent? hp)
      exact mem_descendants_of_namedChild (ih hpnamed habove) hchild

/-! ## Climbing while a condition holds -/

/-- The ancestors of a node, nearest first, up to the first one that climbing does not pass. -/
def climb (t : SyntaxTree) (pass : NodeId → Bool) (n : NodeId) : List NodeId :=
  (t.ancestors n).takeWhile pass

variable {pass : Nat → Bool}

theorem climb_of_parent?_eq_none (h : t.parent? n = none) : t.climb pass n = [] := by
  rw [climb, ancestors_of_parent?_eq_none h]
  rfl

/-- One step of the climb: to the parent if the condition lets it pass, else nowhere. -/
theorem climb_of_parent? (h : t.parent? n = some p) :
    t.climb pass n = if pass p then p :: t.climb pass p else [] := by
  rw [climb, ancestors_of_parent? h, List.takeWhile_cons]
  rfl

/-- Climbing on from a node that was reached. -/
theorem climb_of_append {a : Nat} {front back : List Nat}
    (h : t.climb pass n = front ++ a :: back) : t.climb pass a = back := by
  induction n using climb_induction (t := t) generalizing front with
  | root n hn =>
    rw [climb_of_parent?_eq_none hn] at h
    exact absurd h (by simp)
  | step n p hp ih =>
    rw [climb_of_parent? hp] at h
    split at h
    · cases front with
      | nil =>
        obtain ⟨rfl, hback⟩ := List.cons.inj h
        exact hback
      | cons b front => exact ih (List.cons.inj h).2
    · exact absurd h (by simp)

end JavaAudit.SyntaxTree
