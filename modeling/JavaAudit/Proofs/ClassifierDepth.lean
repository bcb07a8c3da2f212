import Mathlib.Data.List.Forall2
import JavaAudit.Proofs.SufficientRoom
import JavaAudit.Proofs.Traversal

/-!
# The bound on depth hides nothing

Classification follows conditionals, array literals and calls that build a collection only so far
down. A `Classifier` is one step of it, which answers for an expression from the answers for the
expressions it goes on to. The recursion that is run and the one without a bound take the same step over and
over (`isConstantWithin_eq_within`, `isUnsafeWithin_eq_within`, `Classifier.atAnyDepth_eq`), and only the answer where
the first one stops is different.

A step keeps the direction of an approximation, so that this answer alone decides on which side the
recursion errs: what is found constant is constant, and what is unsafe is found unsafe. Every step goes down a
level (`Classifier.depthOf_lt`), so where the bound is not reached there is no difference at all. Rules that fire
at what is not constant or is unsafe then report whatever they would report without the bound.

How deep expressions nest (`nesting`) and how many levels are spent on them (`levels`) are two numbers. An array
literal with a type in front, `new T[]{..}`, is one literal and takes two levels, so that the bound of 200 levels
is reached by 101 of them (`levels_le`).
-/

namespace JavaAudit

open Rule.CommandInjection (buildsCollection)

/-! ## Counting nodes on the way down -/

namespace SyntaxTree

variable {t : SyntaxTree} {n e c : Nat}

theorem mem_children_of_mem_parts (h : c ∈ t.parts n) : c ∈ t.children n :=
  mem_children_of_parent? (parent?_of_mem_parts h)

/-- The most nodes with a property on a way down from a node, with the node itself. -/
def depthOf (t : SyntaxTree) (counts : NodeId → Bool) (n : NodeId) : Nat :=
  (counts n).toNat + ((t.children n).attach.map fun ⟨c, _h⟩ => depthOf t counts c).max?.getD 0
termination_by t.size - n
decreasing_by
  have := lt_of_mem_children _h
  omega

variable {counts : NodeId → Bool}

/-- A node counts for itself, and below it the way that counts most. -/
theorem depthOf_eq (t : SyntaxTree) (counts : NodeId → Bool) (n : NodeId) :
    t.depthOf counts n = (counts n).toNat + ((t.children n).map (t.depthOf counts)).max?.getD 0 := by
  rw [depthOf, List.map_attach_eq_pmap, List.pmap_eq_map]

theorem add_depthOf_le (h : c ∈ t.children n) :
    (counts n).toNat + t.depthOf counts c ≤ t.depthOf counts n := by
  rw [depthOf_eq t counts n]
  exact Nat.add_le_add_left (List.le_max?_getD_of_mem (List.mem_map_of_mem h)) _

theorem depthOf_le_of_mem_children (h : c ∈ t.children n) : t.depthOf counts c ≤ t.depthOf counts n :=
  Nat.le_trans (Nat.le_add_left _ _) (add_depthOf_le h)

theorem depthOf_le {bound : Nat} (h : ∀ c ∈ t.children n, t.depthOf counts c ≤ bound) :
    t.depthOf counts n ≤ (counts n).toNat + bound := by
  rw [depthOf_eq]
  refine Nat.add_le_add_left ?_ _
  cases hmax : ((t.children n).map (t.depthOf counts)).max? with
  | none => exact Nat.zero_le _
  | some most =>
    obtain ⟨c, hc, rfl⟩ := List.mem_map.1 (List.max?_mem hmax)
    exact h c hc

/-- A number for each node bounds the count if it falls at every node that is counted and never grows. -/
theorem depthOf_le_of_potential {potential : NodeId → Nat} (hself : ∀ n, (counts n).toNat ≤ potential n)
    (hdown : ∀ n, ∀ c ∈ t.children n, (counts n).toNat + potential c ≤ potential n) (n : NodeId) :
    t.depthOf counts n ≤ potential n := by
  induction hk : t.size - n using Nat.strong_induction_on generalizing n with
  | _ k ih =>
    have hchild : ∀ c ∈ t.children n, t.depthOf counts c ≤ potential n - (counts n).toNat := by
      intro c hc
      have hlt := lt_of_mem_children hc
      have hstep := hdown n c hc
      have hrest := ih (t.size - c) (by omega) c rfl
      omega
    have hle := depthOf_le hchild
    have hn := hself n
    omega

/-- Within parentheses there is nothing more to count. -/
theorem depthOf_le_of_unwrap (h : t.unwrap n = some e) : t.depthOf counts e ≤ t.depthOf counts n := by
  fun_induction unwrap t n with
  | case1 => cases h
  | case2 n _ c hc ih =>
    have hchild : c ∈ t.children n := mem_children_of_mem_parts (List.mem_of_mem_head? hc)
    exact Nat.le_trans (ih h) (depthOf_le_of_mem_children hchild)
  | case3 n => exact Nat.le_of_eq (congrArg (t.depthOf counts) (Option.some.inj h).symm)

/-- Are these the braces of an array literal that has a type in front? -/
def isLiteralBody (t : SyntaxTree) (n : NodeId) : Bool :=
  t.type n = "array_initializer" && (t.parent? n).any fun p => t.type p = "array_creation_expression"

end SyntaxTree

/-! ## What an expression holds -/

namespace CompilationUnit

open SyntaxTree

variable {u : CompilationUnit} {n e c : Nat}

/-- An expression is one of the two between which a conditional chooses. -/
def IsBranch (u : CompilationUnit) (e c : NodeId) : Prop :=
  u.tree.type e = "ternary_expression" ∧
    (u.tree.field? e "consequence" = some c ∨ u.tree.field? e "alternative" = some c)

/-- An expression directly holds another one that may be its value or one of the values in it: a branch
of a conditional, an element of an array literal, or an argument of a call that builds a collection. -/
inductive Holds (u : CompilationUnit) (e c : NodeId) : Prop where
  | branch (h : u.IsBranch e c)
  | value (he : u.tree.type e = "array_creation_expression") (hc : u.tree.field? e "value" = some c)
  | element (he : u.tree.type e = "array_initializer") (hc : c ∈ u.tree.parts e)
  | argument (he : buildsCollection u e = true) (hc : c ∈ u.tree.arguments e)

/-- Does classification take a level for a node: for a conditional, for an array literal, or for a call that
builds a collection? In `new T[]{..}` it takes one for the creation and another one for the braces. -/
def takesLevel (u : CompilationUnit) (n : NodeId) : Bool :=
  u.tree.kind? n = some .conditional || u.tree.kind? n = some .arrayLiteral || buildsCollection u n

/-- Is the node a conditional, an array literal or a call that builds a collection? The literal `new T[]{..}` is
one node of these, the creation, and its braces are no other one. -/
def nests (u : CompilationUnit) (n : NodeId) : Bool := u.takesLevel n && !u.tree.isLiteralBody n

/-- How many levels classification takes for a node at most. -/
def levels (u : CompilationUnit) : NodeId → Nat := u.tree.depthOf u.takesLevel

/-- How deep conditionals, array literals and calls that build a collection nest in a node, where `new T[]{..}`
counts once. -/
def nesting (u : CompilationUnit) : NodeId → Nat := u.tree.depthOf u.nests

theorem takesLevel_of_type (h : u.tree.type n = "ternary_expression" ∨
    u.tree.type n = "array_creation_expression" ∨ u.tree.type n = "array_initializer") :
    u.takesLevel n = true := by
  unfold takesLevel kind?
  rcases h with h | h | h <;> (rw [h]; rfl)

theorem IsBranch.nests (h : u.IsBranch e c) : u.nests e = true := by
  have hbody : u.tree.isLiteralBody e = false := by
    rw [isLiteralBody, h.1]
    rfl
  rw [CompilationUnit.nests, takesLevel_of_type (.inl h.1), hbody]
  rfl

/-- Classification goes on only from a node that takes a level. -/
theorem Holds.takesLevel (h : u.Holds e c) : u.takesLevel e = true := by
  cases h with
  | branch h => exact takesLevel_of_type (.inl h.1)
  | value he _ => exact takesLevel_of_type (.inr (.inl he))
  | element he _ => exact takesLevel_of_type (.inr (.inr he))
  | argument he _ => rw [CompilationUnit.takesLevel, he, Bool.or_true]

theorem IsBranch.mem_children (h : u.IsBranch e c) : c ∈ u.tree.children e := by
  rcases h.2 with hc | hc <;> exact mem_children_of_parent? (parent?_of_field? hc)

/-- What is held is a child, or a child of the list of arguments. -/
theorem Holds.below (h : u.Holds e c) :
    c ∈ u.tree.children e ∨ ∃ args ∈ u.tree.children e, c ∈ u.tree.children args := by
  cases h with
  | branch h => exact .inl h.mem_children
  | value _ hc => exact .inl (mem_children_of_parent? (parent?_of_field? hc))
  | element _ hc => exact .inl (mem_children_of_mem_parts hc)
  | argument _ hc =>
    unfold arguments at hc
    split at hc
    · cases hc
    · next args hargs =>
      have hlist : args ∈ u.tree.children e := mem_children_of_parent? (parent?_of_field? hargs)
      exact .inr ⟨args, hlist, mem_children_of_mem_parts hc⟩

/-- The braces of a literal take a level that is not counted in the nesting, and nothing else does. -/
theorem toNat_takesLevel (u : CompilationUnit) (n : NodeId) :
    (u.takesLevel n).toNat = (u.nests n).toNat + (u.tree.isLiteralBody n).toNat := by
  unfold nests
  cases hbody : u.tree.isLiteralBody n with
  | false => simp
  | true =>
    have htype : u.tree.type n = "array_initializer" := by
      unfold isLiteralBody at hbody
      exact of_decide_eq_true (Bool.and_eq_true_iff.1 hbody).1
    rw [takesLevel_of_type (.inr (.inr htype))]
    rfl

/-- The braces of a literal are below a node of their own, which is not itself such braces. -/
theorem nests_of_isLiteralBody (hc : c ∈ u.tree.children n) (h : u.tree.isLiteralBody c = true) :
    u.nests n = true := by
  unfold isLiteralBody at h
  rw [parent?_of_mem_children hc, Bool.and_eq_true] at h
  have htype : u.tree.type n = "array_creation_expression" := of_decide_eq_true h.2
  have hbody : u.tree.isLiteralBody n = false := by
    rw [isLiteralBody, htype]
    rfl
  rw [nests, takesLevel_of_type (.inr (.inl htype)), hbody]
  rfl

/-- Nesting takes at most two levels for each. Between the braces of a literal one level is taken already. -/
theorem levels_le (u : CompilationUnit) (n : NodeId) :
    u.levels n ≤ 2 * u.nesting n + (u.tree.isLiteralBody n).toNat := by
  -- the braces of a literal take a level and do not nest, but what they are the braces of does both
  induction hk : u.tree.size - n using Nat.strong_induction_on generalizing n with
  | _ k ih =>
    have hchild : ∀ c ∈ u.tree.children n, u.levels c ≤ 2 * u.nesting n - (u.nests n).toNat := by
      intro c hc
      have hlt := lt_of_mem_children hc
      have hlevels := ih (u.tree.size - c) (by omega) c rfl
      have hnesting : (u.nests n).toNat + u.nesting c ≤ u.nesting n := add_depthOf_le hc
      cases hbody : u.tree.isLiteralBody c with
      | false =>
        rw [hbody, Bool.toNat_false] at hlevels
        omega
      | true =>
        rw [nests_of_isLiteralBody hc hbody, Bool.toNat_true] at hnesting ⊢
        rw [hbody, Bool.toNat_true] at hlevels
        omega
    have hlevels : u.levels n ≤ (u.takesLevel n).toNat + _ := depthOf_le hchild
    have hself : (u.nests n).toNat ≤ u.nesting n := by
      rw [nesting, depthOf_eq]
      exact Nat.le_add_right _ _
    rw [toNat_takesLevel] at hlevels
    omega

/-! ## Classifiers -/

/-- One step of classification: an answer for each expression from the answers for those that it goes on to. Where
those stay or become `true`, a `true` stays. -/
structure Classifier (u : CompilationUnit) where
  goesOn : NodeId → NodeId → Prop
  below : ∀ {e c : NodeId}, goesOn e c →
    c ∈ u.tree.children e ∨ ∃ args ∈ u.tree.children e, c ∈ u.tree.children args
  classify : (NodeId → Bool) → NodeId → Bool
  mono : ∀ {f g : NodeId → Bool} {n : NodeId},
    (∀ e c, u.tree.unwrap n = some e → goesOn e c → f c = true → g c = true) →
    classify f n = true → classify g n = true

namespace Classifier

variable (s : u.Classifier)

/-- The answers of the recursion without a bound. It asks about later nodes only, and everything that an
expression holds comes later. -/
def atAnyDepth (n : NodeId) : Bool :=
  s.classify (fun c => if _h : n < c ∧ c < u.tree.size then atAnyDepth c else false) n
termination_by u.tree.size - n
decreasing_by exact Nat.sub_lt_sub_left (Nat.lt_trans _h.1 _h.2) _h.1

/-- The answers of the recursion that goes down `depth` steps and has other answers where it stops. -/
def within (atBound : NodeId → Bool) : (depth : Nat) → NodeId → Bool
  | 0 => atBound
  | depth + 1 => s.classify (within atBound depth)

variable {s} {f g : NodeId → Bool}

theorem lt_of_goesOn (h : s.goesOn e c) : e < c ∧ c < u.tree.size := by
  rcases s.below h with hc | ⟨args, hargs, hc⟩
  · exact lt_of_mem_children hc
  · have hlt := lt_of_mem_children hc
    exact ⟨Nat.lt_trans (lt_of_mem_children hargs).1 hlt.1, hlt.2⟩

/-- Fewer nodes are counted below what a step goes on to if the one before is counted. -/
theorem depthOf_lt {counts : NodeId → Bool} (h : s.goesOn e c) (he : counts e = true) :
    u.tree.depthOf counts c < u.tree.depthOf counts e := by
  have hstep : ∀ d ∈ u.tree.children e, u.tree.depthOf counts d < u.tree.depthOf counts e := by
    intro d hd
    have hle : (counts e).toNat + u.tree.depthOf counts d ≤ _ := add_depthOf_le hd
    rw [he, Bool.toNat_true, Nat.add_comm] at hle
    exact hle
  rcases s.below h with hc | ⟨args, hargs, hc⟩
  · exact hstep c hc
  · exact Nat.lt_of_le_of_lt (depthOf_le_of_mem_children hc) (hstep args hargs)

/-- The answer for an expression depends on the answers for those that classification goes on to, and on no
others. -/
theorem classify_congr (h : ∀ e c, u.tree.unwrap n = some e → s.goesOn e c → f c = g c) :
    s.classify f n = s.classify g n := by
  refine Bool.eq_iff_iff.2 ⟨s.mono ?_, s.mono ?_⟩
  · intro e c hn hc hf
    rw [← h e c hn hc, hf]
  · intro e c hn hc hg
    rw [h e c hn hc, hg]

/-- Without a bound, each answer is one step from the answers for what is held. -/
theorem atAnyDepth_eq (s : u.Classifier) (n : NodeId) : s.atAnyDepth n = s.classify s.atAnyDepth n := by
  rw [atAnyDepth]
  refine classify_congr fun e c hn hc => dif_pos ?_
  have hlt := lt_of_goesOn hc
  exact ⟨Nat.lt_of_le_of_lt (le_of_unwrap hn) hlt.1, hlt.2⟩

variable {atBound : NodeId → Bool} {depth : Nat}

/-- Answers within a bound are right if those at the bound are. -/
theorem atAnyDepth_of_within (hbound : ∀ n, atBound n = true → s.atAnyDepth n = true)
    (h : s.within atBound depth n = true) : s.atAnyDepth n = true := by
  induction depth generalizing n with
  | zero => exact hbound n h
  | succ depth ih =>
    rw [atAnyDepth_eq]
    exact s.mono (fun _ _ _ _ => ih) h

/-- Nothing is missed within a bound if nothing is missed at the bound. -/
theorem within_of_atAnyDepth (hbound : ∀ n, s.atAnyDepth n = true → atBound n = true)
    (h : s.atAnyDepth n = true) : s.within atBound depth n = true := by
  induction depth generalizing n with
  | zero => exact hbound n h
  | succ depth ih =>
    rw [atAnyDepth_eq] at h
    exact s.mono (fun _ _ _ _ => ih) h

/-- A bound that is not reached makes no difference: the nodes where a step goes on are fewer than the bound on
every way down. -/
theorem within_eq_atAnyDepth {counts : NodeId → Bool} (hcounts : ∀ e c, s.goesOn e c → counts e = true)
    (h : u.tree.depthOf counts n < depth) : s.within atBound depth n = s.atAnyDepth n := by
  induction depth generalizing n with
  | zero => exact absurd h (Nat.not_lt_zero _)
  | succ depth ih =>
    rw [atAnyDepth_eq]
    refine classify_congr fun e c hn hc => ih ?_
    have hle : u.tree.depthOf counts e ≤ _ := depthOf_le_of_unwrap hn
    have hlt := depthOf_lt hc (hcounts e c hc)
    omega

end Classifier

/-! ## Constant expressions -/

/-- One step of classification: is the expression constant, given which of the branches are where it is
a conditional? -/
def isConstantBy (u : CompilationUnit) (isConstant : NodeId → Bool) (n : NodeId) : Bool :=
  match u.tree.unwrap n with
  | none => false
  | some e =>
    if u.tree.isA e literalTypes then true
    else if u.tree.isA e referenceTypes then (u.reference? e).any (·.isConstant)
    else if u.tree.type e = "ternary_expression" then
      (u.tree.field? e "consequence").any isConstant && (u.tree.field? e "alternative").any isConstant
    else false

/-- A step keeps what is constant if the branches do. -/
theorem isConstantBy_mono {f g : NodeId → Bool}
    (h : ∀ e c, u.tree.unwrap n = some e → u.IsBranch e c → f c = true → g c = true)
    (hf : u.isConstantBy f n = true) : u.isConstantBy g n = true := by
  unfold isConstantBy at hf ⊢
  cases hn : u.tree.unwrap n with
  | none =>
    rw [hn] at hf
    cases hf
  | some e =>
    rw [hn] at hf
    simp only at hf ⊢
    by_cases hliteral : u.tree.isA e literalTypes = true
    · rw [if_pos hliteral]
    rw [if_neg hliteral] at hf ⊢
    by_cases hreference : u.tree.isA e referenceTypes = true
    · rw [if_pos hreference] at hf ⊢
      exact hf
    rw [if_neg hreference] at hf ⊢
    by_cases hternary : u.tree.type e = "ternary_expression"
    · rw [if_pos hternary, Bool.and_eq_true, Option.any_eq_true, Option.any_eq_true] at hf ⊢
      obtain ⟨⟨a, ha, hfa⟩, b, hb, hfb⟩ := hf
      exact ⟨⟨a, ha, h e a hn ⟨hternary, .inl ha⟩ hfa⟩, b, hb, h e b hn ⟨hternary, .inr hb⟩ hfb⟩
    · rw [if_neg hternary] at hf
      cases hf

/-- Classification of constants. -/
def constants (u : CompilationUnit) : u.Classifier where
  goesOn := u.IsBranch
  below h := .inl h.mem_children
  classify := u.isConstantBy
  mono := isConstantBy_mono

/-- Does the expression always have one of finitely many values, however deep it nests? -/
def isConstantAtAnyDepth (u : CompilationUnit) : NodeId → Bool := u.constants.atAnyDepth

/-- Where the bound is reached, nothing counts as constant. -/
theorem isConstantWithin_eq_within (depth : Nat) :
    u.isConstantWithin depth true = u.constants.within (fun _ => false) depth := by
  induction depth with
  | zero => rfl
  | succ depth ih =>
    funext n
    show _ = u.isConstantBy (u.constants.within (fun _ => false) depth) n
    rw [← ih]
    unfold isConstantWithin isConstantBy
    cases u.tree.unwrap n with
    | none => rfl
    | some e => simp only [Bool.true_and, decide_eq_true_eq]

/-- The running classifier of constants says no where the bound is reached. -/
theorem isConstantChoice_eq_within (n : NodeId) :
    u.isConstantChoice n = u.constants.within (fun _ => false) classifierDepth n :=
  congrFun (isConstantWithin_eq_within classifierDepth) n

/-- Only conditionals take levels here, and each takes one. -/
theorem isConstantChoice_eq_atAnyDepth (h : u.nesting n < classifierDepth) :
    u.isConstantChoice n = u.isConstantAtAnyDepth n :=
  (isConstantChoice_eq_within n).trans (Classifier.within_eq_atAnyDepth (fun _ _ => IsBranch.nests) h)

/-- What is found constant is constant. -/
theorem isConstantAtAnyDepth_of_isConstantChoice (h : u.isConstantChoice n = true) :
    u.isConstantAtAnyDepth n = true := by
  refine Classifier.atAnyDepth_of_within (fun m hm => ?_) ((isConstantChoice_eq_within n).symm.trans h)
  cases hm

end CompilationUnit

namespace Rule.CommandInjection

open SyntaxTree CompilationUnit

variable {u : CompilationUnit} {n e c : Nat}

/-! ## Unsafe arguments -/

/-- One step of classification: may the expression carry data that is not constant, given what it holds
that may? -/
def isUnsafeBy (u : CompilationUnit) (isUnsafe : NodeId → Bool) (n : NodeId) : Bool :=
  match u.tree.unwrap n with
  | none => false
  | some e =>
    if u.tree.isConcatenation e then u.hasTaintedOperand e
    else if u.tree.isA e referenceTypes then !u.isConstant e
    else if u.tree.type e = "ternary_expression" then
      (u.tree.field? e "consequence").any isUnsafe || (u.tree.field? e "alternative").any isUnsafe
    else if u.tree.type e = "array_creation_expression" then (u.tree.field? e "value").any isUnsafe
    else if u.tree.type e = "array_initializer" then (u.tree.parts e).any isUnsafe
    else if buildsCollection u e then (u.tree.arguments e).any isUnsafe
    else false

theorem unwrap_isSome_of_isUnsafeBy {f : NodeId → Bool} (hf : isUnsafeBy u f n = true) :
    (u.tree.unwrap n).isSome = true := by
  unfold isUnsafeBy at hf
  cases hn : u.tree.unwrap n with
  | none =>
    rw [hn] at hf
    cases hf
  | some e => rfl

/-- A step keeps what is unsafe if the held expressions do. -/
theorem isUnsafeBy_mono {f g : NodeId → Bool}
    (h : ∀ e c, u.tree.unwrap n = some e → u.Holds e c → f c = true → g c = true)
    (hf : isUnsafeBy u f n = true) : isUnsafeBy u g n = true := by
  obtain ⟨e, hn⟩ := Option.isSome_iff_exists.1 (unwrap_isSome_of_isUnsafeBy hf)
  unfold isUnsafeBy at hf ⊢
  rw [hn] at hf ⊢
  simp only at hf ⊢
  -- the first two forms hold nothing and do not ask `f`; each of the others is one case of `Holds`
  by_cases hplus : u.tree.isConcatenation e = true
  · rw [if_pos hplus] at hf ⊢
    exact hf
  rw [if_neg hplus] at hf ⊢
  by_cases hreference : u.tree.isA e referenceTypes = true
  · rw [if_pos hreference] at hf ⊢
    exact hf
  rw [if_neg hreference] at hf ⊢
  by_cases hternary : u.tree.type e = "ternary_expression"
  · rw [if_pos hternary, Bool.or_eq_true, Option.any_eq_true, Option.any_eq_true] at hf ⊢
    rcases hf with ⟨a, ha, hfa⟩ | ⟨b, hb, hfb⟩
    · exact .inl ⟨a, ha, h e a hn (.branch ⟨hternary, .inl ha⟩) hfa⟩
    · exact .inr ⟨b, hb, h e b hn (.branch ⟨hternary, .inr hb⟩) hfb⟩
  rw [if_neg hternary] at hf ⊢
  by_cases hcreation : u.tree.type e = "array_creation_expression"
  · rw [if_pos hcreation, Option.any_eq_true] at hf ⊢
    obtain ⟨c, hc, hfc⟩ := hf
    exact ⟨c, hc, h e c hn (.value hcreation hc) hfc⟩
  rw [if_neg hcreation] at hf ⊢
  by_cases hinitializer : u.tree.type e = "array_initializer"
  · rw [if_pos hinitializer, List.any_eq_true] at hf ⊢
    obtain ⟨c, hc, hfc⟩ := hf
    exact ⟨c, hc, h e c hn (.element hinitializer hc) hfc⟩
  rw [if_neg hinitializer] at hf ⊢
  by_cases hcollection : buildsCollection u e = true
  · rw [if_pos hcollection, List.any_eq_true] at hf ⊢
    obtain ⟨c, hc, hfc⟩ := hf
    exact ⟨c, hc, h e c hn (.argument hcollection hc) hfc⟩
  · rw [if_neg hcollection] at hf
    cases hf

/-- Classification of unsafe arguments. -/
def unsafeArguments (u : CompilationUnit) : u.Classifier where
  goesOn := u.Holds
  below := Holds.below
  classify := isUnsafeBy u
  mono := isUnsafeBy_mono

/-- May the expression carry data that is not constant, however deep it nests? -/
def isUnsafeAtAnyDepth (u : CompilationUnit) : NodeId → Bool := (unsafeArguments u).atAnyDepth

/-- Where the bound is reached, every expression counts as unsafe. -/
theorem isUnsafeWithin_eq_within (depth : Nat) :
    isUnsafeWithin u depth = (unsafeArguments u).within (fun n => (u.tree.unwrap n).isSome) depth := by
  induction depth with
  | zero => rfl
  | succ depth ih =>
    funext n
    show _ = isUnsafeBy u ((unsafeArguments u).within _ depth) n
    rw [← ih]
    unfold isUnsafeWithin isUnsafeBy
    cases u.tree.unwrap n <;> rfl

/-- The running classifier of arguments says yes where the bound is reached, unless the parentheses are empty.
-/
theorem isUnsafe_eq_within (n : NodeId) :
    isUnsafe u n =
      (unsafeArguments u).within (fun n => (u.tree.unwrap n).isSome) classifierDepth n :=
  congrFun (isUnsafeWithin_eq_within classifierDepth) n

/-- Below the bound the classifier of arguments answers as without one. -/
theorem isUnsafe_eq_atAnyDepth (h : u.levels n < classifierDepth) : isUnsafe u n = isUnsafeAtAnyDepth u n :=
  (isUnsafe_eq_within n).trans (Classifier.within_eq_atAnyDepth (fun _ _ => Holds.takesLevel) h)

/-- What is unsafe is found unsafe. -/
theorem isUnsafe_of_isUnsafeAtAnyDepth (h : isUnsafeAtAnyDepth u n = true) : isUnsafe u n = true := by
  refine (isUnsafe_eq_within n).trans (Classifier.within_of_atAnyDepth (fun m hm => ?_) h)
  rw [Classifier.atAnyDepth_eq] at hm
  exact unwrap_isSome_of_isUnsafeBy hm

/-- Would the rule fire at a node without the bound? -/
def firesAtAnyDepth (u : CompilationUnit) (n : NodeId) : Bool :=
  let args := u.tree.arguments n
  !args.isEmpty && u.isSink sinks n && args.any (isUnsafeAtAnyDepth u)

/-- A rule that looks at all arguments fires at least where it would without a bound. -/
theorem fires_of_firesAtAnyDepth (h : firesAtAnyDepth u n = true) : fires u n = true := by
  unfold firesAtAnyDepth at h
  unfold fires
  simp only [Bool.and_eq_true, List.any_eq_true] at h ⊢
  obtain ⟨hsink, arg, harg, hunsafe⟩ := h
  exact ⟨hsink, arg, harg, isUnsafe_of_isUnsafeAtAnyDepth hunsafe⟩

end Rule.CommandInjection

/-! ## What the rules report -/

namespace Rule

variable {u : CompilationUnit} {n : Nat}

/-- Would a rule on first arguments fire at a node without the bound? -/
def FirstArgument.firesAtAnyDepth (u : CompilationUnit) (sinks : List String) (n : NodeId) : Bool :=
  match (u.tree.arguments n).head? with
  | none => false
  | some arg => u.isSink sinks n && !u.isConstantAtAnyDepth arg

/-- The rule negates the answer, so that what is constant only without the bound is reported too. -/
theorem FirstArgument.fires_of_firesAtAnyDepth {sinks : List String}
    (h : FirstArgument.firesAtAnyDepth u sinks n = true) : FirstArgument.fires u sinks n = true := by
  unfold firesAtAnyDepth at h
  unfold fires
  cases harg : (u.tree.arguments n).head? with
  | none =>
    rw [harg] at h
    cases h
  | some arg =>
    rw [harg] at h
    simp only [Bool.and_eq_true, Bool.not_eq_true'] at h ⊢
    refine ⟨h.1, Bool.eq_false_iff.2 fun hconstant => ?_⟩
    have hany := CompilationUnit.isConstantAtAnyDepth_of_isConstantChoice hconstant
    rw [h.2] at hany
    cases hany

/-- The rule with other answers, for which it needs no room. -/
def answering (r : Rule) (fires : CompilationUnit → NodeId → Bool) : Rule :=
  { r with matching := fun u n => pure (fires u n) }

/-- A rule and what it would be without the bound. All other rules are as they are. -/
inductive Unbounded : Rule → Rule → Prop where
  | commands : Unbounded commandInjection (commandInjection.answering CommandInjection.firesAtAnyDepth)
  | paths : Unbounded pathTraversal
      (pathTraversal.answering fun u => FirstArgument.firesAtAnyDepth u pathSinks)
  | urls : Unbounded unsafeUrlCreation
      (unsafeUrlCreation.answering fun u => FirstArgument.firesAtAnyDepth u urlSinks)
  | other (r : Rule) : Unbounded r r

variable {r s : Rule}

theorem Unbounded.kinds_eq (h : Unbounded r s) : s.kinds = r.kinds := by
  cases h <;> rfl

/-- A rule fires wherever it would fire without the bound, if references leave it room to answer at all. -/
theorem Unbounded.fires (h : Unbounded r s) (hs : s.fires u n = .ok true) :
    r.fires u n = .ok true ∨ r.fires u n = .error .stackExhausted ∧ ¬ u.Fits := by
  cases h with
  | commands =>
    have hmeans := CommandInjection.means u n
    rw [CommandInjection.fires_of_firesAtAnyDepth (Except.ok.inj hs)] at hmeans
    exact hmeans.fires_eq
  | paths =>
    have hmeans := FirstArgument.means_pathTraversal u n
    rw [FirstArgument.fires_of_firesAtAnyDepth (Except.ok.inj hs)] at hmeans
    exact hmeans.fires_eq
  | urls =>
    have hmeans := FirstArgument.means_unsafeUrlCreation u n
    rw [FirstArgument.fires_of_firesAtAnyDepth (Except.ok.inj hs)] at hmeans
    exact hmeans.fires_eq
  | other => exact .inl hs

/-- A rule reports at least what it would report without the bound, in the same words. -/
theorem Unbounded.finding? {f : Finding} (h : Unbounded r s) (hfits : u.Fits)
    (hf : s.finding? u n = some f) : r.finding? u n = some f := by
  obtain ⟨hfires, hmessage⟩ := finding?_eq_some_iff.1 hf
  refine finding?_eq_some_iff.2 ⟨(h.fires hfires).resolve_right fun hnot => hnot.2 hfits, ?_⟩
  cases h <;> exact hmessage

/-- So do several rules at one node. -/
theorem Unbounded.filterMap_finding?_sublist {rules rules' : List Rule} (hfits : u.Fits)
    (h : List.Forall₂ Unbounded rules rules') (kind : Option NodeKind) :
    ((rules'.filter fun r => kind.any r.kinds.contains).filterMap fun r => r.finding? u n).Sublist
      ((rules.filter fun r => kind.any r.kinds.contains).filterMap fun r => r.finding? u n) := by
  induction h with
  | nil => exact .slnil
  | cons hrule _ ih =>
    -- what the rule finds without the bound it finds with it; it may find more
    rw [List.filter_cons, List.filter_cons, hrule.kinds_eq]
    split
    · rw [List.filterMap_cons, List.filterMap_cons]
      split
      · next hnone =>
        split
        · exact ih
        · exact ih.cons _
      · next f hf =>
        rw [hrule.finding? hfits hf]
        exact ih.cons_cons f
    · exact ih

end Rule

/-- An audit reports at least what it would report if some rules had no bound. -/
theorem Registry.findings_sublist_of_unbounded {reg reg' : Registry} {u : CompilationUnit} (h : reg.Reachable)
    (h' : reg'.Reachable) (hrules : List.Forall₂ Rule.Unbounded reg.rules reg'.rules) (hfits : u.Fits) :
    (reg'.audit u).findings.Sublist (reg.audit u).findings := by
  rw [findings_audit h, findings_audit h', visits, visits]
  generalize u.tree.preorder SyntaxTree.root = nodes
  induction nodes with
  | nil => exact .slnil
  | cons n rest ih =>
    rw [List.flatMap_cons, List.flatMap_cons, List.filterMap_append, List.filterMap_append,
      List.filterMap_map, List.filterMap_map]
    exact (Rule.Unbounded.filterMap_finding?_sublist hfits hrules _).append ih

open CompilationUnit
open Rule.CommandInjection (isUnsafe isUnsafeAtAnyDepth isUnsafe_eq_atAnyDepth)

/-- The bound on depth errs on the safe side: what is found constant is constant, and what is unsafe is found
unsafe. Whether an expression is constant is answered exactly as long as conditionals, array literals and calls
that build a collection nest at most 200 deep. Whether it is unsafe is answered exactly as long as they take at most
200 levels, where `new T[]{..}` takes two, hence as long as they nest at most 100 deep. So every rule fires, at every
node, where it would fire without the bound, unless references take up the room that it has to answer, and every
audit of a unit that fits reports at least what it would report without the bound. -/
theorem depth_bound_hides_no_finding (u : CompilationUnit) :
    (∀ e, u.isConstantChoice e = true → u.isConstantAtAnyDepth e = true) ∧
      (∀ e, isUnsafeAtAnyDepth u e = true → isUnsafe u e = true) ∧
      (∀ e, u.nesting e ≤ 200 → u.isConstantChoice e = u.isConstantAtAnyDepth e) ∧
      (∀ e, u.levels e ≤ 200 → isUnsafe u e = isUnsafeAtAnyDepth u e) ∧
      (∀ e, u.nesting e ≤ 100 → u.tree.isLiteralBody e = false →
        isUnsafe u e = isUnsafeAtAnyDepth u e) ∧
      (∀ r s, Rule.Unbounded r s → ∀ n, s.fires u n = .ok true →
        r.fires u n = .ok true ∨ r.fires u n = .error .stackExhausted ∧ ¬ u.Fits) ∧
      (u.Fits → ∀ r s, Rule.Unbounded r s → ∀ n f, s.finding? u n = some f → r.finding? u n = some f) ∧
      (u.Fits → ∀ reg reg' : Registry, reg.Reachable → reg'.Reachable →
        List.Forall₂ Rule.Unbounded reg.rules reg'.rules →
        (reg'.audit u).findings.Sublist (reg.audit u).findings) := by
  refine ⟨fun e => isConstantAtAnyDepth_of_isConstantChoice,
    fun e => Rule.CommandInjection.isUnsafe_of_isUnsafeAtAnyDepth,
    fun e hnesting => isConstantChoice_eq_atAnyDepth (Nat.lt_succ_of_le hnesting),
    fun e hlevels => isUnsafe_eq_atAnyDepth (Nat.lt_succ_of_le hlevels), fun e hnesting hbody => ?_,
    fun r s h n => h.fires, fun hfits r s h n f => h.finding? hfits,
    fun hfits reg reg' h h' hrules => Registry.findings_sublist_of_unbounded h h' hrules hfits⟩
  refine isUnsafe_eq_atAnyDepth (Nat.lt_succ_of_le ?_)
  have hlevels := u.levels_le e
  rw [hbody, Bool.toNat_false] at hlevels
  omega

/-- A command that is chosen from an array with a variable in it and two constants. -/
def branchingCommand : CompilationUnit :=
  .ofTree "A.java" (.ofNodes "new ProcessBuilder(b?new String[]\x7bx\x7d:c?\"a\":\"b\");" #[
    ⟨none, "program", true, false, 0, 48, none⟩,
    ⟨some 0, "expression_statement", true, false, 0, 48, none⟩,
    ⟨some 1, "object_creation_expression", true, false, 0, 47, none⟩,
    ⟨some 2, "new", false, false, 0, 3, none⟩,
    ⟨some 2, "type_identifier", true, false, 4, 18, some "type"⟩,
    ⟨some 2, "argument_list", true, false, 18, 47, some "arguments"⟩,
    ⟨some 5, "(", false, false, 18, 19, none⟩,
    ⟨some 5, "ternary_expression", true, false, 19, 46, none⟩,
    ⟨some 7, "identifier", true, false, 19, 20, some "condition"⟩,
    ⟨some 7, "?", false, false, 20, 21, none⟩,
    ⟨some 7, "array_creation_expression", true, false, 21, 36, some "consequence"⟩,
    ⟨some 10, "new", false, false, 21, 24, none⟩,
    ⟨some 10, "type_identifier", true, false, 25, 31, some "type"⟩,
    ⟨some 10, "dimensions", true, false, 31, 33, some "dimensions"⟩,
    ⟨some 13, "[", false, false, 31, 32, none⟩,
    ⟨some 13, "]", false, false, 32, 33, none⟩,
    ⟨some 10, "array_initializer", true, false, 33, 36, some "value"⟩,
    ⟨some 16, "\x7b", false, false, 33, 34, none⟩,
    ⟨some 16, "identifier", true, false, 34, 35, none⟩,
    ⟨some 16, "\x7d", false, false, 35, 36, none⟩,
    ⟨some 7, ":", false, false, 36, 37, none⟩,
    ⟨some 7, "ternary_expression", true, false, 37, 46, some "alternative"⟩,
    ⟨some 21, "identifier", true, false, 37, 38, some "condition"⟩,
    ⟨some 21, "?", false, false, 38, 39, none⟩,
    ⟨some 21, "string_literal", true, false, 39, 42, some "consequence"⟩,
    ⟨some 24, "\"", false, false, 39, 40, none⟩,
    ⟨some 24, "string_fragment", true, false, 40, 41, none⟩,
    ⟨some 24, "\"", false, false, 41, 42, none⟩,
    ⟨some 21, ":", false, false, 42, 43, none⟩,
    ⟨some 21, "string_literal", true, false, 43, 46, some "alternative"⟩,
    ⟨some 29, "\"", false, false, 43, 44, none⟩,
    ⟨some 29, "string_fragment", true, false, 44, 45, none⟩,
    ⟨some 29, "\"", false, false, 45, 46, none⟩,
    ⟨some 5, ")", false, false, 46, 47, none⟩,
    ⟨some 1, ";", false, false, 47, 48, none⟩])

/-- A command that nested conditionals choose: below the bound both classifiers answer as without one, and what
is reported without the bound is reported with it. -/
theorem depth_bound_on_branchingCommand :
    let u := branchingCommand
    let unbounded := Rule.commandInjection.answering Rule.CommandInjection.firesAtAnyDepth
    u.Fits ∧ u.nesting 7 = 2 ∧ u.levels 7 = 3 ∧ u.isConstantAtAnyDepth 21 = true ∧ isUnsafe u 7 = true ∧
      u.isConstantChoice 7 = u.isConstantAtAnyDepth 7 ∧ isUnsafe u 7 = isUnsafeAtAnyDepth u 7 ∧
      unbounded.fires u 2 = .ok true ∧ Rule.commandInjection.fires u 2 = .ok true ∧
      ((Registry.empty.add unbounded).audit u).findings.Sublist
        ((Registry.empty.add Rule.commandInjection).audit u).findings := by
  intro u unbounded
  obtain ⟨hconstant, hunsafe, hchosen, hexact, -, hrules, -, hregistries⟩ := depth_bound_hides_no_finding u
  obtain ⟨hnesting, hlevels, hchoice, hany, hcommand⟩ : u.nesting 7 = 2 ∧ u.levels 7 = 3 ∧
      u.isConstantChoice 21 = true ∧ isUnsafeAtAnyDepth u 7 = true ∧
      Rule.CommandInjection.firesAtAnyDepth u 2 = true := by
    decide +kernel
  have hfits : u.Fits := fits_of_no_types (by decide) (by decide)
  have hfires : unbounded.fires u 2 = .ok true := congrArg Except.ok hcommand
  have hrule : Rule.Unbounded Rule.commandInjection unbounded := .commands
  refine ⟨hfits, hnesting, hlevels, hconstant 21 hchoice, hunsafe 7 hany, hchosen 7 ?_, hexact 7 ?_, hfires,
    (hrules _ _ hrule 2 hfires).resolve_right fun hnot => hnot.2 hfits,
    hregistries hfits _ _ ?_ ?_ (.cons hrule .nil)⟩
  · exact Nat.le_trans (Nat.le_of_eq hnesting) (by decide)
  · exact Nat.le_trans (Nat.le_of_eq hlevels) (by decide)
  · exact .register .empty (Registry.register_eq_ok_iff.2 ⟨by decide, rfl, rfl⟩)
  · exact .register .empty (Registry.register_eq_ok_iff.2 ⟨by decide, rfl, rfl⟩)

end JavaAudit
