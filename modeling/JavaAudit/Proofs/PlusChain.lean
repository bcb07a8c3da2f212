import JavaAudit.Expression.Constant
import JavaAudit.Proofs.Flattening
import JavaAudit.Proofs.TextContainment

/-!
# From a `+` to the outermost `+` of its chain

Climbing from a `+` through parentheses and further `+` nodes ends at the outermost `+` of the chain
(`outermostPlus`). On the way up nothing is lost: the operands of a node stay operands, and its text
stays in the text of the nodes around it, so a chain that concatenates keywords with something that is
not constant does so at every node of the climb (`concatenates_of_mem_plusClimb`).

This needs trees whose expressions have the parts that the grammar gives them, which is what
`RegularExpressions` says.
-/

namespace JavaAudit

namespace SyntaxTree

def isConditional (t : SyntaxTree) (n : NodeId) : Bool := t.type n == "ternary_expression"

/-! ## Climbing out of a chain -/

/-- The parentheses and `+` nodes directly around a node, nearest first. -/
def plusClimb (t : SyntaxTree) (n : NodeId) : List NodeId :=
  t.climb (fun a => t.isParen a || t.isPlus a) n

/-- The outermost `+` that climbing from a `+` through parentheses and `+` nodes reaches. -/
def outermostPlus (t : SyntaxTree) (n : NodeId) : NodeId :=
  ((t.plusClimb n).reverse.find? t.isPlus).getD n

/-- The conditionals that a node is a part of with nothing but parentheses and conditionals in
between. -/
def conditionalDepth (t : SyntaxTree) (n : NodeId) : Nat :=
  (t.climb (fun a => t.isParen a || t.isConditional a) n).countP t.isConditional

/-- Expressions have the parts that the grammar gives them, and conditionals do not nest deeper than
classification follows them. -/
structure RegularExpressions (t : SyntaxTree) : Prop where
  wellNested : t.WellNested
  distinctKeys : t.DistinctKeys
  /-- Nodes of these types are expressions, and only tokens are unnamed. -/
  isNamed : ∀ n < t.size, t.isParen n = true ∨ t.isConditional n = true ∨ t.isPlus n = true →
    t.isNamed n = true
  paren_parts : ∀ n < t.size, t.isParen n = true → (t.parts n).length = 1
  conditional_parts : ∀ n < t.size, t.isConditional n = true → ∀ c ∈ t.parts n,
    t.field? n "condition" = some c ∨ t.field? n "consequence" = some c ∨
      t.field? n "alternative" = some c
  plus_parts : ∀ n < t.size, t.isPlus n = true → ∀ c ∈ t.parts n,
    t.field? n "left" = some c ∨ t.field? n "right" = some c
  arguments_field : ∀ call < t.size, t.type call = "method_invocation" → ∀ list ∈ t.children call,
    t.type list = "argument_list" → t.field? call "arguments" = some list
  conditionalDepth_le : ∀ n < t.size, t.conditionalDepth n ≤ 200

variable {t : SyntaxTree} {n p : Nat}

theorem lt_size_of_isPlus (h : t.isPlus n = true) : n < t.size := by
  refine lt_size_of_type_ne ?_
  rw [type_of_isPlus h]
  decide

/-- The nodes of the three types are expressions and so count among the parts of their parents. -/
theorem RegularExpressions.mem_parts (ht : t.RegularExpressions) (h : t.parent? n = some p)
    (hn : t.isParen n = true ∨ t.isConditional n = true ∨ t.isPlus n = true) : n ∈ t.parts p := by
  refine mem_parts_of_parent? h (ht.isNamed n (lt_size_of_parent? h) hn) ?_
  rcases hn with hparen | hconditional | hplus
  · rw [isA, isParen_iff.1 hparen]
    rfl
  · rw [isA, beq_iff_eq.1 hconditional]
    rfl
  · rw [isA, type_of_isPlus hplus]
    rfl

/-- A node among the parts of parentheses is all that they hold. -/
theorem RegularExpressions.head?_parts (ht : t.RegularExpressions) (hp : p < t.size)
    (hparen : t.isParen p = true) (h : n ∈ t.parts p) : (t.parts p).head? = some n :=
  head?_parts_of_mem (Nat.le_of_eq (ht.paren_parts p hp hparen)) h

/-! ## The outermost `+` -/

theorem outermostPlus_mem (t : SyntaxTree) (n : Nat) :
    t.outermostPlus n = n ∨
      t.outermostPlus n ∈ t.plusClimb n ∧ t.isPlus (t.outermostPlus n) = true := by
  unfold outermostPlus
  cases h : (t.plusClimb n).reverse.find? t.isPlus with
  | none => exact .inl rfl
  | some top =>
    exact .inr ⟨List.mem_reverse.1 (List.mem_of_find?_eq_some h), List.find?_some h⟩

theorem isPlus_outermostPlus (h : t.isPlus n = true) : t.isPlus (t.outermostPlus n) = true := by
  rcases t.outermostPlus_mem n with heq | ⟨-, hplus⟩
  · rw [heq, h]
  · exact hplus

/-- No `+` is reached from the outermost one. -/
theorem not_isPlus_of_mem_plusClimb_outermostPlus {a : Nat}
    (ha : a ∈ t.plusClimb (t.outermostPlus n)) : t.isPlus a = false := by
  unfold outermostPlus at ha
  cases h : (t.plusClimb n).reverse.find? t.isPlus with
  | none =>
    rw [h] at ha
    have hall := List.find?_eq_none.1 h a (List.mem_reverse.2 ha)
    exact Bool.eq_false_iff.2 hall
  | some top =>
    rw [h] at ha
    obtain ⟨-, later, earlier, hsplit, hlater⟩ := List.find?_eq_some_iff_append.1 h
    -- what stands behind the last `+` of the climb is what climbing on from it passes
    have hclimb : t.plusClimb n = earlier.reverse ++ top :: later.reverse := by
      rw [← List.reverse_reverse (t.plusClimb n), hsplit]
      simp
    rw [Option.getD_some, plusClimb, climb_of_append hclimb] at ha
    simpa using hlater a (List.mem_reverse.1 ha)

end SyntaxTree

/-! ## Concatenations along the climb -/

namespace CompilationUnit

variable {u : CompilationUnit} {keywords : List String} {n p : Nat}

open SyntaxTree

theorem concatenates_of_unwrap_eq {m : Nat} (h : u.tree.unwrap n = u.tree.unwrap m) :
    u.concatenates keywords n = u.concatenates keywords m := by
  unfold concatenates
  rw [h]

/-- A concatenation is unsafe if its text holds a keyword and one of its operands is not constant. -/
theorem concatenates_iff {e : Nat} (h : u.tree.unwrap n = some e) :
    u.concatenates keywords n = true ↔
      u.tree.isPlus e = true ∧
        (∃ k ∈ keywords, Text.contains (Text.lower (u.tree.text e)) (Text.lower k) = true) ∧
        ∃ leaf ∈ u.tree.operands n, u.isConstant leaf = false := by
  have hparen := not_isParen_of_unwrap h
  have hoperands : u.tree.operands e = u.tree.operands n :=
    operands_of_unwrap_eq ((unwrap_of_not_isParen hparen).trans h.symm)
  unfold concatenates
  rw [h]
  simp only [Bool.and_eq_true, isConcatenation_of_not_isParen hparen, List.any_eq_true,
    hasTaintedOperand, hoperands, Bool.not_eq_true', and_assoc]

/-- The text in parentheses is part of the text with them. -/
theorem text_infix_of_unwrap {t : SyntaxTree} (ht : t.WellNested) {e : Nat}
    (h : t.unwrap n = some e) : (t.text e).toList <:+: (t.text n).toList := by
  fun_induction unwrap t n with
  | case1 => cases h
  | case2 n _ c hc ih =>
    have hparent := parent?_of_mem_parts (List.mem_of_mem_head? hc)
    exact (ih h).trans (text_infix_of_parent? ht hparent)
  | case3 n =>
    cases h
    exact List.infix_rfl

/-- One step of the climb loses neither a keyword nor an operand. -/
theorem concatenates_of_parent? (ht : u.tree.RegularExpressions)
    (hk : ∀ k ∈ keywords, Text.SigmaFree (Text.lower k).toList)
    (h : u.tree.parent? n = some p) (hn : u.tree.isParen n = true ∨ u.tree.isPlus n = true)
    (hp : u.tree.isParen p = true ∨ u.tree.isPlus p = true)
    (hc : u.concatenates keywords n = true) : u.concatenates keywords p = true := by
  have hpsize : p < u.tree.size := Nat.lt_trans (lt_of_parent? h) (lt_size_of_parent? h)
  have hpart : n ∈ u.tree.parts p := ht.mem_parts h (hn.imp_right .inr)
  rcases hp with hparen | hplus
  · have hhead := ht.head?_parts hpsize hparen hpart
    rw [concatenates_of_unwrap_eq (m := n)]
    · exact hc
    · rw [unwrap_of_isParen hparen, hhead]
      rfl
  · cases he : u.tree.unwrap n with
    | none => simp [concatenates, he] at hc
    | some e =>
      obtain ⟨-, ⟨k, hkmem, hkin⟩, leaf, hleaf, htainted⟩ := (concatenates_iff he).1 hc
      -- the keyword stays in the text and the leaf among the operands
      have hinfix : (u.tree.text e).toList <:+: (u.tree.text p).toList :=
        (text_infix_of_unwrap ht.wellNested he).trans (text_infix_of_parent? ht.wellNested h)
      refine (concatenates_iff (unwrap_of_not_isParen (not_isParen_of_isPlus hplus))).2
        ⟨hplus, ⟨k, hkmem, ?_⟩, leaf, ?_, htainted⟩
      · exact Text.contains_lower_of_infix (hk k hkmem) hinfix hkin
      · rw [operands_of_isPlus hplus, List.mem_append]
        rcases ht.plus_parts p hpsize hplus n hpart with hleft | hright
        · exact .inl (by rw [operandsIn, hleft]; exact hleaf)
        · exact .inr (by rw [operandsIn, hright]; exact hleaf)

/-- A concatenation of keywords stays one at every node of the climb. -/
theorem concatenates_of_mem_plusClimb (ht : u.tree.RegularExpressions)
    (hk : ∀ k ∈ keywords, Text.SigmaFree (Text.lower k).toList)
    (hn : u.tree.isParen n = true ∨ u.tree.isPlus n = true)
    (hc : u.concatenates keywords n = true) {a : Nat} (ha : a ∈ u.tree.plusClimb n) :
    u.concatenates keywords a = true := by
  induction n using climb_induction (t := u.tree) with
  | root n hroot =>
    rw [plusClimb, climb_of_parent?_eq_none hroot] at ha
    cases ha
  | step n p h ih =>
    rw [plusClimb, climb_of_parent? h] at ha
    split at ha
    · next hpass =>
      rw [Bool.or_eq_true] at hpass
      have hp := concatenates_of_parent? ht hk h hn hpass hc
      rcases List.mem_cons.1 ha with rfl | ha
      · exact hp
      · exact ih hpass hp ha
    · cases ha

end CompilationUnit

end JavaAudit
