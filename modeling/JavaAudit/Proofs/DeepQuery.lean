import JavaAudit.Proofs.FieldAccess
import JavaAudit.Proofs.Lineage
import JavaAudit.Proofs.QueryReports
import JavaAudit.Proofs.TabulatedTrees
import JavaAudit.Proofs.TypeNaming

/-!
# A query behind many conditionals

`deepQuery k` is a method with the call `s.execute(b?null: … b?null:"DROP "+this)`, where an unsafe
concatenation stands behind `k` conditionals, each of which is the alternative of the one before. Its nodes
are those of the call without conditionals, `directCall`, with five nodes for each conditional put in. The
parameter `s` is a `java.sql.Statement`, so the call is a sink (`isSink_call`), and no two nodes have the same
key (`distinctKeys_deepQuery`).

The search from the argument of the call finds the concatenation exactly if it has a level for each conditional
and one more (`unsafeQueryWithin_level`).

Nothing here is computed for a fixed `k`: what is in front of the conditionals is read off the table, and what
comes behind is the same with places and bytes counted on.
-/

namespace JavaAudit

namespace Rule.SqlInjection

open SyntaxTree

/-! ## The method -/

/-- The nodes of the call without conditionals. -/
def directCall : List Node :=
  [⟨none, "program", true, false, 0, 73, none⟩,
    ⟨some 0, "class_declaration", true, false, 0, 73, none⟩,
    ⟨some 1, "class", false, false, 0, 5, none⟩,
    ⟨some 1, "identifier", true, false, 6, 7, some "name"⟩,
    ⟨some 1, "class_body", true, false, 7, 73, some "body"⟩,
    ⟨some 4, "\x7b", false, false, 7, 8, none⟩,
    ⟨some 4, "method_declaration", true, false, 8, 72, none⟩,
    ⟨some 6, "void_type", true, false, 8, 12, some "type"⟩,
    ⟨some 6, "identifier", true, false, 13, 14, some "name"⟩,
    ⟨some 6, "formal_parameters", true, false, 14, 46, some "parameters"⟩,
    ⟨some 9, "(", false, false, 14, 15, none⟩,
    ⟨some 9, "formal_parameter", true, false, 15, 35, none⟩,
    ⟨some 11, "scoped_type_identifier", true, false, 15, 33, some "type"⟩,
    ⟨some 12, "scoped_type_identifier", true, false, 15, 23, none⟩,
    ⟨some 13, "type_identifier", true, false, 15, 19, none⟩,
    ⟨some 13, ".", false, false, 19, 20, none⟩,
    ⟨some 13, "type_identifier", true, false, 20, 23, none⟩,
    ⟨some 12, ".", false, false, 23, 24, none⟩,
    ⟨some 12, "type_identifier", true, false, 24, 33, none⟩,
    ⟨some 11, "identifier", true, false, 34, 35, some "name"⟩,
    ⟨some 9, ",", false, false, 35, 36, none⟩,
    ⟨some 9, "formal_parameter", true, false, 36, 45, none⟩,
    ⟨some 21, "boolean_type", true, false, 36, 43, some "type"⟩,
    ⟨some 21, "identifier", true, false, 44, 45, some "name"⟩,
    ⟨some 9, ")", false, false, 45, 46, none⟩,
    ⟨some 6, "block", true, false, 46, 72, some "body"⟩,
    ⟨some 25, "\x7b", false, false, 46, 47, none⟩,
    ⟨some 25, "expression_statement", true, false, 47, 71, none⟩,
    ⟨some 27, "method_invocation", true, false, 47, 70, none⟩,
    ⟨some 28, "identifier", true, false, 47, 48, some "object"⟩,
    ⟨some 28, ".", false, false, 48, 49, none⟩,
    ⟨some 28, "identifier", true, false, 49, 56, some "name"⟩,
    ⟨some 28, "argument_list", true, false, 56, 70, some "arguments"⟩,
    ⟨some 32, "(", false, false, 56, 57, none⟩,
    ⟨some 32, "binary_expression", true, false, 57, 69, none⟩,
    ⟨some 34, "string_literal", true, false, 57, 64, some "left"⟩,
    ⟨some 35, "\"", false, false, 57, 58, none⟩,
    ⟨some 35, "string_fragment", true, false, 58, 63, none⟩,
    ⟨some 35, "\"", false, false, 63, 64, none⟩,
    ⟨some 34, "+", false, false, 64, 65, some "operator"⟩,
    ⟨some 34, "this", true, false, 65, 69, some "right"⟩,
    ⟨some 32, ")", false, false, 69, 70, none⟩,
    ⟨some 27, ";", false, false, 70, 71, none⟩,
    ⟨some 25, "\x7d", false, false, 71, 72, none⟩,
    ⟨some 4, "\x7d", false, false, 72, 73, none⟩]

def row (n : Nat) : Node := directCall[n]?.getD .absent

/-- A node in front of the query, with its end moved if it is behind the query. -/
def widen (k : Nat) (node : Node) : Node :=
  { node with stop := if node.stop ≤ 57 then node.stop else node.stop + 7 * k }

/-- A node behind the conditionals. -/
def shift (k : Nat) (node : Node) : Node :=
  { node with
    parent := node.parent.map fun p => if p < 34 then p else p + 5 * k
    start := node.start + 7 * k
    stop := node.stop + 7 * k }

/-- What the expression at a level stands in: the list of arguments, or the conditional before. -/
def holder (level : Nat) : NodeId := if level = 0 then 32 else 29 + 5 * level

def role (level : Nat) : Option String := if level = 0 then none else some "alternative"

/-- The nodes of one conditional, up to its alternative. -/
def conditional (k level : Nat) : List Node :=
  [⟨some (holder level), "ternary_expression", true, false, 57 + 7 * level, 69 + 7 * k, role level⟩,
    ⟨some (34 + 5 * level), "identifier", true, false, 57 + 7 * level, 58 + 7 * level, some "condition"⟩,
    ⟨some (34 + 5 * level), "?", false, false, 58 + 7 * level, 59 + 7 * level, none⟩,
    ⟨some (34 + 5 * level), "null_literal", true, false, 59 + 7 * level, 63 + 7 * level, some "consequence"⟩,
    ⟨some (34 + 5 * level), ":", false, false, 63 + 7 * level, 64 + 7 * level, none⟩]

/-- The types of these nodes. -/
def conditionalTypes : List String := ["ternary_expression", "identifier", "?", "null_literal", ":"]

/-- The roles of those behind the first. -/
def conditionalRoles : List (Option String) := [none, some "condition", none, some "consequence", none]

/-- How far behind the beginning of the conditional they start. -/
def conditionalStarts : List Nat := [0, 0, 1, 2, 6]

/-- The nodes of the concatenation, and what is behind it. -/
def lastNodes (k : Nat) : List Node :=
  ⟨some (holder k), "binary_expression", true, false, 57 + 7 * k, 69 + 7 * k, role k⟩ ::
    (directCall.drop 35).map (shift k)

def frontText : List Char := "class A\x7bvoid f(java.sql.Statement s,boolean b)\x7bs.execute(".toList

def backText : List Char := "\"DROP \"+this);\x7d\x7d".toList

def deepText (k : Nat) : List Char :=
  frontText ++ (List.replicate k "b?null:".toList).flatten ++ backText

def deepNodes (k : Nat) : List Node :=
  (directCall.take 34).map (widen k) ++ (List.range k).flatMap (conditional k) ++ lastNodes k

def deepQuery (k : Nat) : CompilationUnit :=
  .ofTree "A.java" (.ofNodes (String.ofList (deepText k)) (deepNodes k).toArray)

/-! ## Its nodes -/

theorem length_flatMap_conditional (k n : Nat) :
    ((List.range n).flatMap (conditional k)).length = 5 * n := by
  induction n with
  | zero => rfl
  | succ n ih =>
    rw [List.range_succ, List.flatMap_append, List.length_append, ih]
    show 5 * n + 5 = 5 * (n + 1)
    omega

/-- Each conditional adds five nodes, so that the nodes of one are found by its number. -/
theorem getElem?_flatMap_conditional (k : Nat) {n i r : Nat} (hi : i < n) (hr : r < 5) :
    ((List.range n).flatMap (conditional k))[5 * i + r]? = (conditional k i)[r]? := by
  induction n with
  | zero => cases hi
  | succ n ih =>
    have hlength := length_flatMap_conditional k n
    rw [List.range_succ, List.flatMap_append]
    by_cases hlast : i = n
    · subst hlast
      rw [List.getElem?_append_right (by omega), hlength, Nat.add_sub_cancel_left]
      simp
    · rw [List.getElem?_append_left (by omega), ih (by omega)]

theorem size_deepQuery (k : Nat) : (deepQuery k).tree.size = 45 + 5 * k := by
  show (deepNodes k).length = 45 + 5 * k
  unfold deepNodes
  rw [List.length_append, List.length_append, length_flatMap_conditional]
  show 34 + 5 * k + 11 = 45 + 5 * k
  omega

theorem node_deepQuery (k n : Nat) : (deepQuery k).tree.node n = (deepNodes k)[n]?.getD .absent := by
  show (deepNodes k).toArray.getD n .absent = _
  simp [Array.getD_eq_getD_getElem?]

theorem node_front (k : Nat) {n : Nat} (hn : n < 34) :
    (deepQuery k).tree.node n = widen k (row n) := by
  rw [node_deepQuery, deepNodes, List.append_assoc,
    List.getElem?_append_left (by rw [List.length_map]; exact hn), List.getElem?_map, List.getElem?_take,
    if_pos hn, row]
  cases directCall[n]? <;> rfl

theorem node_conditional {k i : Nat} (hi : i < k) {r : Nat} (hr : r < 5) :
    (deepQuery k).tree.node (34 + 5 * i + r) = (conditional k i)[r]?.getD .absent := by
  have hfront : ((directCall.take 34).map (widen k)).length = 34 := rfl
  have hlength := length_flatMap_conditional k k
  rw [node_deepQuery, deepNodes, List.append_assoc, List.getElem?_append_right (by omega), hfront,
    List.getElem?_append_left (by omega), show 34 + 5 * i + r - 34 = 5 * i + r by omega,
    getElem?_flatMap_conditional k hi hr]

theorem node_last (k j : Nat) :
    (deepQuery k).tree.node (34 + 5 * k + j) = (lastNodes k)[j]?.getD .absent := by
  have hlength : ((directCall.take 34).map (widen k) ++ (List.range k).flatMap (conditional k)).length =
      34 + 5 * k := by
    rw [List.length_append, length_flatMap_conditional]
    rfl
  rw [node_deepQuery, deepNodes, List.getElem?_append_right (by omega), hlength, Nat.add_sub_cancel_left]

theorem node_behind (k : Nat) {r : Nat} (hr : 0 < r ∧ r < 11) :
    (deepQuery k).tree.node (34 + 5 * k + r) = shift k (row (34 + r)) := by
  obtain ⟨j, rfl⟩ := Nat.exists_eq_add_of_le' hr.1
  have hlt : 35 + j < directCall.length := by
    show 35 + j < 45
    omega
  rw [node_last, lastNodes, List.getElem?_cons_succ, List.getElem?_map, List.getElem?_drop,
    show 34 + (j + 1) = 35 + j by omega, row, List.getElem?_eq_getElem hlt]
  rfl

/-- The nodes are those in front of the query, those of the conditionals, and the last ones. -/
theorem node_cases {k n : Nat} (hn : n < (deepQuery k).tree.size) :
    n < 34 ∨ (∃ i r, i < k ∧ r < 5 ∧ n = 34 + 5 * i + r) ∨ ∃ j < 11, n = 34 + 5 * k + j := by
  rw [size_deepQuery] at hn
  by_cases hfront : n < 34
  · exact .inl hfront
  · by_cases hlast : n < 34 + 5 * k
    · exact .inr (.inl ⟨(n - 34) / 5, (n - 34) % 5, by omega, by omega, by omega⟩)
    · exact .inr (.inr ⟨n - (34 + 5 * k), by omega, by omega⟩)

/-- The expression at a level, which is a conditional or at last the concatenation. -/
theorem node_level {k i : Nat} (hi : i ≤ k) :
    (deepQuery k).tree.node (34 + 5 * i) =
      ⟨some (holder i), if i < k then "ternary_expression" else "binary_expression", true, false,
        57 + 7 * i, 69 + 7 * k, role i⟩ := by
  by_cases hlt : i < k
  · rw [if_pos hlt]
    exact node_conditional hlt (show 0 < 5 by decide)
  · obtain rfl : i = k := by omega
    rw [if_neg hlt]
    exact node_last i 0

/-! ## The way down -/

theorem type_level {k i : Nat} (hi : i < k) : (deepQuery k).tree.type (34 + 5 * i) = "ternary_expression" := by
  rw [SyntaxTree.type, node_level (Nat.le_of_lt hi), if_pos hi]

theorem type_concatenation (k : Nat) : (deepQuery k).tree.type (34 + 5 * k) = "binary_expression" := by
  rw [SyntaxTree.type, node_level (Nat.le_refl k), if_neg (Nat.lt_irrefl k)]

theorem field_conditional {k i r : Nat} (hi : i < k) (hr : r < 5) (hpos : 0 < r) :
    ((deepQuery k).tree.node (34 + 5 * i + r)).field = conditionalRoles[r]?.getD none := by
  rw [node_conditional hi hr]
  obtain rfl | rfl | rfl | rfl : r = 1 ∨ r = 2 ∨ r = 3 ∨ r = 4 := by omega
  all_goals rfl

theorem consequence_level {k i : Nat} (hi : i < k) :
    (deepQuery k).tree.field? (34 + 5 * i) "consequence" = some (34 + 5 * i + 3) := by
  have hnode := node_conditional hi (show 3 < 5 by omega)
  have hroles : ∀ r < 3, conditionalRoles[r]?.getD none ≠ some "consequence" := by decide
  refine field?_of_offset (by omega) (congrArg Node.parent hnode) (congrArg Node.field hnode) ?_
  intro r hr hpos
  rw [field_conditional hi (by omega) hpos]
  exact hroles r hr

theorem alternative_level {k i : Nat} (hi : i < k) :
    (deepQuery k).tree.field? (34 + 5 * i) "alternative" = some (34 + 5 * (i + 1)) := by
  have hnode : (deepQuery k).tree.node (34 + 5 * i + 5) = _ := node_level (Nat.succ_le_of_lt hi)
  have hroles : ∀ r < 5, conditionalRoles[r]?.getD none ≠ some "alternative" := by decide
  have hparent : holder (i + 1) = 34 + 5 * i := by
    show 29 + 5 * (i + 1) = 34 + 5 * i
    omega
  refine field?_of_offset (d := 5) (by omega) ?_ (congrArg Node.field hnode) ?_
  · rw [hnode, hparent]
  · intro r hr hpos
    rw [field_conditional hi hr hpos]
    exact hroles r hr

theorem query_isConditional {k i : Nat} (hi : i < k) :
    (deepQuery k).tree.isConditional (34 + 5 * i) = true := by
  rw [isConditional, type_level hi]
  rfl

/-- Each conditional may yield the concatenation. -/
theorem mayYield_level {k i : Nat} (hi : i ≤ k) : MayYield (deepQuery k).tree (34 + 5 * i) (34 + 5 * k) := by
  obtain ⟨d, rfl⟩ := Nat.exists_eq_add_of_le hi
  induction d generalizing i with
  | zero => exact .refl _
  | succ d ih =>
    have hlt : i < i + (d + 1) := by omega
    refine .branch (query_isConditional hlt) (.inr (alternative_level hlt)) ?_
    have hrest := @ih (i + 1) (by omega)
    rw [show i + 1 + d = i + (d + 1) by omega] at hrest
    exact hrest

/-- The other branch is `null`, which is no query and leaves no trace. -/
theorem unsafeQueryWithin_null {k i : Nat} (hi : i < k) (depth : Nat) (seen : List (Nat × Nat × String)) :
    unsafeQueryWithin (deepQuery k) depth seen (34 + 5 * i + 3) = (false, seen) := by
  have htype : (deepQuery k).tree.type (34 + 5 * i + 3) = "null_literal" :=
    congrArg Node.type (node_conditional hi (show 3 < 5 by decide))
  have hself : (deepQuery k).tree.unwrap (34 + 5 * i + 3) = some (34 + 5 * i + 3) :=
    CompilationUnit.unwrap_eq_self (by rw [htype]; decide)
  cases depth with
  | zero => rfl
  | succ depth =>
    refine unsafeQueryWithin_of_other hself (by rw [htype]; decide) ?_ ?_
    · rw [isConditional, htype]
      rfl
    · rw [isA, htype]
      rfl

/-- The search comes to the concatenation if it has a level for each conditional on the way and one for the
concatenation. -/
theorem unsafeQueryWithin_level {k i : Nat} (hi : i ≤ k)
    (hc : (deepQuery k).concatenates keywords (34 + 5 * k) = true) (depth : Nat)
    (seen : List (Nat × Nat × String)) :
    unsafeQueryWithin (deepQuery k) depth seen (34 + 5 * i) = (decide (k - i < depth), seen) := by
  induction depth generalizing i with
  | zero => rfl
  | succ depth ih =>
    by_cases hlt : i < k
    · have hself : (deepQuery k).tree.unwrap (34 + 5 * i) = some (34 + 5 * i) :=
        CompilationUnit.unwrap_eq_self (by rw [type_level hlt]; decide)
      have hnull : withinBranch (deepQuery k) depth seen (some (34 + 5 * i + 3)) = (false, seen) :=
        unsafeQueryWithin_null hlt depth seen
      rw [unsafeQueryWithin_of_conditional hself (query_isConditional hlt), consequence_level hlt,
        alternative_level hlt, hnull]
      -- the first branch is harmless, so the search goes on with the second one
      show unsafeQueryWithin (deepQuery k) depth seen (34 + 5 * (i + 1)) = _
      rw [ih (Nat.succ_le_of_lt hlt)]
      congr 1
      exact decide_eq_decide.2 (by omega)
    · obtain rfl : i = k := by omega
      have hself : (deepQuery i).tree.unwrap (34 + 5 * i) = some (34 + 5 * i) :=
        CompilationUnit.unwrap_eq_self (by rw [type_concatenation]; decide)
      rw [unsafeQueryWithin_of_binary hself (type_concatenation i), hc, Nat.sub_self]
      rfl

/-! ## Its texts -/

theorem utf8Len_of_ascii {cs : List Char} (h : ∀ c ∈ cs, c.utf8Size = 1) : String.utf8Len cs = cs.length := by
  induction cs with
  | nil => rfl
  | cons c cs ih =>
    rw [String.utf8Len_cons, ih fun d hd => h d (List.mem_cons_of_mem c hd), h c List.mem_cons_self,
      List.length_cons]

theorem deepText_ascii (k : Nat) : ∀ c ∈ deepText k, c.utf8Size = 1 := by
  have hall : ∀ part ∈ [frontText, "b?null:".toList, backText], part.all (·.utf8Size == 1) = true := by
    decide
  have hparts : ∀ part ∈ [frontText, "b?null:".toList, backText], ∀ c ∈ part, c.utf8Size = 1 :=
    fun part hpart c hc => beq_iff_eq.1 (List.all_eq_true.1 (hall part hpart) c hc)
  intro c hc
  unfold deepText at hc
  rcases List.mem_append.1 hc with hc | hc
  · rcases List.mem_append.1 hc with hc | hc
    · exact hparts frontText (by simp) c hc
    · obtain ⟨part, hpart, hc⟩ := List.mem_flatten.1 hc
      rw [List.eq_of_mem_replicate hpart] at hc
      exact hparts _ (by simp) c hc
  · exact hparts backText (by simp) c hc

theorem length_conditionals (k : Nat) : ((List.replicate k "b?null:".toList).flatten).length = 7 * k := by
  rw [List.length_flatten, List.map_replicate, List.sum_replicate]
  show k * 7 = 7 * k
  omega

theorem take_append_drop_take {α : Type} (l : List α) {a b : Nat} (h : a ≤ b) :
    l.take a ++ (l.take b).drop a ++ l.drop b = l := by
  have htake : l.take a = (l.take b).take a := by rw [List.take_take, Nat.min_eq_left h]
  rw [htake, List.take_append_drop, List.take_append_drop]

/-- The text of a node that lies within a part of the source. -/
theorem text_within {k n : Nat} {before part after : List Char} (h : deepText k = before ++ part ++ after)
    {a b : Nat} (hab : a ≤ b) (hb : b ≤ part.length)
    (hstart : (deepQuery k).tree.start n = before.length + a)
    (hstop : (deepQuery k).tree.stop n = before.length + b) :
    (deepQuery k).tree.text n = String.ofList ((part.take b).drop a) := by
  have hsplit : deepText k = (before ++ part.take a) ++ (part.take b).drop a ++ (part.drop b ++ after) := by
    rw [h]
    conv_lhs => rw [← take_append_drop_take part hab]
    simp only [List.append_assoc]
  -- positions count bytes, and here every character is one byte
  have hlength : ∀ {cs}, (∀ c ∈ cs, c ∈ deepText k) → String.utf8Len cs = cs.length := fun hcs =>
    utf8Len_of_ascii fun c hc => deepText_ascii k c (hcs c hc)
  have hfront : String.utf8Len (before ++ part.take a) = before.length + a := by
    rw [hlength (fun c hc => by rw [hsplit]; exact List.mem_append_left _ (List.mem_append_left _ hc)),
      List.length_append, List.length_take]
    omega
  have htext : String.utf8Len ((part.take b).drop a) = b - a := by
    rw [hlength (fun c hc => by rw [hsplit]; exact List.mem_append_left _ (List.mem_append_right _ hc)),
      List.length_drop, List.length_take]
    omega
  have hend : before.length + b = String.utf8Len (before ++ part.take a) +
      String.utf8Len ((part.take b).drop a) := by omega
  rw [SyntaxTree.text, hstart, hstop, hend, ← hfront]
  show String.Pos.Raw.extract (String.ofList (deepText k)) _ _ = _
  rw [hsplit]
  exact String.extract_of_valid _ _ _

/-- What the source without conditionals says at a node in front of the query. -/
def word (n : Nat) : String := String.ofList ((frontText.take (row n).stop).drop (row n).start)

/-- The texts before the query are the same for every number of conditionals. -/
theorem text_front (k : Nat) {n : Nat} (h : n < 34 ∧ (row n).start ≤ (row n).stop ∧ (row n).stop ≤ 57) :
    (deepQuery k).tree.text n = word n := by
  obtain ⟨hn, hle, hstop⟩ := h
  have hnode := node_front k hn
  have htext : deepText k = [] ++ frontText ++ ((List.replicate k "b?null:".toList).flatten ++ backText) :=
    List.append_assoc _ _ _
  refine text_within htext hle hstop ?_ ?_
  · rw [SyntaxTree.start, hnode, List.length_nil, Nat.zero_add]
    rfl
  · rw [SyntaxTree.stop, hnode, List.length_nil, Nat.zero_add]
    exact if_pos hstop

theorem text_back (k : Nat) {n a b : Nat} (hab : a ≤ b) (hb : b ≤ 16)
    (hstart : (deepQuery k).tree.start n = 57 + 7 * k + a)
    (hstop : (deepQuery k).tree.stop n = 57 + 7 * k + b) :
    (deepQuery k).tree.text n = String.ofList ((backText.take b).drop a) := by
  have hlength : (frontText ++ (List.replicate k "b?null:".toList).flatten).length = 57 + 7 * k := by
    rw [List.length_append, length_conditionals]
    rfl
  refine text_within (List.append_nil (deepText k)).symm hab hb ?_ ?_
  · rw [hlength, hstart]
  · rw [hlength, hstop]

/-! ## The concatenation -/

/-- A child of the concatenation is found by its role in the table, for every number of conditionals. -/
theorem field?_concatenation (k : Nat) {d : Nat} {role : String} (hd : 0 < d ∧ d < 11)
    (hparent : (row (34 + d)).parent = some 34) (hrole : (row (34 + d)).field = some role)
    (hfirst : ∀ r < d, 0 < r → (row (34 + r)).field ≠ some role) :
    (deepQuery k).tree.field? (34 + 5 * k) role = some (34 + 5 * k + d) := by
  have hnode := node_behind k hd
  refine field?_of_offset hd.1 ?_ ?_ fun r hr hpos => ?_
  · rw [hnode, shift, hparent, Option.map_some, if_neg (Nat.lt_irrefl 34)]
  · rw [hnode]
    exact hrole
  · rw [node_behind k ⟨hpos, by omega⟩]
    exact hfirst r hr hpos

theorem isPlus_concatenation (k : Nat) : (deepQuery k).tree.isPlus (34 + 5 * k) = true := by
  have htext : (deepQuery k).tree.text (34 + 5 * k + 5) = "+" := by
    refine (text_back k (show 7 ≤ 8 by decide) (by decide) ?_ ?_).trans (by decide)
    · rw [SyntaxTree.start, node_last]
      show 64 + 7 * k = _
      omega
    · rw [SyntaxTree.stop, node_last]
      show 65 + 7 * k = _
      omega
  have hoperator : (deepQuery k).tree.field? (34 + 5 * k) "operator" = some (34 + 5 * k + 5) :=
    field?_concatenation k (by omega) rfl rfl (by decide)
  rw [isPlus, type_concatenation, fieldText?, hoperator, Option.map_some, htext]
  rfl

/-- Its sides are a text with a keyword and `this`. -/
theorem concatenates_concatenation (k : Nat) : (deepQuery k).concatenates keywords (34 + 5 * k) = true := by
  have hplus := isPlus_concatenation k
  have hself : (deepQuery k).tree.unwrap (34 + 5 * k) = some (34 + 5 * k) :=
    unwrap_of_not_isParen (not_isParen_of_isPlus hplus)
  have htext : (deepQuery k).tree.text (34 + 5 * k) = "\"DROP \"+this" := by
    refine (text_back k (Nat.zero_le 12) (by decide) ?_ ?_).trans (by decide)
    · rw [SyntaxTree.start, node_level (Nat.le_refl k)]
      rfl
    · rw [SyntaxTree.stop, node_level (Nat.le_refl k)]
      show 69 + 7 * k = _
      omega
  have hthis : (deepQuery k).tree.type (34 + 5 * k + 6) = "this" := congrArg Node.type (node_last k 6)
  have hleaf : (deepQuery k).tree.unwrap (34 + 5 * k + 6) = some (34 + 5 * k + 6) :=
    CompilationUnit.unwrap_eq_self (by rw [hthis]; decide)
  -- the keyword is in the text, and the operand that is no constant is on the right
  refine (CompilationUnit.concatenates_iff hself).2 ⟨hplus, ⟨"DROP", by decide, ?_⟩, 34 + 5 * k + 6, ?_, ?_⟩
  · rw [htext]
    decide
  · have hnot : (deepQuery k).tree.isPlus (34 + 5 * k + 6) = false := by
      rw [isPlus, hthis]
      rfl
    have hright : (deepQuery k).tree.field? (34 + 5 * k) "right" = some (34 + 5 * k + 6) :=
      field?_concatenation k (by omega) rfl rfl (by decide)
    rw [operands_of_isPlus hplus, operandsIn, operandsIn, hright]
    refine List.mem_append_right _ ?_
    show 34 + 5 * k + 6 ∈ (deepQuery k).tree.operands (34 + 5 * k + 6)
    rw [operands_eq_self (not_isParen_of_unwrap hleaf) hnot]
    exact List.mem_cons_self
  · unfold CompilationUnit.isConstant classifierDepth
    rw [CompilationUnit.isConstantWithin, hleaf]
    dsimp only
    rw [isA, isA, hthis]
    rfl

/-- The concatenation alone looks unsafe. -/
theorem looksUnsafe_concatenation (k : Nat) : LooksUnsafe (deepQuery k) (34 + 5 * k) :=
  ⟨type_concatenation k, concatenates_concatenation k⟩

/-! ## The call -/

/-- The first child of a kind, among the nodes in front of the query. -/
def firstChild (n : Nat) (kind : Node → Bool) : Option Nat :=
  (List.range 34).find? fun c => (row c).parent == some n && kind (row c)

theorem parent_lt_row : ∀ c < 34, ∀ p ∈ (row c).parent, p < c := by
  decide

/-- The first child of a kind is found in the table if it is found there. -/
theorem find?_children_front (k : Nat) {n c : Nat} {kind : Node → Bool} {q : NodeId → Bool}
    (hq : ∀ m < 34, q m = kind (row m)) (h : firstChild n kind = some c) :
    ((deepQuery k).tree.children n).find? q = some c := by
  obtain ⟨hfound, hmem, hfirst⟩ := List.find?_range_eq_some.1 h
  obtain ⟨hparent, hkind⟩ := Bool.and_eq_true_iff.1 hfound
  rw [beq_iff_eq] at hparent
  have hc := List.mem_range.1 hmem
  refine find?_children_of_first ?_ (parent_lt_row c hc n hparent) ((hq c hc).trans hkind) ?_
  · rw [node_front k hc]
    exact hparent
  · intro m _ hmc hm
    rw [node_front k (Nat.lt_trans hmc hc)] at hm
    have hnot := hfirst m hmc
    rw [show (row m).parent = some n from hm, beq_self_eq_true, Bool.true_and, Bool.not_eq_true'] at hnot
    rw [hq m (Nat.lt_trans hmc hc), hnot]

theorem field?_front (k : Nat) {n c : Nat} {role : String}
    (h : firstChild n (fun node => node.field == some role) = some c) :
    (deepQuery k).tree.field? n role = some c := by
  refine find?_children_front k (fun m hm => ?_) h
  rw [node_front k hm]
  rfl

theorem head?_parts_front (k : Nat) {n c : Nat}
    (h : firstChild n (fun node => !commentTypes.contains node.type && node.named) = some c) :
    ((deepQuery k).tree.parts n).head? = some c := by
  rw [head?_parts]
  refine find?_children_front k (fun m hm => ?_) h
  rw [isA, isNamed, SyntaxTree.type, node_front k hm]
  rfl

theorem ancestors_front (k : Nat) {n p : Nat} (hn : n < 34) (h : (row n).parent = some p) :
    (deepQuery k).tree.ancestors n = p :: (deepQuery k).tree.ancestors p := by
  refine ancestors_of_parent? (parent?_of_parent ?_ (parent_lt_row n hn p h))
  rw [node_front k hn]
  exact h

theorem type_front (k : Nat) {n : Nat} (hn : n < 34) :
    (deepQuery k).tree.type n = (row n).type := by
  rw [SyntaxTree.type, node_front k hn]
  rfl

theorem type_conditional {k i r : Nat} (hi : i < k) (hr : r < 5) :
    (deepQuery k).tree.type (34 + 5 * i + r) =
      conditionalTypes[r]?.getD "" := by
  rw [SyntaxTree.type, node_conditional hi hr]
  obtain rfl | rfl | rfl | rfl | rfl : r = 0 ∨ r = 1 ∨ r = 2 ∨ r = 3 ∨ r = 4 := by omega
  all_goals rfl

theorem key_last (k : Nat) {j : Nat} (hj : j < 11) :
    (deepQuery k).tree.key (34 + 5 * k + j) =
      ((row (34 + j)).start + 7 * k, (row (34 + j)).stop + 7 * k,
        (row (34 + j)).type) := by
  rw [key, SyntaxTree.start, SyntaxTree.stop, SyntaxTree.type, node_last]
  cases j with
  | zero => rfl
  | succ j =>
    rw [← node_last, node_behind k ⟨Nat.succ_pos j, hj⟩]
    rfl

/-- Nothing is imported, and the only type is the class around the method. -/
theorem type_of_deepQuery {k n : Nat} (hn : n < (deepQuery k).tree.size) :
    (deepQuery k).tree.type n ∉ ["package_declaration", "import_declaration"] ∧
      ((deepQuery k).tree.isA n typeDeclarationTypes = true → n = 1) := by
  have htable : ∀ m < 45, (row m).type ∉ ["package_declaration", "import_declaration"] ∧
      (typeDeclarationTypes.contains (row m).type = true → m = 1) := by decide
  rw [isA]
  rcases node_cases hn with hfront | ⟨i, r, hi, hr, rfl⟩ | ⟨j, hj, rfl⟩
  · rw [type_front k hfront]
    exact htable n (by omega)
  · rw [type_conditional hi hr]
    have hlevel : ∀ r < 5, conditionalTypes[r]?.getD "" ∉ ["package_declaration", "import_declaration"] ∧
        typeDeclarationTypes.contains (conditionalTypes[r]?.getD "") = false := by decide
    refine ⟨(hlevel r hr).1, fun h => ?_⟩
    rw [(hlevel r hr).2] at h
    cases h
  · have htype : (deepQuery k).tree.type (34 + 5 * k + j) = (row (34 + j)).type :=
      congrArg (·.2.2) (key_last k hj)
    rw [htype]
    obtain ⟨hheader, htypes⟩ := htable (34 + j) (by omega)
    refine ⟨hheader, fun h => ?_⟩
    have hone := htypes h
    omega

theorem header_deepQuery (k : Nat) : (deepQuery k).header = .empty :=
  CompilationUnit.header_eq_empty fun _ hn => (type_of_deepQuery hn).1

/-- The name of the package of the receiver's type is not the name of a type. -/
theorem simpleNames_deepQuery (k : Nat) : Table.get? "java" (deepQuery k).types.simpleNames = none := by
  rw [CompilationUnit.get?_simpleNames, Option.map_eq_none_iff, List.find?_eq_none]
  intro n hn
  obtain ⟨hmem, htype⟩ := List.mem_filter.1 hn
  have hsize := lt_size_of_mem_ancestors (isNamed_and_mem_ancestors_of_mem_descendants hmem).2
  obtain rfl := (type_of_deepQuery hsize).2 htype
  have hname : (deepQuery k).tree.field? 1 "name" = some 3 :=
    field?_front k (by decide)
  have htext : (deepQuery k).tree.text 3 = "A" := (text_front k (by decide)).trans (by decide)
  rw [fieldText?, hname, Option.map_some, htext]
  decide

theorem qualify_receiver (k : Nat) :
    (deepQuery k).qualify "java.sql.Statement" = some "java.sql.Statement" := by
  have hhead : (deepQuery k).qualifySimple "java" = none := by
    rw [CompilationUnit.qualifySimple, simpleNames_deepQuery, header_deepQuery]
    decide
  have hname : "java.sql.Statement" = ".".intercalate ["java", "sql", "Statement"] := by decide
  rw [hname]
  exact CompilationUnit.qualify_of_dotted (by decide) hhead (by decide)

theorem ancestors_receiver (k : Nat) :
    (deepQuery k).tree.ancestors 29 = 28 :: 27 :: 25 :: 6 :: (deepQuery k).tree.ancestors 6 := by
  rw [ancestors_front k (n := 29) (p := 28) (by omega) rfl,
    ancestors_front k (n := 28) (p := 27) (by omega) rfl,
    ancestors_front k (n := 27) (p := 25) (by omega) rfl,
    ancestors_front k (n := 25) (p := 6) (by omega) rfl]

/-- The first parameter of the method has the name and the type of the receiver. -/
theorem parameter_receiver (k : Nat) :
    ∃ s, (deepQuery k).parameter? 6 "s" .parameter = some s ∧ s.typeName = some "java.sql.Statement" := by
  have hparams : (deepQuery k).tree.field? 6 "parameters" = some 9 :=
    field?_front k (by decide)
  have hhead : ((deepQuery k).tree.parts 9).head? = some 11 :=
    head?_parts_front k (by decide)
  obtain ⟨rest, hparts⟩ := List.head?_eq_some_iff.1 hhead
  have hname : (deepQuery k).tree.fieldText? 11 "name" = some "s" := by
    rw [fieldText?, field?_front k (c := 19) (by decide), Option.map_some, text_front k (by decide)]
    decide
  have htype : (deepQuery k).tree.field? 11 "type" = some 12 :=
    field?_front k (by decide)
  have htext : (deepQuery k).tree.text 12 = "java.sql.Statement" :=
    (text_front k (by decide)).trans (by decide)
  have hkind : (deepQuery k).tree.type 11 = "formal_parameter" := type_front k (by omega)
  have hsymbol : ∃ s, (deepQuery k).parameterSymbol 6 11 "s" .parameter = some s ∧
      s.typeName = some "java.sql.Statement" := by
    unfold CompilationUnit.parameterSymbol
    dsimp only
    rw [hkind]
    show ∃ s, (deepQuery k).namedVariable 11 11 "s" .parameter none none = some s ∧ _
    rw [CompilationUnit.namedVariable, if_pos hname, Option.none_or, htype, Option.map_some, htext]
    exact ⟨_, rfl, qualify_receiver k⟩
  obtain ⟨s, hs, hstype⟩ := hsymbol
  refine ⟨s, ?_, hstype⟩
  rw [CompilationUnit.parameter?, hparams, Option.bind_some, type_front k (by omega), if_neg (by decide),
    hparts, List.findSome?_cons, hs]

/-- The receiver of the call is that parameter. -/
theorem lookup_receiver (k : Nat) :
    ∃ s, (deepQuery k).lookup "s" 29 = some s ∧ s.typeName = some "java.sql.Statement" := by
  obtain ⟨s, hs, htype⟩ := parameter_receiver k
  refine ⟨s, ?_, htype⟩
  have hnone : ∀ a ∈ [28, 27], (deepQuery k).binding? a ((deepQuery k).tree.start 29) "s" = none := by
    intro a ha
    unfold CompilationUnit.binding?
    rcases List.mem_cons.1 ha with rfl | ha
    · rw [type_front k (by omega)]
      rfl
    · obtain rfl := List.mem_singleton.1 ha
      rw [type_front k (by omega)]
      rfl
  -- the call is in the first statement of the block, so the block declares nothing before it
  have hblock : (deepQuery k).binding? 25 ((deepQuery k).tree.start 29) "s" = none := by
    have hhead : ((deepQuery k).tree.parts 25).head? = some 27 :=
      head?_parts_front k (by decide)
    obtain ⟨rest, hparts⟩ := List.head?_eq_some_iff.1 hhead
    have hstart : (deepQuery k).tree.start 27 = (deepQuery k).tree.start 29 := by
      rw [SyntaxTree.start, SyntaxTree.start, node_front k (by omega), node_front k (by omega)]
      rfl
    unfold CompilationUnit.binding?
    rw [type_front k (by omega)]
    show (deepQuery k).blockBinding 25 _ "s" = none
    rw [CompilationUnit.blockBinding, hparts, List.takeWhile_cons, hstart, decide_eq_false (Nat.lt_irrefl _)]
    rfl
  have hmethod : (deepQuery k).binding? 6 ((deepQuery k).tree.start 29) "s" = some s := by
    unfold CompilationUnit.binding?
    rw [type_front k (by omega)]
    exact hs
  rw [CompilationUnit.lookup, ancestors_receiver, List.findSome?_cons, hnone 28 (by decide),
    List.findSome?_cons, hnone 27 (by decide), List.findSome?_cons, hblock, List.findSome?_cons, hmethod]

/-- The call is one of `execute` on a statement. -/
theorem callTarget_call (k : Nat) :
    (deepQuery k).callTarget 28 = some ⟨"java.sql.Statement", "execute"⟩ := by
  have hcall : (deepQuery k).tree.type 28 = "method_invocation" := type_front k (by omega)
  have hreceiver : (deepQuery k).tree.type 29 = "identifier" := type_front k (by omega)
  have hself : (deepQuery k).tree.unwrap 28 = some 28 :=
    CompilationUnit.unwrap_eq_self (by rw [hcall]; decide)
  have hselfReceiver : (deepQuery k).tree.unwrap 29 = some 29 :=
    CompilationUnit.unwrap_eq_self (by rw [hreceiver]; decide)
  have hname : (deepQuery k).tree.fieldText? 28 "name" = some "execute" := by
    rw [fieldText?, field?_front k (c := 31) (by decide), Option.map_some, text_front k (by decide)]
    decide
  have hobject : (deepQuery k).tree.field? 28 "object" = some 29 :=
    field?_front k (by decide)
  have htext : (deepQuery k).tree.text 29 = "s" :=
    (text_front k (by decide)).trans (by decide)
  obtain ⟨s, hs, htype⟩ := lookup_receiver k
  have hreference : (deepQuery k).reference? 29 = some s := by
    rw [CompilationUnit.reference?_of_identifier hreceiver, htext, hs]
  -- one level is enough for the type of the receiver
  have howner : ∀ depth, (deepQuery k).typeWithin (depth + 1) false 29 = some "java.sql.Statement" := by
    intro depth
    rw [CompilationUnit.typeWithin, hselfReceiver, Option.bind_some, hreceiver]
    show (deepQuery k).referenceType _ false 29 = _
    rw [CompilationUnit.referenceType, hreference]
    dsimp only
    rw [htype]
    rfl
  unfold CompilationUnit.callTarget inferenceDepth
  rw [CompilationUnit.callTargetWithin, hself, Option.bind_some, hcall, if_neg (by decide), if_pos rfl, hname,
    Option.bind_some, hobject]
  dsimp only
  rw [howner 31]
  rfl

/-- The call hands its first argument to the database. -/
theorem isSink_call (k : Nat) : (deepQuery k).isSink sinks 28 = true := by
  have hamong : CallTarget.isAmong (deepQuery k).fullHierarchy sinks ⟨"java.sql.Statement", "execute"⟩ = true :=
    (CallTarget.isAmong_iff (by decide)).2 ⟨"java.sql.Statement", .refl, by decide⟩
  rw [CompilationUnit.isSink, CompilationUnit.sinkTarget, callTarget_call, Option.filter_some, if_pos hamong]
  rfl

theorem arguments_call (k : Nat) :
    (deepQuery k).tree.field? 28 "arguments" = some 32 ∧
      ((deepQuery k).tree.parts 32).head? = some 34 := by
  refine ⟨field?_front k (by decide), ?_⟩
  have hnode := @node_level k 0 (Nat.zero_le k)
  have hcomment : (deepQuery k).tree.isA 34 commentTypes = false := by
    rw [isA, SyntaxTree.type, hnode]
    by_cases hk : 0 < k
    · simp [hk, commentTypes]
    · simp [hk, commentTypes]
  rw [head?_parts]
  refine find?_children_of_first (congrArg Node.parent hnode) (by omega) ?_ ?_
  · rw [hcomment, isNamed, hnode]
    rfl
  · intro m hm hmc _
    obtain rfl : m = 33 := by omega
    rw [isNamed, node_front k (by omega)]
    exact Bool.and_false _

/-! ## No two nodes have the same key -/

theorem key_front (k : Nat) {n : Nat} (hn : n < 34) :
    (deepQuery k).tree.key n = ((row n).start, (widen k (row n)).stop, (row n).type) := by
  rw [key, SyntaxTree.start, SyntaxTree.stop, SyntaxTree.type, node_front k hn]
  rfl

theorem start_conditional {k i r : Nat} (hi : i < k) (hr : r < 5) :
    (deepQuery k).tree.start (34 + 5 * i + r) = 57 + 7 * i + conditionalStarts[r]?.getD 0 := by
  rw [SyntaxTree.start, node_conditional hi hr]
  obtain rfl | rfl | rfl | rfl | rfl : r = 0 ∨ r = 1 ∨ r = 2 ∨ r = 3 ∨ r = 4 := by omega
  · rfl
  · rfl
  · show 58 + 7 * i = 57 + 7 * i + 1
    omega
  · show 59 + 7 * i = 57 + 7 * i + 2
    omega
  · show 63 + 7 * i = 57 + 7 * i + 6
    omega

/-- Moving the ends on does not make two of them equal. -/
theorem widen_stop_inj {k : Nat} {a b : Node} (h : (widen k a).stop = (widen k b).stop) : a.stop = b.stop := by
  unfold widen at h
  dsimp only at h
  split at h <;> split at h <;> omega

theorem row_inj : ∀ n < 45, ∀ m < 45, (row n).start = (row m).start → (row n).stop = (row m).stop →
    (row n).type = (row m).type → n = m := by
  decide

theorem conditional_inj : ∀ r < 5, ∀ r' < 5,
    conditionalStarts[r]?.getD 0 = conditionalStarts[r']?.getD 0 →
    conditionalTypes[r]?.getD "" = conditionalTypes[r']?.getD "" → r = r' := by
  decide

/-- No two nodes of the method have the same key. -/
theorem distinctKeys_deepQuery (k : Nat) : (deepQuery k).tree.DistinctKeys := by
  have hfront : ∀ n < 34, (deepQuery k).tree.start n < 57 := by
    intro n hn
    have hstart : ∀ n < 34, (row n).start < 57 := by decide
    rw [show (deepQuery k).tree.start n = (row n).start from congrArg (·.1) (key_front k hn)]
    exact hstart n hn
  have hlast : ∀ j < 11, 57 + 7 * k ≤ (deepQuery k).tree.start (34 + 5 * k + j) := by
    intro j hj
    have hstart : ∀ j < 11, 57 ≤ (row (34 + j)).start := by decide
    rw [show (deepQuery k).tree.start (34 + 5 * k + j) = _ from congrArg (·.1) (key_last k hj)]
    exact Nat.add_le_add_right (hstart j hj) _
  have hoffset : ∀ r < 5, conditionalStarts[r]?.getD 0 < 7 := by decide
  intro n hn m hm hkey
  have hstart : (deepQuery k).tree.start n = (deepQuery k).tree.start m := congrArg (·.1) hkey
  -- the three groups of nodes start at different places, so the two nodes are in one group
  rcases node_cases hn with hn | ⟨i, r, hi, hr, rfl⟩ | ⟨j, hj, rfl⟩ <;>
    rcases node_cases hm with hm | ⟨i', r', hi', hr', rfl⟩ | ⟨j', hj', rfl⟩
  · rw [key_front k hn, key_front k hm] at hkey
    simp only [Prod.mk.injEq] at hkey
    exact row_inj n (by omega) m (by omega) hkey.1 (widen_stop_inj hkey.2.1) hkey.2.2
  · have hless := hfront n hn
    have hnext := start_conditional hi' hr'
    omega
  · have hless := hfront n hn
    have hnext := hlast j' hj'
    omega
  · have hless := hfront m hm
    have hnext := start_conditional hi hr
    omega
  · have htype : (deepQuery k).tree.type _ = (deepQuery k).tree.type _ := congrArg (·.2.2) hkey
    rw [start_conditional hi hr, start_conditional hi' hr'] at hstart
    rw [type_conditional hi hr, type_conditional hi' hr'] at htype
    have hless := hoffset r hr
    have hless' := hoffset r' hr'
    obtain rfl : i = i' := by omega
    rw [conditional_inj r hr r' hr' (by omega) htype]
  · have hless := hoffset r hr
    have hnext := hlast j' hj'
    rw [start_conditional hi hr] at hstart
    omega
  · have hless := hfront m hm
    have hnext := hlast j hj
    omega
  · have hless := hoffset r' hr'
    have hnext := hlast j hj
    rw [start_conditional hi' hr'] at hstart
    omega
  · rw [key_last k hj, key_last k hj'] at hkey
    simp only [Prod.mk.injEq, Nat.add_right_cancel_iff] at hkey
    have heq := row_inj (34 + j) (by omega) (34 + j') (by omega) hkey.1 hkey.2.1 hkey.2.2
    omega

end Rule.SqlInjection

end JavaAudit
