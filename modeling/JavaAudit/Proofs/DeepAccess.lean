import JavaAudit.Proofs.FieldAccess
import JavaAudit.Proofs.Reliability
import JavaAudit.Proofs.TabulatedTrees
import JavaAudit.Proofs.TypeNaming

/-!
# A path behind many field accesses

`deepAccess k` is the statement `new java.io.File(a.a. … .a);`, where the argument is made of `k` field accesses, each
of which is the object of the one around it. The argument is not constant, so that the rule on paths means to fire
(`fires_meant`). To find out what the outermost access refers to, the rule asks what its object refers to, and so on
down to the name in the innermost one, with one call for each. If there are more accesses than there is room for,
the rule gives up, whatever the name means (`askReference_level`).
-/

namespace JavaAudit.Rule

open SyntaxTree

/-! ## The statement -/

/-- The nodes in front of the argument. -/
def creationNodes (k : Nat) : List Node :=
  [⟨none, "program", true, false, 0, 20 + 2 * k, none⟩,
    ⟨some 0, "expression_statement", true, false, 0, 20 + 2 * k, none⟩,
    ⟨some 1, "object_creation_expression", true, false, 0, 19 + 2 * k, none⟩,
    ⟨some 2, "new", false, false, 0, 3, none⟩,
    ⟨some 2, "scoped_type_identifier", true, false, 4, 16, some "type"⟩,
    ⟨some 4, "scoped_type_identifier", true, false, 4, 11, none⟩,
    ⟨some 5, "type_identifier", true, false, 4, 8, none⟩,
    ⟨some 5, ".", false, false, 8, 9, none⟩,
    ⟨some 5, "type_identifier", true, false, 9, 11, none⟩,
    ⟨some 4, ".", false, false, 11, 12, none⟩,
    ⟨some 4, "type_identifier", true, false, 12, 16, none⟩,
    ⟨some 2, "argument_list", true, false, 16, 19 + 2 * k, some "arguments"⟩,
    ⟨some 11, "(", false, false, 16, 17, none⟩]

/-- An access with `level` others around it, and at last the name in the innermost one. -/
def levelNode (k level : Nat) : Node where
  parent := some (if level = 0 then 11 else 12 + level)
  type := if level < k then "field_access" else "identifier"
  named := true
  missing := false
  start := 17
  stop := 18 + 2 * (k - level)
  field := if level = 0 then none else some "object"

/-- The dots and the members of the accesses, from the innermost one on. -/
def memberNode (k place : Nat) : Node where
  parent := some (12 + k - place / 2)
  type := if place % 2 = 0 then "." else "identifier"
  named := place % 2 != 0
  missing := false
  start := 18 + place
  stop := 19 + place
  field := if place % 2 = 0 then none else some "field"

def deepAccessNode (k n : Nat) : Node :=
  if n < 13 then (creationNodes k)[n]?.getD .absent
  else if n ≤ 13 + k then levelNode k (n - 13)
  else if n < 14 + 3 * k then memberNode k (n - (14 + k))
  else if n = 14 + 3 * k then ⟨some 11, ")", false, false, 18 + 2 * k, 19 + 2 * k, none⟩
  else ⟨some 1, ";", false, false, 19 + 2 * k, 20 + 2 * k, none⟩

def deepAccessText (k : Nat) : List Char :=
  "new java.io.File(a".toList ++ (List.replicate k ".a".toList).flatten ++ ");".toList

def deepAccess (k : Nat) : CompilationUnit :=
  .ofTree "<string>" (.tabulate (String.ofList (deepAccessText k)) (16 + 3 * k) (deepAccessNode k))

/-! ## Its nodes -/

variable {k n : Nat}

theorem size_deepAccess (k : Nat) : (deepAccess k).tree.size = 16 + 3 * k := size_tabulate

theorem node_deepAccess (h : n < 16 + 3 * k) : (deepAccess k).tree.node n = deepAccessNode k n :=
  node_tabulate h

theorem node_creation (h : n < 13) : (deepAccess k).tree.node n = (creationNodes k)[n]?.getD .absent := by
  rw [node_deepAccess (by omega), deepAccessNode, if_pos h]

theorem node_level {level : Nat} (h : level ≤ k) :
    (deepAccess k).tree.node (13 + level) = levelNode k level := by
  rw [node_deepAccess (by omega), deepAccessNode, if_neg (by omega), if_pos (by omega),
    Nat.add_sub_cancel_left]

theorem node_member {place : Nat} (h : place < 2 * k) :
    (deepAccess k).tree.node (14 + k + place) = memberNode k place := by
  rw [node_deepAccess (by omega), deepAccessNode, if_neg (by omega), if_neg (by omega), if_pos (by omega),
    Nat.add_sub_cancel_left]

/-- What of the nodes in front does not depend on the number of accesses. -/
theorem getD_creationNodes {α : Type} (k : Nat) (f : Node → α)
    (h : (creationNodes k).map f = (creationNodes 0).map f) (n : Nat) :
    f ((creationNodes k)[n]?.getD .absent) = f ((creationNodes 0)[n]?.getD .absent) :=
  getD_congr _ _ f h n

/-- The node types other than that of the creation. -/
def otherTypes : List String :=
  ["program", "expression_statement", "new", "scoped_type_identifier", "type_identifier", ".", "argument_list",
    "(", "field_access", "identifier", ")", ";"]

/-- The creation is the only node of its type. -/
theorem type_deepAccess (h : n < (deepAccess k).tree.size) :
    n = 2 ∨ (deepAccess k).tree.type n ∈ otherTypes := by
  rw [size_deepAccess] at h
  rw [SyntaxTree.type, node_deepAccess h, deepAccessNode]
  have hfront : ∀ m < 13, m = 2 ∨ ((creationNodes 0)[m]?.getD .absent).type ∈ otherTypes := by decide
  split
  · next hn =>
    rw [getD_creationNodes k Node.type rfl]
    exact hfront n hn
  · right
    split
    · unfold levelNode
      dsimp only
      split <;> decide
    · split
      · unfold memberNode
        dsimp only
        split <;> decide
      · split <;> (dsimp only; decide)

theorem type_creation (k : Nat) : (deepAccess k).tree.type 2 = "object_creation_expression" :=
  congrArg Node.type (node_creation (by decide))

/-- A child of the creation is found by its role in the table of the first nodes, for every number of accesses.
-/
theorem field?_creation {role : String} {d : Nat} (hd : 0 < d ∧ d < 11)
    (hparent : ((creationNodes k)[2 + d]?.getD .absent).parent = some 2)
    (hrole : ((creationNodes 0)[2 + d]?.getD .absent).field = some role)
    (hfirst : ∀ r < d, 0 < r → ((creationNodes 0)[2 + r]?.getD .absent).field ≠ some role) :
    (deepAccess k).tree.field? 2 role = some (2 + d) :=
  field?_of_table (creationNodes k) (creationNodes 0) 2 rfl hd.1 (fun r hr => node_creation (by omega)) hparent
    hrole hfirst

/-- The argument is the outermost access. -/
theorem arguments_creation (k : Nat) : ((deepAccess k).tree.arguments 2).head? = some 13 := by
  have hlist : (deepAccess k).tree.field? 2 "arguments" = some 11 :=
    field?_creation (d := 9) (by decide) rfl rfl (by decide)
  have hlevel : (deepAccess k).tree.node 13 = levelNode k 0 := node_level (Nat.zero_le k)
  rw [arguments, hlist]
  dsimp only
  rw [head?_parts]
  refine find?_children_of_first (by rw [hlevel]; rfl) (by decide) ?_ fun m hm hmc _ => ?_
  · rw [isA, isNamed, SyntaxTree.type, hlevel]
    unfold levelNode
    dsimp only
    split <;> decide
  · obtain rfl : m = 12 := by omega
    rw [isNamed, node_creation (by decide)]
    exact Bool.and_false _

/-! ## What it creates -/

/-- The statement stands alone, without a type, a package or an import. -/
theorem declaresNothing (k : Nat) :
    ∀ n < (deepAccess k).tree.size, (deepAccess k).tree.isA n typeDeclarationTypes = false ∧
      (deepAccess k).tree.type n ∉ ["package_declaration", "import_declaration"] := by
  intro n hn
  have hothers : ∀ type ∈ "object_creation_expression" :: otherTypes,
      typeDeclarationTypes.contains type = false ∧
        type ∉ ["package_declaration", "import_declaration"] := by decide
  rw [isA]
  rcases type_deepAccess hn with rfl | htype
  · rw [type_creation]
    exact hothers _ List.mem_cons_self
  · exact hothers _ (List.mem_cons_of_mem _ htype)

theorem fieldOf_deepAccess (k : Nat) (type name : String) : (deepAccess k).fieldOf type name = none :=
  CompilationUnit.fieldOf_eq_none (fun n hn => (declaresNothing k n hn).1) type name

theorem qualify_file (k : Nat) : (deepAccess k).qualify "java.io.File" = some "java.io.File" := by
  have hhead : (deepAccess k).qualifySimple "java" = none := by
    rw [CompilationUnit.qualifySimple, CompilationUnit.types_eq_empty fun n hn => (declaresNothing k n hn).1,
      CompilationUnit.header_eq_empty fun n hn => (declaresNothing k n hn).2]
    decide
  have hname : "java.io.File" = ".".intercalate ["java", "io", "File"] := by decide
  rw [hname]
  exact CompilationUnit.qualify_of_dotted (by decide) hhead (by decide)

theorem typeText_creation (k : Nat) : (deepAccess k).tree.fieldText? 2 "type" = some "java.io.File" := by
  have htype : (deepAccess k).tree.field? 2 "type" = some 4 :=
    field?_creation (d := 2) (by decide) rfl rfl (by decide)
  have htext : (deepAccess k).tree.text 4 = String.ofList "java.io.File".toList := by
    have hsource : (deepAccess k).tree.source = String.ofList ("new ".toList ++ "java.io.File".toList ++
        ("(a".toList ++ (List.replicate k ".a".toList).flatten ++ ");".toList)) := rfl
    refine text_of_source hsource ?_ ?_
    · rw [SyntaxTree.start, node_creation (by decide)]
      rfl
    · rw [SyntaxTree.stop, node_creation (by decide)]
      rfl
  rw [fieldText?, htype, Option.map_some, htext]
  rfl

/-- The constructor that is called is the one of the type that is written, and no question is asked for it. -/
theorem callTarget_creation (k depth : Nat) :
    (deepAccess k).callTargetWithin (depth + 1) 2 = some ⟨"java.io.File", CallTarget.constructorName⟩ ∧
      (deepAccess k).askTargetWithin (depth + 1) 2 =
        pure (some ⟨"java.io.File", CallTarget.constructorName⟩) := by
  have hself : (deepAccess k).tree.unwrap 2 = some 2 :=
    CompilationUnit.unwrap_eq_self (by rw [type_creation]; decide)
  constructor
  · rw [CompilationUnit.callTargetWithin, hself, Option.bind_some, if_pos (type_creation k),
      typeText_creation, Option.bind_some, qualify_file]
    rfl
  · rw [CompilationUnit.askTargetWithin, hself]
    dsimp only
    rw [if_pos (type_creation k), typeText_creation, Option.bind_some, qualify_file]
    rfl

/-- The creation is a sink for paths, and no question is asked for it either. -/
theorem isSink_creation (k : Nat) :
    (deepAccess k).isSink pathSinks 2 = true ∧ (deepAccess k).askSink pathSinks 2 = pure true := by
  have hpure : (deepAccess k).callTarget 2 = some ⟨"java.io.File", CallTarget.constructorName⟩ :=
    (callTarget_creation k 32).1
  have hask : (deepAccess k).askTarget 2 = pure (some ⟨"java.io.File", CallTarget.constructorName⟩) :=
    (callTarget_creation k 32).2
  constructor
  · rw [CompilationUnit.isSink, CompilationUnit.sinkTarget, hpure]
    rfl
  · rw [CompilationUnit.askSink, CompilationUnit.askSinkTarget, hask]
    rfl

/-! ## The accesses -/

theorem type_level {level : Nat} (h : level < k) : (deepAccess k).tree.type (13 + level) = "field_access" := by
  rw [SyntaxTree.type, node_level (Nat.le_of_lt h)]
  exact if_pos h

theorem type_name (k : Nat) : (deepAccess k).tree.type (13 + k) = "identifier" := by
  rw [SyntaxTree.type, node_level (Nat.le_refl k)]
  exact if_neg (Nat.lt_irrefl k)

theorem unwrap_level {level : Nat} (h : level ≤ k) :
    (deepAccess k).tree.unwrap (13 + level) = some (13 + level) := by
  refine CompilationUnit.unwrap_eq_self ?_
  rw [SyntaxTree.type, node_level h]
  unfold levelNode
  dsimp only
  split <;> decide

theorem object_level {level : Nat} (h : level < k) :
    (deepAccess k).tree.field? (13 + level) "object" = some (13 + (level + 1)) := by
  have hnode : (deepAccess k).tree.node (13 + level + 1) = levelNode k (level + 1) := node_level h
  refine field?_of_offset (d := 1) (by decide) ?_ ?_ fun r hr hpos => by omega
  · rw [hnode]
    show some (12 + (level + 1)) = some (13 + level)
    rw [Nat.add_comm level 1, ← Nat.add_assoc]
  · rw [hnode]
    rfl

/-- Every access has a member, which is the second of its two nodes behind the objects. -/
theorem member_level {level : Nat} (h : level < k) :
    ∃ member, (deepAccess k).tree.fieldText? (13 + level) "field" = some member := by
  have hplace : 2 * (k - 1 - level) + 1 < 2 * k := by omega
  have hnode := node_member hplace
  have hfield : (deepAccess k).tree.field? (13 + level) "field" =
      some (14 + k + (2 * (k - 1 - level) + 1)) := by
    refine find?_children_of_first ?_ (by omega) ?_ fun m hm hmc hparent => ?_
    · rw [hnode]
      show some (12 + k - (2 * (k - 1 - level) + 1) / 2) = some (13 + level)
      congr 1
      omega
    · rw [hnode, memberNode]
      simp
    · -- nodes in front of it that belong to the access: the object, and the dot
      rw [node_deepAccess (by omega), deepAccessNode] at hparent ⊢
      rw [if_neg (by omega)] at hparent ⊢
      split at hparent
      · next hm =>
        rw [if_pos hm, levelNode]
        dsimp only
        split <;> rfl
      · next hnot =>
        rw [if_neg hnot, if_pos (by omega)] at *
        have hplace : 12 + k - (m - (14 + k)) / 2 = 13 + level := Option.some.inj hparent
        have heven : (m - (14 + k)) % 2 = 0 := by omega
        rw [memberNode]
        dsimp only
        rw [if_pos heven]
        rfl
  exact ⟨_, by rw [fieldText?, hfield, Option.map_some]⟩

/-- A reference gives up if its object does. -/
theorem askReference_of_object {u : CompilationUnit} {n object target : NodeId} {member : String}
    {room : Nat} {fault : RuleFault} (hn : u.tree.unwrap n = some n)
    (htype : u.tree.type n = "field_access") (hobject : u.tree.field? n "object" = some object)
    (hmember : u.tree.fieldText? n "field" = some member) (htarget : u.tree.unwrap object = some target)
    (hreference : u.tree.isA target referenceTypes = true)
    (h : (Asking.nested 1 (u.askReference target)) room = .failed fault) :
    u.askReference n room = .failed fault := by
  have hname : u.tree.type target ≠ "this" ∧ u.tree.type target ≠ "super" := by
    have hmem : u.tree.type target ∈ referenceTypes := List.contains_iff_mem.1 hreference
    simp only [referenceTypes, List.mem_cons, List.not_mem_nil, or_false] at hmem
    rcases hmem with h | h <;> rw [h] <;> decide
  fun_cases CompilationUnit.askReference u n with
  | case7 e he _ _ object' member' ho hm target' ht _ _ href =>
    obtain rfl : n = e := Option.some.inj (hn.symm.trans he)
    obtain rfl : object = object' := Option.some.inj (hobject.symm.trans ho)
    obtain rfl : target = target' := Option.some.inj (htarget.symm.trans ht)
    show Inquiry.bind ((Asking.nested 1 (u.askReference target)) room) _ = _
    rw [h]
    rfl
  | _ => grind

theorem isReference_level {level : Nat} (h : level ≤ k) :
    (deepAccess k).tree.isA (13 + level) referenceTypes = true := by
  rw [isA, SyntaxTree.type, node_level h]
  unfold levelNode
  dsimp only
  split <;> rfl

/-- With less room than accesses the rule does not find out what the argument refers to. -/
theorem askReference_level {level room : Nat} (h : level ≤ k) (hroom : room < k - level + 2) :
    (deepAccess k).askReference (13 + level) room = .failed .stackExhausted := by
  induction hd : k - level generalizing level room with
  | zero =>
    obtain rfl : level = k := by omega
    have hself := unwrap_level h
    have hname := type_name level
    have hlookup : (deepAccess level).askReference (13 + level) =
        Asking.lookup (deepAccess level) ((deepAccess level).tree.text (13 + level)) (13 + level) := by
      grind [CompilationUnit.askReference]
    rw [hlookup]
    exact if_neg (by omega)
  | succ d ih =>
    have hlt : level < k := by omega
    -- the question about the object takes one call and has one access less
    obtain ⟨member, hmember⟩ := member_level hlt
    refine askReference_of_object (unwrap_level h) (type_level hlt) (object_level hlt) hmember
      (unwrap_level hlt) (isReference_level hlt) ?_
    unfold Asking.nested
    split
    · exact ih hlt (by omega) (by omega)
    · rfl

/-! ## The rule -/

/-- What the argument refers to is unknown, so it does not count as constant. -/
theorem isConstantChoice_argument (hk : 0 < k) : (deepAccess k).isConstantChoice 13 = false := by
  have hself : (deepAccess k).tree.unwrap 13 = some 13 := unwrap_level (Nat.zero_le k)
  have htype : (deepAccess k).tree.type 13 = "field_access" := type_level hk
  have hreference : (deepAccess k).reference? 13 = none := by
    obtain ⟨member, hmember⟩ := member_level hk
    rw [CompilationUnit.reference?_of_access hself htype (object_level hk) (unwrap_level hk) hmember]
    simp only [fieldOf_deepAccess, CompilationUnit.fieldOfThis, Option.bind_fun_none, ite_self]
  unfold CompilationUnit.isConstantChoice classifierDepth
  rw [CompilationUnit.isConstantWithin, hself]
  dsimp only
  rw [isA, isA, htype, if_neg (by decide), if_pos (by decide), hreference]
  rfl

/-- The argument is no constant, so that the rule is meant to fire. -/
theorem fires_meant (hk : 0 < k) : FirstArgument.fires (deepAccess k) pathSinks 2 = true := by
  rw [FirstArgument.fires, arguments_creation]
  dsimp only
  rw [(isSink_creation k).1, isConstantChoice_argument hk]
  rfl

/-- To tell whether the argument is constant takes one nested question for each access, and the room is used up
before. -/
theorem askConstantChoice_argument (hk : callDepth ≤ k + 2) :
    (deepAccess k).askConstantChoice 13 callDepth = .failed .stackExhausted := by
  have hpos : 0 < k := by
    have hdepth : callDepth = 980 := rfl
    omega
  have hself : (deepAccess k).tree.unwrap 13 = some 13 := unwrap_level (Nat.zero_le k)
  have htype : (deepAccess k).tree.type 13 = "field_access" := type_level hpos
  have hnested : (Asking.nested 1 ((deepAccess k).askReference 13)) callDepth = .failed .stackExhausted := by
    refine (if_pos (by decide)).trans (askReference_level (Nat.zero_le k) ?_)
    have hdepth : callDepth - 1 < callDepth := by decide
    omega
  unfold CompilationUnit.askConstantChoice classifierDepth
  rw [CompilationUnit.askConstantWithin, hself]
  dsimp only
  rw [isA, isA, htype, if_neg (by decide), if_pos (by decide)]
  show Inquiry.bind ((Asking.nested 1 ((deepAccess k).askReference 13)) callDepth) _ = _
  rw [hnested]
  rfl

/-- With that many accesses the rule gives up. -/
theorem fires_exhausted (hk : callDepth ≤ k + 2) :
    pathTraversal.fires (deepAccess k) 2 = .error .stackExhausted := by
  show ((FirstArgument.matching (deepAccess k) pathSinks 2) callDepth).afresh _ = _
  rw [FirstArgument.matching, arguments_creation]
  dsimp only
  rw [(isSink_creation k).2]
  show (Inquiry.bind ((deepAccess k).askConstantChoice 13 callDepth) _).afresh _ = _
  rw [askConstantChoice_argument hk]
  rfl

/-! ## The audit -/

theorem visits_creation (k : Nat) : (deepAccess k).tree.Visits root 2 := by
  have hpart : ∀ n p, n < 13 → p < n → ((creationNodes 0)[n]?.getD .absent).parent = some p →
      ((creationNodes 0)[n]?.getD .absent).named = true →
      commentTypes.contains ((creationNodes 0)[n]?.getD .absent).type = false →
      n ∈ (deepAccess k).tree.parts p := by
    intro n p hn hp hparent hnamed hcomment
    refine mem_parts_of_parent? (parent?_of_parent ?_ hp) ?_ ?_
    · rw [node_creation hn, getD_creationNodes k Node.parent rfl, hparent]
    · rw [isNamed, node_creation hn, getD_creationNodes k Node.named rfl, hnamed]
    · rw [isA, SyntaxTree.type, node_creation hn, getD_creationNodes k Node.type rfl, hcomment]
  have herror : ∀ n < 13, ((creationNodes 0)[n]?.getD .absent).type ≠ "ERROR" := by decide
  have hsound : ∀ n < 13, (deepAccess k).tree.isError n = false := by
    intro n hn
    rw [isError, SyntaxTree.type, node_creation hn, getD_creationNodes k Node.type rfl]
    exact beq_eq_false_iff_ne.2 (herror n hn)
  refine .part (.part (.top (hsound 0 (by decide))) (hpart 1 0 ?_ ?_ rfl rfl rfl) (hsound 1 (by decide)))
    (hpart 2 1 ?_ ?_ rfl rfl rfl) (hsound 2 (by decide))
  all_goals decide

theorem kind?_deepAccess (h : ((deepAccess k).tree.kind? n).any pathTraversal.kinds.contains = true) :
    n = 2 := by
  obtain ⟨kind, hkind, hmem⟩ := (Option.any_eq_true _ _).1 h
  -- the empty type is that of a number that is no node
  have hothers : ∀ type ∈ "" :: otherTypes,
      ¬ (NodeKind.ofType? type).any pathTraversal.kinds.contains = true := by decide
  have hany : (NodeKind.ofType? ((deepAccess k).tree.type n)).any pathTraversal.kinds.contains = true := by
    rw [ofType?_of_kind? hkind]
    exact hmem
  by_cases hn : n < (deepAccess k).tree.size
  · rcases type_deepAccess hn with htwo | htype
    · exact htwo
    · exact absurd hany (hothers _ (List.mem_cons_of_mem _ htype))
  · rw [type_eq_empty_of_size_le (Nat.le_of_not_lt hn)] at hany
    exact absurd hany (hothers "" List.mem_cons_self)

/-- The rule on paths, registered alone. -/
def pathRules : Registry := Registry.empty.add pathTraversal

theorem reachable_pathRules : pathRules.Reachable :=
  .register .empty (Registry.register_eq_ok_iff.2 ⟨by decide, rfl, rfl⟩)

/-- An audit finds nothing in the statement and logs that the rule gave up. -/
theorem audit_deepAccess (hk : callDepth ≤ k + 2) :
    pathTraversal.skipRecord (deepAccess k) 2 ∈ (pathRules.audit (deepAccess k)).log ∧
      (pathRules.audit (deepAccess k)).findings = [] := by
  have hfires := fires_exhausted hk
  have hvisit : (2, pathTraversal) ∈ pathRules.visits (deepAccess k) := by
    refine Registry.mem_visits_iff.2 ⟨visits_creation k, List.mem_cons_self, ?_⟩
    rw [kind?, type_creation]
    rfl
  constructor
  · rw [Registry.log_audit reachable_pathRules, List.mem_filterMap]
    refine ⟨_, hvisit, ?_⟩
    rw [warning?, givesUp, hfires]
    rfl
  · rw [Registry.findings_audit reachable_pathRules, List.filterMap_eq_nil_iff]
    rintro ⟨n, r⟩ hv
    obtain ⟨hrule, hkind⟩ := Registry.of_mem_visits hv
    obtain rfl : r = pathTraversal := List.mem_singleton.1 hrule
    obtain rfl := kind?_deepAccess hkind
    rw [finding?, hfires]

end JavaAudit.Rule
