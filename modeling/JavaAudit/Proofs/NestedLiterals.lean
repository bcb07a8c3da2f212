import Mathlib.Tactic.IntervalCases
import JavaAudit.Proofs.ClassifierDepth
import JavaAudit.Proofs.FieldAccess
import JavaAudit.Proofs.TabulatedTrees
import JavaAudit.Proofs.TypeNaming

/-!
# A constant in many array literals

`nestedLiterals k` is the statement `new ProcessBuilder(new T[]{ … new T[]{"a"} … });`, where the argument is made of
`k` array literals, each of which is the only element of the one around it. The argument is constant, however many
literals there are (`isUnsafeAtAnyDepth_literal`). Classification takes two levels for each, one for the creation and
one for its braces, so that about half as many literals as there are levels use all of them up, and the argument
counts as unsafe (`isUnsafe_argument`).
-/

namespace JavaAudit.Rule.CommandInjection

open SyntaxTree CompilationUnit

/-! ## The statement -/

/-- The nodes in front of the argument. -/
def commandNodes (k : Nat) : List Node :=
  [⟨none, "program", true, false, 0, 24 + 9 * k, none⟩,
    ⟨some 0, "expression_statement", true, false, 0, 24 + 9 * k, none⟩,
    ⟨some 1, "object_creation_expression", true, false, 0, 23 + 9 * k, none⟩,
    ⟨some 2, "new", false, false, 0, 3, none⟩,
    ⟨some 2, "type_identifier", true, false, 4, 18, some "type"⟩,
    ⟨some 2, "argument_list", true, false, 18, 23 + 9 * k, some "arguments"⟩,
    ⟨some 5, "(", false, false, 18, 19, none⟩]

/-- A literal with `level` others around it, up to its first element. It stands in the list of arguments, or in the
braces before. -/
def literalNodes (k level : Nat) : List Node :=
  [⟨some (5 + 8 * level), "array_creation_expression", true, false, 19 + 8 * level, 22 + 9 * k - level, none⟩,
    ⟨some (7 + 8 * level), "new", false, false, 19 + 8 * level, 22 + 8 * level, none⟩,
    ⟨some (7 + 8 * level), "type_identifier", true, false, 23 + 8 * level, 24 + 8 * level, some "type"⟩,
    ⟨some (7 + 8 * level), "dimensions", true, false, 24 + 8 * level, 26 + 8 * level, some "dimensions"⟩,
    ⟨some (10 + 8 * level), "[", false, false, 24 + 8 * level, 25 + 8 * level, none⟩,
    ⟨some (10 + 8 * level), "]", false, false, 25 + 8 * level, 26 + 8 * level, none⟩,
    ⟨some (7 + 8 * level), "array_initializer", true, false, 26 + 8 * level, 22 + 9 * k - level, some "value"⟩,
    ⟨some (13 + 8 * level), "\x7b", false, false, 26 + 8 * level, 27 + 8 * level, none⟩]

/-- The constant in the innermost literal. -/
def constantNodes (k : Nat) : List Node :=
  [⟨some (5 + 8 * k), "string_literal", true, false, 19 + 8 * k, 22 + 8 * k, none⟩,
    ⟨some (7 + 8 * k), "\"", false, false, 19 + 8 * k, 20 + 8 * k, none⟩,
    ⟨some (7 + 8 * k), "string_fragment", true, false, 20 + 8 * k, 21 + 8 * k, none⟩,
    ⟨some (7 + 8 * k), "\"", false, false, 21 + 8 * k, 22 + 8 * k, none⟩]

/-- The braces that close the literals, from the innermost one on. -/
def closingNode (k place : Nat) : Node :=
  ⟨some (5 + 8 * (k - place)), "\x7d", false, false, 22 + 8 * k + place, 23 + 8 * k + place, none⟩

def nestedNode (k n : Nat) : Node :=
  if n < 7 then (commandNodes k)[n]?.getD .absent
  else if n < 7 + 8 * k then (literalNodes k ((n - 7) / 8))[(n - 7) % 8]?.getD .absent
  else if n < 11 + 8 * k then (constantNodes k)[n - (7 + 8 * k)]?.getD .absent
  else if n < 11 + 9 * k then closingNode k (n - (11 + 8 * k))
  else if n = 11 + 9 * k then ⟨some 5, ")", false, false, 22 + 9 * k, 23 + 9 * k, none⟩
  else ⟨some 1, ";", false, false, 23 + 9 * k, 24 + 9 * k, none⟩

def nestedText (k : Nat) : List Char :=
  "new ProcessBuilder(".toList ++ (List.replicate k "new T[]\x7b".toList).flatten ++ "\"a\"".toList ++
    List.replicate k '}' ++ ");".toList

def nestedLiterals (k : Nat) : CompilationUnit :=
  .ofTree "<string>" (.tabulate (String.ofList (nestedText k)) (13 + 9 * k) (nestedNode k))

/-! ## Its nodes -/

variable {k n level : Nat}

theorem size_nestedLiterals (k : Nat) : (nestedLiterals k).tree.size = 13 + 9 * k := size_tabulate

theorem node_nestedLiterals (h : n < 13 + 9 * k) : (nestedLiterals k).tree.node n = nestedNode k n :=
  node_tabulate h

theorem node_command (h : n < 7) :
    (nestedLiterals k).tree.node n = (commandNodes k)[n]?.getD .absent := by
  rw [node_nestedLiterals (by omega), nestedNode, if_pos h]

theorem node_literal {place : Nat} (h : level < k) (hplace : place < 8) :
    (nestedLiterals k).tree.node (7 + 8 * level + place) = (literalNodes k level)[place]?.getD .absent := by
  have hlevel : (7 + 8 * level + place - 7) / 8 = level := by omega
  have hrest : (7 + 8 * level + place - 7) % 8 = place := by omega
  rw [node_nestedLiterals (by omega), nestedNode, if_neg (by omega), if_pos (by omega), hlevel, hrest]

theorem node_constant {place : Nat} (hplace : place < 4) :
    (nestedLiterals k).tree.node (7 + 8 * k + place) = (constantNodes k)[place]?.getD .absent := by
  rw [node_nestedLiterals (by omega), nestedNode, if_neg (by omega), if_neg (by omega), if_pos (by omega),
    Nat.add_sub_cancel_left]

/-- What stands at a place of the statement. -/
inductive Place (k n : Nat) : Node → Prop where
  | command (h : n < 7) : Place k n ((commandNodes k)[n]?.getD .absent)
  | literal {level place : Nat} (h : level < k) (hplace : place < 8) (hn : n = 7 + 8 * level + place) :
      Place k n ((literalNodes k level)[place]?.getD .absent)
  | constant {place : Nat} (hplace : place < 4) (hn : n = 7 + 8 * k + place) :
      Place k n ((constantNodes k)[place]?.getD .absent)
  | closing {place : Nat} (h : place < k) (hn : n = 11 + 8 * k + place) : Place k n (closingNode k place)
  | parenthesis (hn : n = 11 + 9 * k) :
      Place k n ⟨some 5, ")", false, false, 22 + 9 * k, 23 + 9 * k, none⟩
  | semicolon (hn : n = 12 + 9 * k) :
      Place k n ⟨some 1, ";", false, false, 23 + 9 * k, 24 + 9 * k, none⟩

/-- Every node of the statement is in one of six places. -/
theorem place_of_lt (h : n < 13 + 9 * k) : Place k n ((nestedLiterals k).tree.node n) := by
  rw [node_nestedLiterals h, nestedNode]
  split
  · exact .command ‹_›
  split
  · exact .literal (by omega) (Nat.mod_lt _ (by decide)) (by omega)
  split
  · exact .constant (by omega) (by omega)
  split
  · exact .closing (by omega) (by omega)
  split
  · exact .parenthesis ‹_›
  · exact .semicolon (by omega)

/-- The node types other than those of the creation and of the literals. -/
def plainTypes : List String :=
  ["program", "expression_statement", "new", "type_identifier", "argument_list", "(", "dimensions", "[", "]",
    "\x7b", "string_literal", "\"", "string_fragment", "\x7d", ")", ";"]

/-- Only the creation, the literals and their braces have a type of which the rule or the nesting takes notice.
-/
theorem type_nestedLiterals (h : n < (nestedLiterals k).tree.size) :
    n = 2 ∨ (∃ level < k, n = 7 + 8 * level) ∨ (∃ level < k, n = 13 + 8 * level) ∨
      (nestedLiterals k).tree.type n ∈ plainTypes := by
  rw [size_nestedLiterals] at h
  have hcommand : ∀ m < 7, m = 2 ∨ ((commandNodes 0)[m]?.getD .absent).type ∈ plainTypes := by decide
  have hliteral : ∀ place < 8, place = 0 ∨ place = 6 ∨
      ((literalNodes 0 0)[place]?.getD .absent).type ∈ plainTypes := by decide
  have hconstant : ∀ place < 4, ((constantNodes 0)[place]?.getD .absent).type ∈ plainTypes := by decide
  -- the types do not depend on the level, so that the nodes of one level are enough to look at
  have hplace := place_of_lt h
  rw [SyntaxTree.type]
  generalize (nestedLiterals k).tree.node n = node at hplace ⊢
  cases hplace with
  | command hn =>
    rw [getD_congr (commandNodes k) (commandNodes 0) Node.type rfl]
    exact (hcommand n hn).imp_right fun h => .inr (.inr h)
  | @literal level place hlevel hplace hn =>
    rw [getD_congr (literalNodes k level) (literalNodes 0 0) Node.type rfl]
    rcases hliteral place hplace with rfl | rfl | h
    · exact .inr (.inl ⟨level, hlevel, hn⟩)
    · exact .inr (.inr (.inl ⟨level, hlevel, by omega⟩))
    · exact .inr (.inr (.inr h))
  | constant hplace hn =>
    rw [getD_congr (constantNodes k) (constantNodes 0) Node.type rfl]
    exact .inr (.inr (.inr (hconstant _ hplace)))
  | closing => exact .inr (.inr (.inr (by decide : "\x7d" ∈ plainTypes)))
  | parenthesis => exact .inr (.inr (.inr (by decide : ")" ∈ plainTypes)))
  | semicolon => exact .inr (.inr (.inr (by decide : ";" ∈ plainTypes)))

theorem type_command (k : Nat) : (nestedLiterals k).tree.type 2 = "object_creation_expression" :=
  congrArg Node.type (node_command (by decide))

theorem type_literal (h : level < k) :
    (nestedLiterals k).tree.type (7 + 8 * level) = "array_creation_expression" :=
  congrArg Node.type (node_literal h (by decide : 0 < 8))

theorem type_braces (h : level < k) : (nestedLiterals k).tree.type (13 + 8 * level) = "array_initializer" := by
  have hnode := node_literal h (by decide : 6 < 8)
  rw [Nat.add_right_comm] at hnode
  exact congrArg Node.type hnode

theorem type_constant (k : Nat) : (nestedLiterals k).tree.type (7 + 8 * k) = "string_literal" :=
  congrArg Node.type (node_constant (by decide : 0 < 4))

def allTypes : List String :=
  "" :: "object_creation_expression" :: "array_creation_expression" :: "array_initializer" :: plainTypes

theorem type_mem_allTypes (k n : Nat) : (nestedLiterals k).tree.type n ∈ allTypes := by
  by_cases hn : n < (nestedLiterals k).tree.size
  · rcases type_nestedLiterals hn with rfl | ⟨level, hlevel, rfl⟩ | ⟨level, hlevel, rfl⟩ | htype
    · rw [type_command]
      decide
    · rw [type_literal hlevel]
      decide
    · rw [type_braces hlevel]
      decide
    · simp only [allTypes, List.mem_cons, htype, or_true]
  · rw [type_eq_empty_of_size_le (Nat.le_of_not_lt hn)]
    exact List.mem_cons_self

theorem value_literal (h : level < k) :
    (nestedLiterals k).tree.field? (7 + 8 * level) "value" = some (13 + 8 * level) := by
  have hnode : ∀ r : Nat, r ≤ 6 → (nestedLiterals k).tree.node (7 + 8 * level + r) =
      (literalNodes k level)[0 + r]?.getD .absent := by
    intro r hr
    rw [Nat.zero_add]
    exact node_literal h (by omega)
  have hfield : (nestedLiterals k).tree.field? (7 + 8 * level) "value" = some (7 + 8 * level + 6) :=
    field?_of_table (literalNodes k level) (literalNodes 0 0) 0 rfl (by decide) hnode rfl rfl (by decide)
  rw [hfield, Nat.add_right_comm]

/-- The list of arguments and the braces of each literal hold one expression. -/
theorem parts_holder (h : level ≤ k) : (nestedLiterals k).tree.parts (5 + 8 * level) = [7 + 8 * level] := by
  have hself : ((nestedLiterals k).tree.node (7 + 8 * level)).parent = some (5 + 8 * level) ∧
      (nestedLiterals k).tree.isNamed (7 + 8 * level) = true ∧
      (nestedLiterals k).tree.isA (7 + 8 * level) commentTypes = false := by
    rw [isNamed, isA, SyntaxTree.type]
    rcases Nat.lt_or_eq_of_le h with hlt | rfl
    · have hnode : (nestedLiterals k).tree.node (7 + 8 * level) = _ := node_literal hlt (by decide : 0 < 8)
      rw [hnode]
      exact ⟨rfl, rfl, rfl⟩
    · have hnode : (nestedLiterals level).tree.node (7 + 8 * level) = _ := node_constant (by decide : 0 < 4)
      rw [hnode]
      exact ⟨rfl, rfl, rfl⟩
  refine parts_eq_singleton hself.1 (by omega) hself.2.1 hself.2.2 fun m hm hparent hnamed => ?_
  rw [size_nestedLiterals] at hm
  have hplace := place_of_lt hm
  rw [isNamed] at hnamed
  generalize (nestedLiterals k).tree.node m = node at hplace hparent hnamed
  cases hplace with
  | command hn =>
    -- the root has no parent, and all other parents come before the list of arguments
    have hbefore : ∀ m < 7, ∀ p : Nat, ((commandNodes 0)[m]?.getD .absent).parent = some p →
        ((commandNodes 0)[m]?.getD .absent).named = true → p < 5 := by decide
    rw [getD_congr (commandNodes k) (commandNodes 0) Node.parent rfl] at hparent
    rw [getD_congr (commandNodes k) (commandNodes 0) Node.named rfl] at hnamed
    have hlt := hbefore m hn _ hparent hnamed
    omega
  | @literal _ place _ hplace hn =>
    have hholder : ∀ p : Nat, ((literalNodes k _)[place]?.getD .absent).parent = some p →
        p = 5 + 8 * level := fun p hp => Option.some.inj (hp.symm.trans hparent)
    interval_cases place <;> first | (have heq := hholder _ rfl; omega) | cases hnamed
  | @constant place hplace hn =>
    have hholder : ∀ p : Nat, ((constantNodes k)[place]?.getD .absent).parent = some p →
        p = 5 + 8 * level := fun p hp => Option.some.inj (hp.symm.trans hparent)
    interval_cases place <;> (have heq := hholder _ rfl; omega)
  | closing | parenthesis | semicolon => cases hnamed

/-! ## Classifying the argument -/

theorem unwrap_literal (h : level < k) :
    (nestedLiterals k).tree.unwrap (7 + 8 * level) = some (7 + 8 * level) :=
  unwrap_eq_self (by rw [type_literal h]; decide)

theorem unwrap_braces (h : level < k) :
    (nestedLiterals k).tree.unwrap (13 + 8 * level) = some (13 + 8 * level) :=
  unwrap_eq_self (by rw [type_braces h]; decide)

theorem isConcatenation_eq_false {u : CompilationUnit} (hn : u.tree.unwrap n = some n)
    (h : u.tree.type n ≠ "binary_expression") : u.tree.isConcatenation n = false := by
  rw [isConcatenation, hn]
  simp [h]

/-- A step over a literal goes on to its braces. -/
theorem isUnsafeBy_literal (answer : NodeId → Bool) (h : level < k) :
    isUnsafeBy (nestedLiterals k) answer (7 + 8 * level) = answer (13 + 8 * level) := by
  have hself := unwrap_literal h
  have htype := type_literal h
  rw [isUnsafeBy, hself]
  dsimp only
  rw [isConcatenation_eq_false hself (by rw [htype]; decide), isA, htype, value_literal h]
  rfl

/-- A step over the braces goes on to what is in them. -/
theorem isUnsafeBy_braces (answer : NodeId → Bool) (h : level < k) :
    isUnsafeBy (nestedLiterals k) answer (13 + 8 * level) = answer (7 + 8 * (level + 1)) := by
  have hself := unwrap_braces h
  have htype := type_braces h
  have hparts : (nestedLiterals k).tree.parts (13 + 8 * level) = [7 + 8 * (level + 1)] := by
    have hholder : 13 + 8 * level = 5 + 8 * (level + 1) := by omega
    rw [hholder, parts_holder h]
  rw [isUnsafeBy, hself]
  dsimp only
  rw [isConcatenation_eq_false hself (by rw [htype]; decide), isA, htype, hparts]
  exact Bool.or_false _

/-- The constant is safe, whatever is answered about other nodes. -/
theorem isUnsafeBy_constant (answer : NodeId → Bool) :
    isUnsafeBy (nestedLiterals k) answer (7 + 8 * k) = false := by
  have htype := type_constant k
  have hself : (nestedLiterals k).tree.unwrap (7 + 8 * k) = some (7 + 8 * k) :=
    unwrap_eq_self (by rw [htype]; decide)
  rw [isUnsafeBy, hself]
  dsimp only
  rw [isConcatenation_eq_false hself (by rw [htype]; decide), isA, buildsCollection, htype]
  rfl

/-- Without a bound the constant is reached. -/
theorem isUnsafeAtAnyDepth_literal (h : level ≤ k) :
    isUnsafeAtAnyDepth (nestedLiterals k) (7 + 8 * level) = false := by
  induction hd : k - level generalizing level with
  | zero =>
    obtain rfl : level = k := by omega
    exact (Classifier.atAnyDepth_eq _ _).trans (isUnsafeBy_constant _)
  | succ d ih =>
    have hlt : level < k := by omega
    calc isUnsafeAtAnyDepth (nestedLiterals k) (7 + 8 * level)
        = isUnsafeAtAnyDepth (nestedLiterals k) (13 + 8 * level) :=
          (Classifier.atAnyDepth_eq _ _).trans (isUnsafeBy_literal _ hlt)
      _ = isUnsafeAtAnyDepth (nestedLiterals k) (7 + 8 * (level + 1)) :=
          (Classifier.atAnyDepth_eq _ _).trans (isUnsafeBy_braces _ hlt)
      _ = false := ih hlt (by omega)

/-- Two levels for each literal that is left are not enough to reach it. -/
theorem isUnsafeWithin_literal {depth : Nat} (h : level < k) (hdepth : depth ≤ 2 * (k - level)) :
    isUnsafeWithin (nestedLiterals k) depth (7 + 8 * level) = true := by
  induction depth using Nat.twoStepInduction generalizing level with
  | zero =>
    rw [isUnsafeWithin, unwrap_literal h]
    rfl
  | one =>
    rw [isUnsafeWithin_eq_within]
    refine (isUnsafeBy_literal _ h).trans ?_
    show ((nestedLiterals k).tree.unwrap (13 + 8 * level)).isSome = true
    rw [unwrap_braces h]
    rfl
  | more depth ih _ =>
    have hstep : isUnsafeWithin (nestedLiterals k) (depth + 2) (7 + 8 * level) =
        isUnsafeWithin (nestedLiterals k) depth (7 + 8 * (level + 1)) := by
      rw [isUnsafeWithin_eq_within, isUnsafeWithin_eq_within]
      exact (isUnsafeBy_literal _ h).trans (isUnsafeBy_braces _ h)
    rw [hstep]
    by_cases hlast : level + 1 < k
    · exact ih hlast (by omega)
    · -- the constant itself is all that is left, and there is no level for it
      obtain rfl : depth = 0 := by omega
      obtain rfl : level + 1 = k := by omega
      rw [isUnsafeWithin, unwrap_eq_self (by rw [type_constant]; decide)]
      rfl

/-- At the bound the argument counts as unsafe, although the constant in it is safe. -/
theorem isUnsafe_argument (h : classifierDepth ≤ 2 * k) : isUnsafe (nestedLiterals k) 7 = true := by
  have hpos : 0 < k := by
    have hdepth : classifierDepth = 201 := rfl
    omega
  have houter : isUnsafeWithin (nestedLiterals k) classifierDepth (7 + 8 * 0) = true :=
    isUnsafeWithin_literal hpos h
  exact houter

/-! ## How deep it nests -/

theorem isLiteralBody_braces (h : level < k) : (nestedLiterals k).tree.isLiteralBody (13 + 8 * level) = true := by
  have hparent := parent?_of_field? (value_literal h)
  rw [isLiteralBody, type_braces h, hparent]
  simp [type_literal h]

theorem takesLevel_eq_false {u : CompilationUnit} (hkind : NodeKind.ofType? (u.tree.type n) ≠ some .conditional)
    (hliteral : NodeKind.ofType? (u.tree.type n) ≠ some .arrayLiteral)
    (hcall : u.tree.type n ≠ "method_invocation") : u.takesLevel n = false := by
  have hnone : ∀ kind, NodeKind.ofType? (u.tree.type n) ≠ some kind → u.tree.kind? n ≠ some kind :=
    fun kind hne hkind => hne (ofType?_of_kind? hkind)
  simp [takesLevel, hnone _ hkind, hnone _ hliteral, buildsCollection, hcall]

/-- Nothing but the literals nests, and the braces of each belong to it. -/
theorem exists_of_nests (h : (nestedLiterals k).nests n = true) : ∃ level < k, n = 7 + 8 * level := by
  obtain ⟨htakes, hbody⟩ := Bool.and_eq_true_iff.1 h
  have hothers : ∀ type ∈ "" :: "object_creation_expression" :: plainTypes,
      NodeKind.ofType? type ≠ some .conditional ∧ NodeKind.ofType? type ≠ some .arrayLiteral ∧
        type ≠ "method_invocation" := by decide
  have hplain : (nestedLiterals k).tree.type n ∉ "" :: "object_creation_expression" :: plainTypes := by
    intro htype
    obtain ⟨hconditional, hliteral, hcall⟩ := hothers _ htype
    rw [takesLevel_eq_false hconditional hliteral hcall] at htakes
    cases htakes
  have hsize : n < (nestedLiterals k).tree.size :=
    lt_size_of_type_ne fun hempty => hplain (hempty ▸ List.mem_cons_self)
  -- the braces take a level as the literals do, but are the body of one
  rcases type_nestedLiterals hsize with rfl | hlevel | ⟨level, hlevel, rfl⟩ | htype
  · refine absurd ?_ hplain
    rw [type_command]
    decide
  · exact hlevel
  · rw [isLiteralBody_braces hlevel] at hbody
    cases hbody
  · exact absurd (List.mem_cons_of_mem _ (List.mem_cons_of_mem _ htype)) hplain

/-- As many literals are on a way down as come later in the statement. -/
theorem nesting_argument (k : Nat) : (nestedLiterals k).nesting 7 ≤ k := by
  have hcount : ∀ n c : Nat, n < c → ((nestedLiterals k).nests n).toNat + (k - c / 8) ≤ k - n / 8 := by
    intro n c hlt
    cases hn : (nestedLiterals k).nests n with
    | false =>
      rw [Bool.toNat_false]
      omega
    | true =>
      obtain ⟨level, hlevel, rfl⟩ := exists_of_nests hn
      rw [Bool.toNat_true]
      omega
  have hself : ∀ n, ((nestedLiterals k).nests n).toNat ≤ k - n / 8 := fun n =>
    Nat.le_trans (Nat.le_add_right _ _) (hcount n (n + 1) (Nat.lt_succ_self n))
  exact depthOf_le_of_potential hself (fun n c hc => hcount n c (lt_of_mem_children hc).1) 7

/-! ## The rule -/

/-- A child of the creation is found by its role in the table of the first nodes, for every number of literals.
-/
theorem field?_command {role : String} {d : Nat} (hd : 0 < d ∧ d < 5)
    (hparent : ((commandNodes k)[2 + d]?.getD .absent).parent = some 2)
    (hrole : ((commandNodes 0)[2 + d]?.getD .absent).field = some role)
    (hfirst : ∀ r < d, 0 < r → ((commandNodes 0)[2 + r]?.getD .absent).field ≠ some role) :
    (nestedLiterals k).tree.field? 2 role = some (2 + d) :=
  field?_of_table (commandNodes k) (commandNodes 0) 2 rfl hd.1 (fun r hr => node_command (by omega)) hparent
    hrole hfirst

theorem arguments_command (k : Nat) : (nestedLiterals k).tree.arguments 2 = [7] := by
  have hlist : (nestedLiterals k).tree.field? 2 "arguments" = some 5 :=
    field?_command (d := 3) (by decide) rfl rfl (by decide)
  rw [arguments, hlist]
  exact parts_holder (Nat.zero_le k)

/-- The statement stands alone, without a type, a package or an import. -/
theorem declaresNothing (k n : Nat) : (nestedLiterals k).tree.isA n typeDeclarationTypes = false ∧
    (nestedLiterals k).tree.type n ∉ ["package_declaration", "import_declaration"] := by
  have hall : ∀ type ∈ allTypes, typeDeclarationTypes.contains type = false ∧
      type ∉ ["package_declaration", "import_declaration"] := by decide
  exact hall _ (type_mem_allTypes k n)

theorem types_nestedLiterals (k : Nat) : (nestedLiterals k).types = .empty :=
  types_eq_empty fun n _ => (declaresNothing k n).1

theorem qualify_command (k : Nat) :
    (nestedLiterals k).qualify "ProcessBuilder" = some "java.lang.ProcessBuilder" := by
  rw [qualify_of_isIdentifier (by decide) (by decide) (by decide), qualifySimple, types_nestedLiterals,
    header_eq_empty fun n _ => (declaresNothing k n).2]
  decide

/-- The creation runs a command. -/
theorem isSink_command (k : Nat) : (nestedLiterals k).isSink sinks 2 = true := by
  have htype : (nestedLiterals k).tree.field? 2 "type" = some 4 :=
    field?_command (d := 2) (by decide) rfl rfl (by decide)
  have htext : (nestedLiterals k).tree.text 4 = "ProcessBuilder" := by
    -- the name is in front of everything that depends on the number of literals
    have hsource : (nestedLiterals k).tree.source = String.ofList ("new ".toList ++ "ProcessBuilder".toList ++
        ("(".toList ++ (List.replicate k "new T[]\x7b".toList).flatten ++ "\"a\"".toList ++
          List.replicate k '}' ++ ");".toList)) := rfl
    refine text_of_source hsource ?_ ?_
    · rw [SyntaxTree.start, node_command (by decide)]
      rfl
    · rw [SyntaxTree.stop, node_command (by decide)]
      rfl
  have hself : (nestedLiterals k).tree.unwrap 2 = some 2 := unwrap_eq_self (by rw [type_command]; decide)
  have htarget : (nestedLiterals k).callTarget 2 =
      some ⟨"java.lang.ProcessBuilder", CallTarget.constructorName⟩ := by
    show (nestedLiterals k).callTargetWithin (32 + 1) 2 = _
    rw [callTargetWithin, hself, Option.bind_some, if_pos (type_command k), fieldText?, htype,
      Option.map_some, htext, Option.bind_some, qualify_command]
    rfl
  rw [isSink, sinkTarget, htarget]
  rfl

/-- However deep the literals nest, there is room for every rule. -/
theorem fits_nestedLiterals (k : Nat) : (nestedLiterals k).Fits := by
  have hall : ∀ type ∈ allTypes, type ≠ "field_access" := by decide
  refine fits_of_no_access (fun n => hall _ (type_mem_allTypes k n)) ?_
  show (Table.keys (nestedLiterals k).types.declarations).length ≤ 150
  rw [types_nestedLiterals]
  decide

/-- The rule fires though the command is constant, from 101 literals on. -/
theorem fires_nestedLiterals (h : classifierDepth ≤ 2 * k) :
    commandInjection.fires (nestedLiterals k) 2 = .ok true ∧
      (commandInjection.answering firesAtAnyDepth).fires (nestedLiterals k) 2 = .ok false := by
  constructor
  · rw [(means (nestedLiterals k) 2).fires_of_fits (fits_nestedLiterals k), fires, arguments_command,
      isSink_command]
    simp [isUnsafe_argument h]
  · show Except.ok (firesAtAnyDepth (nestedLiterals k) 2) = _
    rw [firesAtAnyDepth, arguments_command]
    have hsafe : isUnsafeAtAnyDepth (nestedLiterals k) 7 = false := isUnsafeAtAnyDepth_literal (Nat.zero_le k)
    simp [hsafe]

/-- A constant in 101 array literals is taken for unsafe, though they nest less than 200 deep. -/
theorem constant_in_literals_counts_as_unsafe :
    let u := nestedLiterals 101
    u.Fits ∧ u.nesting 7 ≤ 101 ∧ isUnsafe u 7 = true ∧ isUnsafeAtAnyDepth u 7 = false ∧
      commandInjection.fires u 2 = .ok true ∧
      (commandInjection.answering firesAtAnyDepth).fires u 2 = .ok false := by
  intro u
  have hdepth : classifierDepth ≤ 2 * 101 := by decide
  exact ⟨fits_nestedLiterals 101, nesting_argument 101, isUnsafe_argument hdepth,
    isUnsafeAtAnyDepth_literal (Nat.zero_le 101), fires_nestedLiterals hdepth⟩

end JavaAudit.Rule.CommandInjection
