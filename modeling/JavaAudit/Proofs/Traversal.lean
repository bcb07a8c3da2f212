import Mathlib.Data.List.Basic
import JavaAudit.Proofs.Dispatch
import JavaAudit.Proofs.Preorder
import JavaAudit.Proofs.Recalling

/-!
# An audit, visit by visit

An audit keeps a list of pending nodes and a table of rules by kind. What it yields is what going
through the visits one by one yields: every node of the pre-order is shown to the registered rules that
ask for its kind, in the order of registration (`visits`), and each visit adds at most one finding or
one warning of its own (`findings_audit`, `log_audit`). So a visit that fails takes nothing away from the
others.
-/

namespace JavaAudit

/-! ## Results one after another -/

namespace Audit

theorem concat_eq (results : List Audit) :
    concat results = ⟨results.flatMap (·.findings), results.flatMap (·.log)⟩ := by
  induction results with
  | nil => rfl
  | cons first rest ih =>
    show append first (concat rest) = _
    rw [ih]
    rfl

theorem concat_append (first second : List Audit) :
    concat (first ++ second) = concat first ++ concat second := by
  rw [concat_eq, concat_eq, concat_eq, List.flatMap_append, List.flatMap_append]
  rfl

end Audit

/-! ## One visit -/

/-- The kind of a node is that of its type. -/
theorem SyntaxTree.ofType?_of_kind? {t : SyntaxTree} {n : NodeId} {kind : NodeKind}
    (h : t.kind? n = some kind) : NodeKind.ofType? (t.type n) = some kind := by
  unfold kind? at h
  split at h
  · cases h
  · exact h

namespace Rule

variable (r : Rule) (u : CompilationUnit) (n : NodeId)

/-- The finding of a rule at a node. There is one if the rule fires there and can say why. -/
def finding? : Option Finding :=
  match r.fires u n, r.describe u n with
  | .ok true, .ok message => some (Finding.ofMatch r u n message)
  | _, _ => none

/-- Does the rule give up on a node, over the question whether it fires or over the words for it? -/
def givesUp : Bool :=
  match r.fires u n, r.describe u n with
  | .error _, _ => true
  | .ok true, .error _ => true
  | _, _ => false

/-- What is logged when the rule gives up on a node. -/
def skipRecord : LogRecord where
  level := .warning
  message :=
    "Rule " ++ r.id ++ " failed on " ++ u.path ++ ":" ++ toString (u.tree.line n) ++ "; skipping"
  rule := some r.id

/-- The warning of a rule at a node. There is one if the rule gives up. -/
def warning? : Option LogRecord := if r.givesUp u n then some (r.skipRecord u n) else none

/-- A rule has something to say about a node if it fires there: the message for the node. -/
theorem verdict_eq :
    r.verdict u n = do if ← r.fires u n then return some (← r.describe u n) else return none := by
  have hbind := Inquiry.afresh_bind u (r.matching u n callDepth) fun fired =>
    (if fired then do return some (← r.phrase u n) else return none : Asking (Option String)) callDepth
  refine hbind.trans ?_
  unfold fires
  congr 1
  funext fired
  cases fired with
  | false => rfl
  | true => exact Inquiry.afresh_bind u (r.phrase u n callDepth) fun message => pure (some message)

/-- A visit adds at most one finding and at most one record. -/
theorem audit_eq : r.audit u n = ⟨(r.finding? u n).toList, (r.warning? u n).toList⟩ := by
  unfold audit finding? warning? givesUp
  rw [verdict_eq]
  cases hfires : r.fires u n with
  | error fault => rfl
  | ok fired =>
    cases fired with
    | false => rfl
    | true =>
      cases hdescribe : r.describe u n with
      | error fault => rfl
      | ok message => rfl

variable {r u n}

/-- A rule has a finding at a node exactly if it fires there and has a message. -/
theorem finding?_eq_some_iff {f : Finding} :
    r.finding? u n = some f ↔
      r.fires u n = .ok true ∧ ∃ message, r.describe u n = .ok message ∧
        Finding.ofMatch r u n message = f := by
  unfold finding?
  cases r.fires u n with
  | error fault => simp
  | ok fired => cases fired <;> cases r.describe u n <;> simp

/-- A rule that gives up on a node has nothing to report there. -/
theorem finding?_eq_none_of_givesUp (h : r.givesUp u n = true) : r.finding? u n = none := by
  unfold givesUp at h
  unfold finding?
  split at h
  · next hfires => rw [hfires]
  · next hfires hdescribe => rw [hfires, hdescribe]
  · cases h

end Rule

/-! ## All visits -/

namespace Registry

variable {reg : Registry} {u : CompilationUnit}

/-- Every visited node with each of the registered rules that ask for its kind. -/
def visits (reg : Registry) (u : CompilationUnit) : List (NodeId × Rule) :=
  (u.tree.preorder SyntaxTree.root).flatMap fun n =>
    (reg.rules.filter fun r => (u.tree.kind? n).any r.kinds.contains).map fun r => (n, r)

/-- A rule is shown a node if the walk comes past it and its kind is one of the rule's. -/
theorem mem_visits_iff {n : Nat} {r : Rule} :
    (n, r) ∈ reg.visits u ↔ u.tree.Visits SyntaxTree.root n ∧ r ∈ reg.rules ∧
      (u.tree.kind? n).any r.kinds.contains = true := by
  unfold visits
  simp only [List.mem_flatMap, List.mem_map, List.mem_filter, Prod.mk.injEq,
    SyntaxTree.mem_preorder_iff]
  constructor
  · rintro ⟨m, hm, q, ⟨hq, hkind⟩, rfl, rfl⟩
    exact ⟨hm, hq, hkind⟩
  · rintro ⟨hn, hr, hkind⟩
    exact ⟨n, hn, r, ⟨hr, hkind⟩, rfl, rfl⟩

/-- Working off the pending nodes visits their pre-orders one after another. -/
theorem auditFrom_eq (pending : List NodeId) :
    reg.auditFrom u pending = .concat ((pending.flatMap u.tree.preorder).map (reg.auditNode u)) := by
  fun_induction auditFrom reg u pending with
  | case1 => rfl
  | case2 n rest herr ih =>
    rw [ih, List.flatMap_cons, SyntaxTree.preorder_of_isError herr]
    rfl
  | case3 n rest herr ih =>
    -- the parts go in front of the pending nodes, so what is below the node is visited before them
    have hn : u.tree.isError n = false := Bool.eq_false_iff.2 herr
    rw [ih, List.flatMap_cons, SyntaxTree.preorder_of_not_isError hn, List.flatMap_append]
    rfl

/-- The rules for a node are asked in the order of their registration. -/
theorem auditNode_eq (h : reg.Reachable) (n : NodeId) :
    reg.auditNode u n =
      .concat ((reg.rules.filter fun r => (u.tree.kind? n).any r.kinds.contains).map
        fun r => r.audit u n) := by
  rw [auditNode, h.rulesFor_eq]

/-- An audit is the results of its visits one after another. -/
theorem audit_eq_concat (h : reg.Reachable) (u : CompilationUnit) :
    reg.audit u = .concat ((reg.visits u).map fun v => v.2.audit u v.1) := by
  rw [audit, auditFrom_eq, List.flatMap_cons, List.flatMap_nil, List.append_nil, visits]
  generalize u.tree.preorder SyntaxTree.root = nodes
  induction nodes with
  | nil => rfl
  | cons n rest ih =>
    rw [List.map_cons, List.flatMap_cons, List.map_append, Audit.concat_append, ← ih, List.map_map,
      auditNode_eq h]
    rfl

/-- The findings of an audit are those of its visits, in their order. -/
theorem findings_audit (h : reg.Reachable) (u : CompilationUnit) :
    (reg.audit u).findings = (reg.visits u).filterMap fun v => v.2.finding? u v.1 := by
  rw [audit_eq_concat h, Audit.concat_eq, List.flatMap_map]
  simp only [Rule.audit_eq]
  exact (List.filterMap_eq_flatMap_toList _ _).symm

theorem log_audit (h : reg.Reachable) (u : CompilationUnit) :
    (reg.audit u).log = (reg.visits u).filterMap fun v => v.2.warning? u v.1 := by
  rw [audit_eq_concat h, Audit.concat_eq, List.flatMap_map, List.flatMap_map]
  simp only [Rule.audit_eq]
  exact (List.filterMap_eq_flatMap_toList _ _).symm

/-- An audit visits every node that a chain of parts leads to from the root, each once, and shows it to
the rules that ask for its kind. A visit has a finding exactly if the rule fires and has a message.
Every finding and every warning of the audit belongs to one such visit, in that order. A visit in which
the rule gives up adds one warning, which names the rule and the line, and leaves the findings and the
warnings of all other visits as they are. All this is the same if the rules share the answers of their lookups,
where the nodes of the unit have different keys. -/
theorem audit_eq_visits (h : reg.Reachable) (u : CompilationUnit) :
    (∀ n, n ∈ u.tree.preorder SyntaxTree.root ↔ u.tree.Visits SyntaxTree.root n) ∧
      (u.tree.preorder SyntaxTree.root).Nodup ∧
      (∀ n r f, r.finding? u n = some f ↔
        r.fires u n = .ok true ∧ ∃ message, r.describe u n = .ok message ∧
          Finding.ofMatch r u n message = f) ∧
      (reg.audit u).findings = (reg.visits u).filterMap (fun v => v.2.finding? u v.1) ∧
      (reg.audit u).log = (reg.visits u).filterMap (fun v => v.2.warning? u v.1) ∧
      (∀ before after n r, reg.visits u = before ++ (n, r) :: after → r.givesUp u n = true →
        (reg.audit u).findings = (before ++ after).filterMap (fun v => v.2.finding? u v.1) ∧
          (reg.audit u).log =
            before.filterMap (fun v => v.2.warning? u v.1) ++
              ⟨.warning, "Rule " ++ r.id ++ " failed on " ++ u.path ++ ":" ++
                toString (u.tree.line n) ++ "; skipping", some r.id⟩ ::
              after.filterMap (fun v => v.2.warning? u v.1)) ∧
      (u.tree.DistinctKeys → (reg.auditRecalling u []).1 = reg.audit u) := by
  refine ⟨fun n => SyntaxTree.mem_preorder_iff, u.tree.nodup_preorder _,
    fun n r f => Rule.finding?_eq_some_iff, findings_audit h u, log_audit h u, ?_,
    fun hkeys => (reg.recalls_auditRecalling hkeys [] CompilationUnit.faithful_nil).1⟩
  intro before after n r hsplit hgives
  have hfinding : r.finding? u n = none := Rule.finding?_eq_none_of_givesUp hgives
  have hwarning : r.warning? u n = some (r.skipRecord u n) := if_pos hgives
  constructor
  · rw [findings_audit h, hsplit]
    simp only [List.filterMap_append, List.filterMap_cons, hfinding]
  · rw [log_audit h, hsplit]
    simp only [List.filterMap_append, List.filterMap_cons, hwarning]
    rfl

/-! ### A rule that gives up beside one that does not -/

/-- The call `f(1);` as a whole source. -/
def oneCall : CompilationUnit :=
  .ofTree "Call.java" (.ofNodes "f(1);" #[
    ⟨none, "program", true, false, 0, 5, none⟩,
    ⟨some 0, "expression_statement", true, false, 0, 5, none⟩,
    ⟨some 1, "method_invocation", true, false, 0, 4, none⟩,
    ⟨some 2, "identifier", true, false, 0, 1, some "name"⟩,
    ⟨some 2, "argument_list", true, false, 1, 4, some "arguments"⟩,
    ⟨some 4, "(", false, false, 1, 2, none⟩,
    ⟨some 4, "decimal_integer_literal", true, false, 2, 3, none⟩,
    ⟨some 4, ")", false, false, 3, 4, none⟩,
    ⟨some 1, ";", false, false, 4, 5, none⟩])

/-- Gives up on every call. -/
def faultyRule : Rule :=
  { Rule.plain "FaultyRule" "FAULTY" "Faulty" .warning [.call] [] (fun _ _ => pure false) with
    matching := fun _ _ => .ofExcept (.error (.failed "no answer")) }

/-- Fires at every call and every literal. -/
def watchfulRule : Rule :=
  Rule.plain "WatchfulRule" "WATCHFUL" "Watchful" .warning [.call, .literal] [] fun _ _ => pure true

/-- The rule that gives up leaves a record in the log, and the one beside it still has its finding. -/
theorem audit_oneCall :
    let reg := (Registry.empty.add faultyRule).add watchfulRule
    reg.Reachable ∧ reg.visits oneCall = [(2, faultyRule), (2, watchfulRule), (6, watchfulRule)] ∧
      faultyRule.givesUp oneCall 2 = true ∧
      (reg.audit oneCall).findings =
        [(2, watchfulRule), (6, watchfulRule)].filterMap (fun v => v.2.finding? oneCall v.1) ∧
      (reg.audit oneCall).log = [⟨.warning, "Rule FAULTY failed on Call.java:1; skipping", some "FAULTY"⟩] ∧
      oneCall.tree.DistinctKeys ∧ (reg.auditRecalling oneCall []).1 = reg.audit oneCall := by
  intro reg
  have hreach : reg.Reachable :=
    .register (.register .empty (register_eq_ok_iff.2 ⟨by decide, rfl, rfl⟩))
      (register_eq_ok_iff.2 ⟨by decide, rfl, rfl⟩)
  have hpreorder : oneCall.tree.preorder SyntaxTree.root = [0, 1, 2, 3, 4, 6] := by decide +kernel
  have hvisits : reg.visits oneCall = [(2, faultyRule), (2, watchfulRule), (6, watchfulRule)] := by
    have hkinds : [0, 1, 2, 3, 4, 6].map oneCall.tree.kind? =
        [none, none, some .call, none, none, some .literal] := by decide +kernel
    simp only [List.map_cons, List.map_nil, List.cons.injEq, and_true] at hkinds
    obtain ⟨h0, h1, h2, h3, h4, h6⟩ := hkinds
    rw [visits, hpreorder]
    simp only [List.flatMap_cons, h0, h1, h2, h3, h4, h6]
    rfl
  have hkeys : oneCall.tree.DistinctKeys := .of_nodup (by decide)
  obtain ⟨-, -, -, -, -, hgivesUp, hrecalling⟩ := audit_eq_visits hreach oneCall
  obtain ⟨hfindings, hlog⟩ := hgivesUp [] _ _ _ hvisits rfl
  exact ⟨hreach, hvisits, rfl, hfindings, hlog, hkeys, hrecalling hkeys⟩

end Registry

end JavaAudit
