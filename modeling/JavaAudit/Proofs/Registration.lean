import Mathlib.Data.List.Induction
import Mathlib.Data.List.Nodup
import JavaAudit.Proofs.Dispatch

/-!
# Registries over time

A registry keeps its rules twice, and calls change both places one after the other. However registrations,
refused registrations and removals follow each other, the two places stay in step and no two rules have the
same id.

A call is compared with what it does to an ordered list of rules (`listed`). One call does to the registry
what it should do to the list (`rules_performed`), and it leads from a registry that registrations can lead
to to another one (`Reachable.performed`). So a run of calls leaves exactly the rules that the list has
(`rules_after`), in a registry of which everything holds that holds after registrations alone
(`reachable_after`).
-/

namespace JavaAudit.Registry

variable {reg reg' : Registry} {r : Rule}

/-! ## One registration -/

/-- The registry does not take the rule: it has no id, or that of a registered rule. -/
def Refuses (reg : Registry) (r : Rule) : Prop := r.id = "" ∨ r.id ∈ reg.rules.map (·.id)

/-- What is said about a rule that is not taken. -/
def refusal (r : Rule) : RegistryError := if r.id = "" then .missingId r.summary else .duplicateId r.id

theorem find?_eq_none_iff {id : String} : reg.find? id = none ↔ id ∉ reg.rules.map (·.id) := by
  unfold find?
  simp only [List.find?_eq_none, decide_eq_true_eq, List.mem_map, not_exists, not_and]

/-- A rule is taken if it has an id that is still free. -/
theorem not_refuses_iff : ¬ reg.Refuses r ↔ r.id ≠ "" ∧ reg.find? r.id = none := by
  rw [find?_eq_none_iff]
  exact not_or

theorem run_get_bind {α : Type} (f : Registry → Change α) : (get >>= f).run reg = (f reg).run reg := rfl

/-- A registration that is refused leaves everything as it was. -/
theorem run_enroll_of_refuses (h : reg.Refuses r) : (enroll r).run reg = .error (refusal r) reg := by
  unfold enroll refusal
  by_cases hid : r.id = ""
  · rw [if_pos hid, if_pos hid]
    rfl
  · have hsome : (reg.find? r.id).isSome = true := by
      rw [← Option.ne_none_iff_isSome]
      exact fun hnone => not_refuses_iff.2 ⟨hid, hnone⟩ h
    rw [if_neg hid, if_neg hid, run_get_bind, if_pos hsome]
    rfl

/-- Entering a rule under kinds one by one changes nothing but the table of kinds. -/
theorem run_forM_enter (r : Rule) (kinds : List NodeKind) (reg : Registry) :
    (kinds.forM fun k => (modify fun reg => { reg with byKind := enter r reg.byKind k } : Change Unit)).run
        reg =
      .ok () { reg with byKind := kinds.foldl (enter r) reg.byKind } := by
  induction kinds generalizing reg with
  | nil => rfl
  | cons k rest ih => exact ih { reg with byKind := enter r reg.byKind k }

/-- Enrolling a rule that is not refused adds it in one step. -/
theorem run_enroll_of_not_refuses (h : ¬ reg.Refuses r) : (enroll r).run reg = .ok r (reg.add r) := by
  obtain ⟨hid, hfind⟩ := not_refuses_iff.1 h
  have hkinds := run_forM_enter r (NodeKind.all.filter r.kinds.contains)
    { reg with rules := reg.rules ++ [r] }
  unfold enroll
  rw [if_neg hid, run_get_bind, hfind]
  -- both checks are passed and the rule is in the list; what is left is the table of kinds
  show EStateM.bind ((NodeKind.all.filter r.kinds.contains).forM _) (fun _ => pure r) _ = _
  unfold EStateM.bind
  unfold EStateM.run at hkinds
  rw [hkinds]
  rfl

/-! ## One call -/

/-- A call on a registry. -/
inductive Call where
  | register (r : Rule)
  | clear

/-- The state that a computation leaves behind, whether it failed or not. -/
def leftBehind {σ α : Type} : EStateM.Result RegistryError σ α → σ
  | .ok _ left => left
  | .error _ left => left

/-- The registry after a call. -/
def performed (reg : Registry) : Call → Registry
  | .register r => leftBehind ((enroll r).run reg)
  | .clear => leftBehind (clear.run reg)

/-- What a call does to a list of rules: a rule goes to the end, unless it has no id or the id of another. -/
def listed (rules : List Rule) : Call → List Rule
  | .register r => if r.id = "" ∨ r.id ∈ rules.map (·.id) then rules else rules ++ [r]
  | .clear => []

theorem performed_of_refuses (h : reg.Refuses r) : reg.performed (.register r) = reg := by
  show leftBehind ((enroll r).run reg) = reg
  rw [run_enroll_of_refuses h]
  rfl

theorem performed_of_not_refuses (h : ¬ reg.Refuses r) : reg.performed (.register r) = reg.add r := by
  show leftBehind ((enroll r).run reg) = reg.add r
  rw [run_enroll_of_not_refuses h]
  rfl

theorem rules_performed (reg : Registry) (call : Call) :
    (reg.performed call).rules = listed reg.rules call := by
  cases call with
  | clear => rfl
  | register r =>
    by_cases h : reg.Refuses r
    · rw [performed_of_refuses h]
      exact (if_pos h).symm
    · rw [performed_of_not_refuses h]
      exact (if_neg h).symm

/-- Each call keeps a registry one that is built by registrations. -/
theorem Reachable.performed (h : reg.Reachable) (call : Call) : (reg.performed call).Reachable := by
  cases call with
  | clear => exact .empty
  | register r =>
    by_cases hrefused : reg.Refuses r
    · rw [performed_of_refuses hrefused]
      exact h
    · rw [performed_of_not_refuses hrefused]
      obtain ⟨hid, hfind⟩ := not_refuses_iff.1 hrefused
      exact .register h (register_eq_ok_iff.2 ⟨hid, hfind, rfl⟩)

/-! ## Runs of calls -/

/-- The registry after calls, starting with an empty one. -/
def after (calls : List Call) : Registry := calls.foldl performed empty

theorem after_concat (calls : List Call) (call : Call) :
    after (calls ++ [call]) = (after calls).performed call :=
  List.foldl_append

theorem reachable_after (calls : List Call) : (after calls).Reachable := by
  induction calls using List.reverseRecOn with
  | nil => exact .empty
  | append_singleton calls call ih =>
    rw [after_concat]
    exact ih.performed call

theorem rules_foldl_performed (reg : Registry) (calls : List Call) :
    (calls.foldl performed reg).rules = calls.foldl listed reg.rules := by
  induction calls generalizing reg with
  | nil => rfl
  | cons call calls ih => rw [List.foldl_cons, ih, rules_performed, List.foldl_cons]

/-- The rules of a registry are those that the calls so far have admitted, in this order. -/
theorem rules_after (calls : List Call) : (after calls).rules = calls.foldl listed [] :=
  rules_foldl_performed empty calls

/-! ## Calls on the default registry -/

/-- What is kept of the default registry after a call on it. -/
def keptAfter (kept : Kept) : Call → Kept
  | .register r => leftBehind ((changeShared (enroll r)).run kept)
  | .clear => leftBehind ((changeShared clear).run kept)

/-- A change to the default registry is made to what is kept of it, or to the built-in one, and the result is
kept. -/
theorem leftBehind_changeShared {α : Type} (change : Change α) (kept : Kept) :
    leftBehind ((changeShared change).run kept) =
      some (leftBehind (change.run (shared.run kept).1)) := by
  show leftBehind (changeShared change kept) = _
  unfold changeShared
  cases change.run (shared.run kept).1 <;> rfl

/-- After a call, the default registry is the one that the call leaves behind. -/
theorem keptAfter_eq (kept : Kept) (call : Call) :
    keptAfter kept call = some ((shared.run kept).1.performed call) := by
  cases call with
  | register r => exact leftBehind_changeShared (enroll r) kept
  | clear => exact leftBehind_changeShared clear kept

/-- The default registry is the same one at every call: it has the built-in rules, as the calls on it so far have
changed them. -/
theorem rules_shared (calls : List Call) :
    (shared.run (calls.foldl keptAfter none)).1.rules = calls.foldl listed Rule.builtin := by
  have hkept : ∀ kept, (shared.run (calls.foldl keptAfter kept)).1 =
      calls.foldl performed (shared.run kept).1 := by
    induction calls with
    | nil => exact fun kept => rfl
    | cons call calls ih =>
      intro kept
      rw [List.foldl_cons, ih, keptAfter_eq, List.foldl_cons]
      rfl
  have hbuiltin : (shared.run none).1.rules = Rule.builtin := by
    show (builtin []).rules = Rule.builtin
    rw [rules_builtin]
    simp
  rw [hkept, rules_foldl_performed, hbuiltin]

/-! ## What holds of every registry -/

/-- In a registry built by registrations each rule has an id of its own. -/
theorem Reachable.ids (h : reg.Reachable) :
    (∀ r ∈ reg.rules, r.id ≠ "") ∧ (reg.rules.map (·.id)).Nodup := by
  induction h with
  | empty => exact ⟨fun _ hr => (nomatch hr), List.nodup_nil⟩
  | @register reg reg' r _ hr ih =>
    obtain ⟨hid, hfind, rfl⟩ := register_eq_ok_iff.1 hr
    constructor
    · intro other hother
      rcases List.mem_append.1 hother with hold | hnew
      · exact ih.1 other hold
      · rw [List.mem_singleton.1 hnew]
        exact hid
    · show ((reg.rules ++ [r]).map (·.id)).Nodup
      rw [List.map_append, List.map_singleton, List.nodup_append]
      refine ⟨ih.2, List.nodup_singleton _, ?_⟩
      intro id hold other hnew heq
      rw [heq, List.mem_singleton.1 hnew] at hold
      exact find?_eq_none_iff.1 hfind hold

/-- A rule is found by its id, and no other rule is. -/
theorem Reachable.find?_eq_some_iff (h : reg.Reachable) {id : String} :
    reg.find? id = some r ↔ r ∈ reg.rules ∧ r.id = id := by
  constructor
  · intro hfind
    exact ⟨List.mem_of_find?_eq_some hfind, by simpa using List.find?_some hfind⟩
  · rintro ⟨hmem, rfl⟩
    cases hfind : reg.find? r.id with
    | none => exact absurd (List.mem_map_of_mem hmem) (find?_eq_none_iff.1 hfind)
    | some other =>
      have hother : other.id = r.id := by simpa using List.find?_some hfind
      rw [List.inj_on_of_nodup_map h.ids.2 (List.mem_of_find?_eq_some hfind) hmem hother]

/-- After any calls, a registry has the rules that were admitted, in this order. They have ids, all
different, and each is found by its id. The rules for a kind of node are those that ask for it, in the same
order. A registration fails exactly if the rule has no id or that of a registered rule; then the error says
which, and neither the list of rules nor the rules for any kind have changed. Otherwise the rule comes
behind the others. After a removal every rule with an id can be registered. -/
theorem registry_stays_in_step (calls : List Call) :
    let reg := after calls
    reg.rules = calls.foldl listed [] ∧
      (∀ r ∈ reg.rules, r.id ≠ "") ∧ (reg.rules.map (·.id)).Nodup ∧
      reg.rulesFor none = [] ∧
      (∀ kind, reg.rulesFor (some kind) = reg.rules.filter fun r => r.kinds.contains kind) ∧
      (∀ id r, reg.find? id = some r ↔ r ∈ reg.rules ∧ r.id = id) ∧
      (∀ id, reg.find? id = none ↔ ∀ r ∈ reg.rules, r.id ≠ id) ∧
      (∀ r, (∃ error reg', (enroll r).run reg = .error error reg') ↔
        r.id = "" ∨ ∃ other ∈ reg.rules, other.id = r.id) ∧
      (∀ r error reg', (enroll r).run reg = .error error reg' →
        error = (if r.id = "" then .missingId r.summary else .duplicateId r.id) ∧
          reg'.rules = reg.rules ∧ ∀ kind, reg'.rulesFor kind = reg.rulesFor kind) ∧
      (∀ r r' reg', (enroll r).run reg = .ok r' reg' → r' = r ∧ reg'.rules = reg.rules ++ [r]) ∧
      ∀ r, r.id ≠ "" → ∃ reg', (enroll r).run (after (calls ++ [.clear])) = .ok r reg' ∧
        reg'.rules = [r] := by
  intro reg
  -- everything but the last part is a property of reachable registries
  have hreach : reg.Reachable := reachable_after calls
  have hrefuses : ∀ r, reg.Refuses r ↔ r.id = "" ∨ ∃ other ∈ reg.rules, other.id = r.id :=
    fun r => or_congr_right List.mem_map
  refine ⟨rules_after calls, hreach.ids.1, hreach.ids.2, rfl, fun kind => hreach.rulesFor_eq (some kind),
    fun id r => hreach.find?_eq_some_iff, fun id => ?_, fun r => ?_, fun r error reg' hrun => ?_,
    fun r r' reg' hrun => ?_, fun r hid => ?_⟩
  · rw [find?_eq_none_iff, List.mem_map]
    simp only [not_exists, not_and]
  · rw [← hrefuses]
    constructor
    · rintro ⟨error, reg', hrun⟩
      by_contra hadmitted
      rw [run_enroll_of_not_refuses hadmitted] at hrun
      cases hrun
    · intro hrefused
      exact ⟨_, _, run_enroll_of_refuses hrefused⟩
  · by_cases hrefused : reg.Refuses r
    · rw [run_enroll_of_refuses hrefused] at hrun
      cases hrun
      exact ⟨rfl, rfl, fun _ => rfl⟩
    · rw [run_enroll_of_not_refuses hrefused] at hrun
      cases hrun
  · by_cases hrefused : reg.Refuses r
    · rw [run_enroll_of_refuses hrefused] at hrun
      cases hrun
    · rw [run_enroll_of_not_refuses hrefused] at hrun
      cases hrun
      exact ⟨rfl, rfl⟩
  · have hcleared : after (calls ++ [.clear]) = empty := after_concat calls .clear
    have hadmitted : ¬ empty.Refuses r := not_refuses_iff.2 ⟨hid, rfl⟩
    rw [hcleared, run_enroll_of_not_refuses hadmitted]
    exact ⟨_, rfl, rfl⟩

/-! ### A rule that is registered again -/

/-- Looks at calls. -/
def callRule : Rule :=
  Rule.plain "CallRule" "CALLS" "Calls" .info [.call] [] fun _ _ => pure true

/-- Looks at calls and literals. -/
def literalRule : Rule :=
  Rule.plain "LiteralRule" "LITERALS" "Literals" .info [.literal, .call] [] fun _ _ => pure true

/-- The second registration of a rule fails and leaves the rules for calls alone; after a removal it
succeeds. -/
theorem registered_again :
    let calls := [.register literalRule, .clear, .register callRule, .register literalRule]
    let reg := after calls
    reg.rules = [callRule, literalRule] ∧ reg.rulesFor (some .call) = [callRule, literalRule] ∧
      reg.rulesFor (some .literal) = [literalRule] ∧
      (∃ reg', (enroll callRule).run reg = .error (.duplicateId "CALLS") reg' ∧
        reg'.rules = reg.rules ∧ ∀ kind, reg'.rulesFor kind = reg.rulesFor kind) ∧
      callRule.id ≠ "" ∧
      ∃ reg', (enroll callRule).run (after (calls ++ [.clear])) = .ok callRule reg' ∧
        reg'.rules = [callRule] := by
  intro calls reg
  obtain ⟨hrules, -, -, -, hkinds, -, -, hfails, hunchanged, -, hagain⟩ := registry_stays_in_step calls
  have hrules : reg.rules = [callRule, literalRule] := hrules.trans rfl
  have hid : callRule.id ≠ "" := by decide
  obtain ⟨error, reg', hrun⟩ := (hfails callRule).2
    (.inr ⟨callRule, hrules ▸ List.mem_cons_self, rfl⟩)
  obtain ⟨rfl, hsame⟩ := hunchanged callRule error reg' hrun
  refine ⟨hrules, ?_, ?_, ⟨reg', hrun, hsame⟩, hid, hagain callRule hid⟩
  · rw [hkinds, hrules]
    rfl
  · rw [hkinds, hrules]
    rfl

end JavaAudit.Registry
