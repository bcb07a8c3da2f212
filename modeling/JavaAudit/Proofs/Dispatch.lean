import JavaAudit.Rule.Registry

/-!
# Which rules see a node

A registry keeps its rules twice, once in order of registration and once by the kinds of nodes that
they look at. Registration keeps the two in step: the rules for a kind are those of all registered rules
that ask for it, in the order of registration (`Reachable.rulesFor_eq`). That is shown of one
registration (`rulesFor_add`) and carried along every sequence of registrations.
-/

namespace JavaAudit.Registry

variable {reg reg' : Registry} {r : Rule} {k : NodeKind}

/-- The registries that registrations lead to, starting from an empty one. -/
inductive Reachable : Registry → Prop where
  | empty : Reachable .empty
  | register {reg reg' : Registry} {r : Rule} (h : Reachable reg) (hr : reg.register r = .ok reg') :
      Reachable reg'

/-! ## One registration -/

/-- A rule is registered exactly if it has an id and no other rule has the same. -/
theorem register_eq_ok_iff :
    reg.register r = .ok reg' ↔ r.id ≠ "" ∧ reg.find? r.id = none ∧ reg.add r = reg' := by
  unfold register
  by_cases hid : r.id = ""
  · simp [hid]
  · cases hfind : reg.find? r.id with
    | none => simp [hid]
    | some other => simp [hid]

/-- Entering a rule under a kind puts it behind the rules for that kind and leaves the others alone. -/
theorem get?_enter (table : List (NodeKind × List Rule)) (other : NodeKind) :
    (Table.get? k (enter r table other)).getD [] =
      (Table.get? k table).getD [] ++ if other = k then [r] else [] := by
  rw [enter, Table.get?_put]
  split
  · next heq =>
    subst heq
    rfl
  · rw [List.append_nil]

theorem get?_foldl_enter {kinds : List NodeKind} (hkinds : kinds.Nodup)
    (table : List (NodeKind × List Rule)) :
    (Table.get? k (kinds.foldl (enter r) table)).getD [] =
      (Table.get? k table).getD [] ++ if k ∈ kinds then [r] else [] := by
  induction kinds generalizing table with
  | nil => exact (List.append_nil _).symm
  | cons first rest ih =>
    obtain ⟨hfirst, hrest⟩ := List.nodup_cons.1 hkinds
    rw [List.foldl_cons, ih hrest, get?_enter, List.append_assoc]
    congr 1
    by_cases heq : first = k
    · subst heq
      simp [hfirst]
    · simp [heq, Ne.symm heq]

/-- A new rule comes last for each of its kinds. -/
theorem rulesFor_add :
    (reg.add r).rulesFor (some k) =
      reg.rulesFor (some k) ++ if r.kinds.contains k = true then [r] else [] := by
  have hnodup : (NodeKind.all.filter r.kinds.contains).Nodup :=
    List.Pairwise.filter _ (show NodeKind.all.Nodup by decide)
  have hmem : k ∈ NodeKind.all.filter r.kinds.contains ↔ r.kinds.contains k = true := by
    rw [List.mem_filter]
    exact and_iff_right (by cases k <;> decide)
  show (Table.get? k ((NodeKind.all.filter r.kinds.contains).foldl (enter r) reg.byKind)).getD [] = _
  rw [get?_foldl_enter hnodup]
  simp only [hmem]
  rfl

/-! ## Sequences of registrations -/

/-- The rules that a node of some kind is shown to are the registered rules that ask for its kind. -/
theorem Reachable.rulesFor_eq (h : reg.Reachable) (kind : Option NodeKind) :
    reg.rulesFor kind = reg.rules.filter fun r => kind.any r.kinds.contains := by
  cases kind with
  | none => simp [rulesFor]
  | some k =>
    induction h with
    | empty => rfl
    | register _ hr ih =>
      obtain ⟨-, -, rfl⟩ := register_eq_ok_iff.1 hr
      rw [rulesFor_add, ih]
      simp [add, List.filter_append, List.filter_cons]

/-- Rules with ids of their own can be registered one after another. -/
theorem registerAll_eq_ok {rules : List Rule} (hnonempty : ∀ r ∈ rules, r.id ≠ "")
    (hnew : ∀ r ∈ rules, reg.find? r.id = none) (hdistinct : (rules.map (·.id)).Nodup) :
    reg.registerAll rules = .ok (rules.foldl add reg) := by
  induction rules generalizing reg with
  | nil => rfl
  | cons first rest ih =>
    rw [List.map_cons, List.nodup_cons] at hdistinct
    have hok : reg.register first = .ok (reg.add first) :=
      register_eq_ok_iff.2 ⟨hnonempty first List.mem_cons_self, hnew first List.mem_cons_self, rfl⟩
    have hrest : (reg.add first).registerAll rest = .ok (rest.foldl add (reg.add first)) := by
      refine ih (fun r hr => hnonempty r (List.mem_cons_of_mem first hr)) ?_ hdistinct.2
      intro r hr
      -- the first rule has not taken the id of a later one
      have hne : first.id ≠ r.id := fun heq =>
        hdistinct.1 (heq ▸ List.mem_map_of_mem hr)
      have hold := hnew r (List.mem_cons_of_mem first hr)
      simp only [find?, add] at hold ⊢
      rw [List.find?_append, hold]
      simp [hne]
    unfold registerAll at hrest ⊢
    rw [List.foldlM_cons, hok]
    exact hrest

/-- Registering several rules keeps a registry one that is built by registrations. -/
theorem Reachable.registerAll {rules : List Rule} (h : reg.Reachable)
    (hok : reg.registerAll rules = .ok reg') : reg'.Reachable := by
  induction rules generalizing reg with
  | nil => exact Except.ok.inj hok ▸ h
  | cons first rest ih =>
    unfold Registry.registerAll at hok
    rw [List.foldlM_cons] at hok
    cases hfirst : reg.register first with
    | error e =>
      rw [hfirst] at hok
      cases hok
    | ok next =>
      rw [hfirst] at hok
      exact ih (.register h hfirst) hok

theorem rules_foldl_add (rules : List Rule) (reg : Registry) :
    (rules.foldl add reg).rules = reg.rules ++ rules := by
  induction rules generalizing reg with
  | nil => exact (List.append_nil _).symm
  | cons first rest ih =>
    rw [List.foldl_cons, ih]
    exact List.append_assoc _ [first] rest

/-- The built-in registry holds all rules but those that are disabled. -/
theorem rules_builtin (disabled : List String) :
    (builtin disabled).rules = Rule.builtin.filter fun r => !disabled.contains r.id :=
  rules_foldl_add _ _

/-- The built-in rules, except the disabled ones, are what registering them leads to. -/
theorem reachable_builtin (disabled : List String) : (builtin disabled).Reachable := by
  have hids : (Rule.builtin.map (·.id)).Nodup := by decide
  have hnonempty : ∀ r ∈ Rule.builtin, r.id ≠ "" := by decide
  refine Reachable.empty.registerAll (registerAll_eq_ok ?_ (fun _ _ => rfl) (List.Nodup.sublist ?_ hids))
  · intro r hr
    exact hnonempty r (List.mem_filter.1 hr).1
  · exact List.filter_sublist.map _

end JavaAudit.Registry
