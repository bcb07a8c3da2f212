import JavaAudit.Rule.Registry
import JavaAudit.Proofs.InheritedFields
import JavaAudit.Proofs.QuerySearch
import JavaAudit.Proofs.TabulatedTrees

/-!
# Room for the calls of a rule

While a rule decides about a node its calls nest, and where there is no room for another one the rule gives up. A
computation settles on a result within some number of calls if it has this result whenever there is room for so
many, and if with less room it has the same result or gives up for lack of room (`Settles`). So the result never
depends on the room.

How much room a rule needs is a number of the unit. Conditionals, initialisers and collections are followed for a
bounded number of steps. The two recursions without a bound are those over field accesses inside field accesses
(`accessDepth`) and along inherited types (`ChainsWithin`). Every built-in rule settles on an answer that the tree
alone tells (`exists_means`), and gives it in every unit in which these two recursions stay within the room that
the others leave (`Fits`).
-/

namespace JavaAudit

variable {u : CompilationUnit} {α β : Type} {need need' : Nat}

/-! ## Results that take some room -/

/-- With room for `need` calls the computation has this result. With less it has the same result, or there was no
room. -/
def Settles (u : CompilationUnit) (need : Nat) (x : Asking α) (a : α) : Prop :=
  ∀ room, (x room).afresh u = .ok a ∨ (x room).afresh u = .error .stackExhausted ∧ room < need

namespace Settles

variable {x : Asking α} {a : α} {f : α → Asking β} {b : β}

theorem pure (a : α) : Settles u need (Pure.pure a) a := fun _ => .inl rfl

/-- Two steps in turn need no more room than each of them. -/
theorem bind (hx : Settles u need x a) (hf : Settles u need (f a) b) : Settles u need (x >>= f) b := by
  intro room
  have hbind : ((x >>= f) room).afresh u = (x room).afresh u >>= fun a => (f a room).afresh u :=
    Inquiry.afresh_bind u (x room) fun a => f a room
  rw [hbind]
  rcases hx room with hok | ⟨herror, hroom⟩
  · rw [hok]
    exact hf room
  · rw [herror]
    exact .inr ⟨rfl, hroom⟩

theorem map (g : α → β) (hx : Settles u need x a) : Settles u need (do return g (← x)) (g a) :=
  hx.bind (pure (g a))

theorem mono (hx : Settles u need x a) (h : need ≤ need') : Settles u need' x a := fun room =>
  (hx room).imp_right fun hfail => ⟨hfail.1, Nat.lt_of_lt_of_le hfail.2 h⟩

/-- Calls that are under way take their room away. -/
theorem nested {calls : Nat} (hx : Settles u need x a) (h : need + calls ≤ need') :
    Settles u need' (Asking.nested calls x) a := by
  intro room
  unfold Asking.nested
  split
  · refine (hx (room - calls)).imp_right fun hfail => ⟨hfail.1, ?_⟩
    have hlt := hfail.2
    omega
  · exact .inr ⟨rfl, by omega⟩

theorem holds {p : β → Asking Bool} {q : β → Bool} (hp : ∀ b, Settles u need (p b) (q b))
    (o : Option β) : Settles u need (Asking.holds p o) (o.any q) := by
  cases o with
  | none => exact pure false
  | some b => exact hp b

theorem anyM {p : β → Asking Bool} {q : β → Bool} (hp : ∀ b, Settles u need (p b) (q b))
    (l : List β) : Settles u need (l.anyM p) (l.any q) := by
  induction l with
  | nil => exact pure false
  | cons b rest ih =>
    rw [List.anyM, List.any_cons]
    refine (hp b).bind ?_
    cases q b with
    | true => exact pure true
    | false => exact ih

theorem findM? {p : β → Asking Bool} {q : β → Bool} (hp : ∀ b, Settles u need (p b) (q b))
    (l : List β) : Settles u need (l.findM? p) (l.find? q) := by
  induction l with
  | nil => exact pure none
  | cons b rest ih =>
    rw [List.findM?, List.find?_cons]
    refine (hp b).bind ?_
    cases q b with
    | true => exact pure (some b)
    | false => exact ih

end Settles

/-! ## Names and fields -/

namespace CompilationUnit

section Lookups

variable {length : Nat} (hlength : u.ChainsWithin length)

include hlength

/-- A lookup needs two calls for each type on the longest chain of supertypes, and two more. -/
theorem settles_lookup (name : String) (n : NodeId) :
    Settles u (2 * length + 2) (Asking.lookup u name n) (u.lookup name n) := by
  refine Settles.nested (fun room => ?_) (Nat.le_refl (2 * length + 2))
  split
  · exact .inl rfl
  · next hnone =>
    refine .inr ⟨rfl, Nat.lt_of_not_le fun hroom => hnone ?_⟩
    exact isSome_lookupWithin hlength (by omega)

/-- A field of a type needs the calls for the chain only. -/
theorem settles_field (type name : String) :
    Settles u (2 * length) (Asking.field u type name) (u.fieldOf type name) := by
  intro room
  unfold Asking.field
  split
  · next h => exact .inl (congrArg Except.ok (eq_fieldOf_of_fieldWithin h))
  · next hnone =>
    refine .inr ⟨rfl, Nat.lt_of_not_le fun hroom => ?_⟩
    have hsome : (u.fieldWithin name (room / 2) [type] type).isSome = true :=
      isSome_fieldWithin_self hlength (by omega)
    rw [hnone] at hsome
    cases hsome

theorem settles_member (type : Option String) (name : String) :
    Settles u (2 * length + 2) (Asking.member u type name) (type.bind (u.fieldOf · name)) := by
  cases type with
  | none => exact .pure none
  | some type => exact (settles_field hlength type name).nested (Nat.le_succ _)

end Lookups

/-! ## References -/

/-- How many field accesses stand inside each other, from an expression along its object. -/
def accessDepth (u : CompilationUnit) (n : NodeId) : Nat :=
  match _hn : u.tree.unwrap n with
  | none => 0
  | some e =>
    if u.tree.type e = "field_access" then
      match _ho : u.tree.field? e "object" with
      | none => 0
      | some object =>
        match _ht : u.tree.unwrap object with
        | none => 0
        | some target => accessDepth u target + 1
    else 0
termination_by u.tree.size - n
decreasing_by
  have h₁ := SyntaxTree.le_of_unwrap _hn
  have h₂ := SyntaxTree.lt_of_field? _ho
  have h₃ := SyntaxTree.le_of_unwrap _ht
  omega

section Access

variable {n e object target : NodeId} {member : String} (hn : u.tree.unwrap n = some e)
  (htype : u.tree.type e = "field_access") (hobject : u.tree.field? e "object" = some object)
  (htarget : u.tree.unwrap object = some target)

include hn htype hobject htarget

theorem accessDepth_of_access : u.accessDepth n = u.accessDepth target + 1 := by
  rw [accessDepth]
  grind

/-- An access refers to a member of `this`, of the superclass, or of the type of its object. -/
theorem reference?_of_access (hmember : u.tree.fieldText? e "field" = some member) :
    u.reference? n =
      if u.tree.type target = "this" then u.fieldOfThis e member
      else if u.tree.type target = "super" then
        (u.superclassAt e).bind fun owner => u.fieldOf owner member
      else if u.tree.isA target referenceTypes then
        (((u.reference? target).elim (u.qualify (u.tree.text target)) (·.typeName)).filter (· ≠ "")).bind
          fun owner => u.fieldOf owner member
      else none := by
  rw [reference?]
  grind

end Access

/-- A reference needs one call for each access in it, beside the lookup of the name. -/
theorem settles_askReference {length : Nat} (hlength : u.ChainsWithin length) (n : NodeId) :
    Settles u (u.accessDepth n + 2 * length + 2) (u.askReference n) (u.reference? n) := by
  have hbase : ∀ n, 2 * length + 2 ≤ u.accessDepth n + 2 * length + 2 := fun n => by omega
  have hmember := fun n type name => (settles_member hlength type name).mono (hbase n)
  -- along the recursion of the question: only an access asks again, about its object, which is one access less
  fun_induction askReference u n with
  | case1 n hn =>
    have hnone : u.reference? n = none := by grind [reference?]
    rw [hnone]
    exact .pure none
  | case2 n e hn hident =>
    have hlookup : u.reference? n = u.lookup (u.tree.text e) e := by grind [reference?]
    rw [hlookup]
    exact (settles_lookup hlength _ e).mono (hbase n)
  | case3 n e hn hident haccess =>
    have hnone : u.reference? n = none := by grind [reference?]
    rw [hnone]
    exact .pure none
  | case4 n e hn hident haccess object member hobject hfield htarget =>
    have hnone : u.reference? n = none := by grind [reference?]
    rw [hnone]
    exact .pure none
  | case5 n e hn hident haccess object member hobject hfield target htarget hthis =>
    rw [reference?_of_access hn (not_not.1 haccess) hobject htarget hfield, if_pos hthis]
    exact hmember _ _ _
  | case6 n e hn hident haccess object member hobject hfield target htarget hthis hsuper =>
    rw [reference?_of_access hn (not_not.1 haccess) hobject htarget hfield, if_neg hthis, if_pos hsuper]
    exact hmember _ _ _
  | case7 n e hn hident haccess object member hobject hfield target htarget hthis hsuper href ih =>
    rw [reference?_of_access hn (not_not.1 haccess) hobject htarget hfield, if_neg hthis, if_neg hsuper,
      if_pos href]
    have hdepth := accessDepth_of_access hn (not_not.1 haccess) hobject htarget
    refine (ih.nested (by omega)).bind ?_
    cases u.reference? target with
    | none => exact hmember _ _ _
    | some holder => exact hmember _ _ _
  | case8 n e hn hident haccess object member hobject hfield target htarget hthis hsuper href =>
    rw [reference?_of_access hn (not_not.1 haccess) hobject htarget hfield, if_neg hthis, if_neg hsuper,
      if_neg href]
    exact .pure none
  | case9 n e hn hident haccess h =>
    have hnone : u.reference? n = none := by grind [reference?]
    rw [hnone]
    exact .pure none

/-! ## Types -/

section Expressions

variable (href : ∀ e, Settles u need (u.askReference e) (u.reference? e))

theorem settles_askTypeIn {infer : NodeId → Asking (Option String)} {type : NodeId → Option String}
    (h : ∀ n, Settles u need' (infer n) (type n)) (o : Option NodeId) :
    Settles u need' (askTypeIn infer o) (o.bind type) := by
  cases o with
  | none => exact .pure none
  | some n => exact h n

include href

/-- The type of a reference is that of what it refers to, or of its initialiser. -/
theorem settles_askReferenceType {infer : NodeId → Asking (Option String)}
    {type : NodeId → Option String} (h : ∀ n, Settles u need' (infer n) (type n))
    (hneed : need + 1 ≤ need') (unqualified : Bool) (e : NodeId) :
    Settles u need' (u.askReferenceType infer unqualified e) (u.referenceType type unqualified e) := by
  unfold askReferenceType referenceType
  refine ((href e).nested hneed).bind ?_
  cases u.reference? e with
  | none => exact .pure _
  | some symbol =>
    dsimp only
    split
    · next hname =>
      rw [hname]
      exact .pure _
    · next hname =>
      rw [hname, Option.none_or]
      split
      · exact settles_askTypeIn h symbol.initializer
      · exact .pure _

/-- Every step of inference takes at most two calls, and the reference at its end one. -/
theorem settles_askTargetWithin_askTypeWithin (depth : Nat) :
    (∀ n, Settles u (need + 2 * depth + 1) (u.askTargetWithin depth n) (u.callTargetWithin depth n)) ∧
      ∀ unqualified n, Settles u (need + 2 * depth + 1) (u.askTypeWithin depth unqualified n)
        (u.typeWithin depth unqualified n) := by
  -- both at once: a target asks for the type of its receiver, and the type of a call for its target
  induction depth with
  | zero =>
    constructor
    · intro n
      rw [askTargetWithin, callTargetWithin]
      exact .pure none
    · intro unqualified n
      rw [askTypeWithin, typeWithin]
      exact .pure none
  | succ depth ih =>
    obtain ⟨htarget, htype⟩ := ih
    have hbranch : ∀ unqualified n, Settles u (need + 2 * (depth + 1) + 1)
        (Asking.nested 1 (u.askTypeWithin depth unqualified n)) (u.typeWithin depth unqualified n) :=
      fun unqualified n => (htype unqualified n).nested (by omega)
    constructor
    · intro n
      rw [askTargetWithin, callTargetWithin]
      cases u.tree.unwrap n with
      | none => exact .pure none
      | some e =>
        rw [Option.bind_some]
        dsimp only
        split
        · exact .pure _
        · split
          · cases u.tree.fieldText? e "name" with
            | none => exact .pure none
            | some name =>
              rw [Option.bind_some]
              dsimp only
              cases u.tree.field? e "object" with
              | none => exact .pure _
              | some receiver => exact (hbranch false receiver).map _
          · exact .pure none
    · intro unqualified n
      rw [askTypeWithin, typeWithin]
      cases u.tree.unwrap n with
      | none => exact .pure none
      | some e =>
        rw [Option.bind_some]
        dsimp only
        cases ExpressionForm.ofType (u.tree.type e) with
        | reference =>
          exact settles_askReferenceType href (fun n => (htype unqualified n).nested (by omega)) (by omega)
            unqualified e
        | call => exact ((htarget e).nested (by omega)).map _
        | conditional =>
          refine (settles_askTypeIn (hbranch unqualified) _).bind ?_
          dsimp only
          split
          · exact .pure _
          · exact settles_askTypeIn (hbranch unqualified) _
        | operator => exact (settles_askTypeIn (hbranch false) _).map _
        | text => exact .pure _
        | this => exact .pure _
        | super => exact .pure _
        | spelled => exact .pure _
        | other => exact .pure _

/-- The target of a call needs two calls for each level of inference. -/
theorem settles_askTarget (n : NodeId) :
    Settles u (need + 2 * inferenceDepth + 1) (u.askTarget n) (u.callTarget n) :=
  (settles_askTargetWithin_askTypeWithin href inferenceDepth).1 n

theorem settles_askType (n : NodeId) :
    Settles u (need + 2 * inferenceDepth + 1) (u.askType n) (u.typeOf n) :=
  (settles_askTargetWithin_askTypeWithin href inferenceDepth).2 false n

theorem settles_askLooseType (n : NodeId) :
    Settles u (need + 2 * inferenceDepth + 1) (u.askLooseType n) (u.looseTypeOf n) :=
  (settles_askTargetWithin_askTypeWithin href inferenceDepth).2 true n

theorem settles_askSinkTarget (sinks : List String) (n : NodeId) :
    Settles u (need + 2 * inferenceDepth + 1) (u.askSinkTarget sinks n) (u.sinkTarget sinks n) :=
  (settles_askTarget href n).map _

theorem settles_askSink (sinks : List String) (n : NodeId) :
    Settles u (need + 2 * inferenceDepth + 1) (u.askSink sinks n) (u.isSink sinks n) :=
  (settles_askSinkTarget href sinks n).map _

/-! ## Constants -/

/-- Every level of conditionals takes three calls. -/
theorem settles_askConstantWithin_true (depth : Nat) (n : NodeId) :
    Settles u (need + 3 * depth + 1) (u.askConstantWithin depth true n)
      (u.isConstantWithin depth true n) := by
  induction depth generalizing n with
  | zero => exact .pure false
  | succ depth ih =>
    rw [askConstantWithin, isConstantWithin]
    cases u.tree.unwrap n with
    | none => exact .pure false
    | some e =>
      dsimp only
      split
      · exact .pure true
      · split
        · exact ((href e).nested (by omega)).map _
        · split
          · have hbranch : ∀ n, Settles u (need + 3 * (depth + 1) + 1)
                (Asking.nested 3 (u.askConstantWithin depth true n)) (u.isConstantWithin depth true n) :=
              fun n => (ih n).nested (by omega)
            refine (Settles.holds hbranch _).bind ?_
            cases (u.tree.field? e "consequence").any (u.isConstantWithin depth true) with
            | true => exact Settles.holds hbranch _
            | false => exact .pure false
          · exact .pure false

/-- Without conditionals nothing nests but the reference. -/
theorem settles_askConstant (n : NodeId) : Settles u (need + 1) (u.askConstant n) (u.isConstant n) := by
  unfold askConstant isConstant classifierDepth
  rw [askConstantWithin, isConstantWithin]
  cases u.tree.unwrap n with
  | none => exact .pure false
  | some e =>
    dsimp only
    split
    · exact .pure true
    · split
      · exact ((href e).nested (Nat.le_refl _)).map _
      · exact .pure false

/-- A choice of constants needs three calls for each level of classification. -/
theorem settles_askConstantChoice (n : NodeId) :
    Settles u (need + 3 * classifierDepth + 1) (u.askConstantChoice n) (u.isConstantChoice n) :=
  settles_askConstantWithin_true href classifierDepth n

theorem settles_askTaintedOperand (n : NodeId) :
    Settles u (need + 1) (u.askTaintedOperand n) (u.hasTaintedOperand n) :=
  .anyM (fun leaf => (settles_askConstant href leaf).map not) _

theorem settles_askConcatenates (keywords : List String) (n : NodeId) :
    Settles u (need + 1) (u.askConcatenates keywords n) (u.concatenates keywords n) := by
  unfold askConcatenates concatenates
  cases u.tree.unwrap n with
  | none => exact .pure false
  | some e =>
    dsimp only
    split
    · next h =>
      rw [h, Bool.true_and]
      exact settles_askTaintedOperand href e
    · next h =>
      rw [Bool.eq_false_iff.2 h, Bool.false_and]
      exact .pure false

end Expressions

end CompilationUnit

/-! ## Rules -/

namespace Rule

/-- How many calls nest while a rule decides, before those that a reference takes. -/
def callsOfRules : Nat := 3 * classifierDepth + 2 * inferenceDepth + 1

variable (href : ∀ e, Settles u need (u.askReference e) (u.reference? e))

include href

/-- The question about a sink fits into the calls of a rule. -/
theorem settles_sink (sinks : List String) (n : NodeId) :
    Settles u (need + callsOfRules) (u.askSink sinks n) (u.isSink sinks n) := by
  refine (CompilationUnit.settles_askSink href sinks n).mono ?_
  unfold callsOfRules
  omega

namespace SqlInjection

/-- Every step to a branch or an initialiser takes one call. -/
theorem settles_askQueryWithin (depth : Nat) (seen : List (Nat × Nat × String)) (n : NodeId) :
    Settles u (need + depth + 1) (askQueryWithin u depth seen n) (unsafeQueryWithin u depth seen n) := by
  induction depth generalizing seen n with
  | zero => exact .pure (false, seen)
  | succ depth ih =>
    have hnext : ∀ seen n, Settles u (need + (depth + 1) + 1)
        (Asking.nested 1 (askQueryWithin u depth seen n)) (unsafeQueryWithin u depth seen n) :=
      fun seen n => (ih seen n).nested (by omega)
    have hbranch : ∀ seen o, Settles u (need + (depth + 1) + 1)
        (askQueryIn (fun seen n => Asking.nested 1 (askQueryWithin u depth seen n)) seen o)
        (withinBranch u depth seen o) := by
      intro seen o
      cases o with
      | none => exact .pure (false, seen)
      | some branch => exact hnext seen branch
    rw [askQueryWithin]
    cases hn : u.tree.unwrap n with
    | none =>
      rw [unsafeQueryWithin_of_empty hn]
      exact .pure (false, seen)
    | some e =>
      dsimp only
      split
      · next hbinary =>
        rw [unsafeQueryWithin_of_binary hn hbinary]
        exact ((CompilationUnit.settles_askConcatenates href keywords e).mono (by omega)).map (·, seen)
      · next hbinary =>
        split
        · next hconditional =>
          -- the second branch is asked about with what the first one has seen, and only if that one is safe
          rw [unsafeQueryWithin_of_conditional hn (beq_iff_eq.2 hconditional)]
          refine (hbranch seen (u.tree.field? e "consequence")).bind ?_
          split
          · exact .pure _
          · exact hbranch _ (u.tree.field? e "alternative")
        · next hconditional =>
          rw [unsafeQueryWithin, hn]
          dsimp only
          rw [if_neg hbinary, if_neg hconditional]
          split
          · refine ((href e).nested (by omega)).bind ?_
            cases u.reference? e with
            | none => exact .pure (false, seen)
            | some symbol =>
              dsimp only
              cases symbol.initializer with
              | none => exact .pure (false, seen)
              | some init =>
                dsimp only
                split
                · exact .pure (false, seen)
                · exact hnext _ init
          · exact .pure (false, seen)

/-- The question about the query of a call fits into the calls of a rule. -/
theorem settles_askUnsafeCall (n : NodeId) :
    Settles u (need + callsOfRules) (askUnsafeCall u n) (isUnsafeCall u n) := by
  unfold askUnsafeCall isUnsafeCall
  cases (u.tree.arguments n).head? with
  | none => exact .pure false
  | some query =>
    refine (settles_sink href sinks n).bind ?_
    cases u.isSink sinks n with
    | false => exact .pure false
    | true =>
      have hroom : need + classifierDepth + 1 ≤ need + callsOfRules := by
        unfold callsOfRules
        omega
      exact ((settles_askQueryWithin href classifierDepth [] query).mono hroom).map (·.1)

theorem settles_askQueryArgument (n : NodeId) :
    Settles u (need + callsOfRules) (askQueryArgument u n) (isQueryArgument u n) := by
  unfold askQueryArgument isQueryArgument
  cases valueHolder u n with
  | none => exact .pure false
  | some holder =>
    dsimp only
    cases u.tree.parent? holder.2 with
    | none => exact .pure false
    | some call =>
      dsimp only
      split
      · next h =>
        rw [h, Bool.true_and]
        exact settles_sink href sinks call
      · next h =>
        rw [Bool.eq_false_iff.2 h, Bool.false_and]
        exact .pure false

theorem settles_askUnsafeConcatenation (n : NodeId) :
    Settles u (need + callsOfRules) (askUnsafeConcatenation u n) (isUnsafeConcatenation u n) := by
  unfold askUnsafeConcatenation isUnsafeConcatenation
  split
  · next h =>
    rw [h, Bool.true_and]
    have hroom : need + 1 ≤ need + callsOfRules := by
      unfold callsOfRules
      omega
    refine ((CompilationUnit.settles_askConcatenates href keywords n).mono hroom).bind ?_
    cases u.concatenates keywords n with
    | false => exact .pure false
    | true => exact (settles_askQueryArgument href n).map not
  · next h =>
    rw [Bool.eq_false_iff.2 h, Bool.false_and, Bool.false_and]
    exact .pure false

theorem settles_matching (n : NodeId) :
    Settles u (need + callsOfRules) (matching u n) (fires u n) := by
  unfold matching fires
  split
  · exact settles_askUnsafeCall href n
  · exact settles_askUnsafeConcatenation href n
  · exact .pure _
  · exact .pure _

end SqlInjection

namespace CommandInjection

theorem settles_askCollection (n : NodeId) :
    Settles u (need + 2 * inferenceDepth + 1) (askCollection u n) (buildsCollection u n) := by
  unfold askCollection buildsCollection
  split
  · next h =>
    rw [decide_eq_true h, Bool.true_and]
    exact (CompilationUnit.settles_askTarget href n).map _
  · next h =>
    rw [decide_eq_false h, Bool.false_and]
    exact .pure false

/-- Every level of conditionals and collections takes at most three calls. -/
theorem settles_askUnsafeWithin (depth : Nat) (n : NodeId) :
    Settles u (need + 3 * depth + 2 * inferenceDepth + 1) (askUnsafeWithin u depth n)
      (isUnsafeWithin u depth n) := by
  induction depth generalizing n with
  | zero => exact .pure _
  | succ depth ih =>
    -- elements and arguments are reached through three calls, which is what a level may cost
    have hheld : ∀ n, Settles u (need + 3 * (depth + 1) + 2 * inferenceDepth + 1)
        (Asking.nested 3 (askUnsafeWithin u depth n)) (isUnsafeWithin u depth n) :=
      fun n => (ih n).nested (by omega)
    rw [askUnsafeWithin, isUnsafeWithin]
    cases u.tree.unwrap n with
    | none => exact .pure false
    | some e =>
      dsimp only
      split
      · exact (CompilationUnit.settles_askTaintedOperand href e).mono (by omega)
      split
      · exact ((CompilationUnit.settles_askConstant href e).mono (by omega)).map not
      split
      · refine (Settles.holds hheld _).bind ?_
        cases (u.tree.field? e "consequence").any (isUnsafeWithin u depth) with
        | true => exact .pure true
        | false => exact Settles.holds hheld _
      split
      · exact Settles.holds (fun n => (ih n).nested (by omega)) _
      split
      · exact Settles.anyM hheld _
      · refine ((settles_askCollection href e).mono (by omega)).bind ?_
        split
        · exact Settles.anyM hheld _
        · exact .pure false

theorem settles_matching (n : NodeId) :
    Settles u (need + callsOfRules) (matching u n) (fires u n) := by
  unfold matching fires
  extract_lets args
  split
  · next h =>
    rw [h]
    exact .pure false
  · next h =>
    rw [Bool.eq_false_iff.2 h, Bool.not_false, Bool.true_and]
    refine (settles_sink href sinks n).bind ?_
    cases u.isSink sinks n with
    | false => exact .pure false
    | true =>
      refine Settles.anyM (fun arg => ?_) args
      refine (settles_askUnsafeWithin href classifierDepth arg).mono ?_
      unfold callsOfRules
      omega

end CommandInjection

/-- A rule about a first argument asks for the sink and for the constant. -/
theorem FirstArgument.settles_matching (sinks : List String) (n : NodeId) :
    Settles u (need + callsOfRules) (FirstArgument.matching u sinks n) (FirstArgument.fires u sinks n) := by
  unfold FirstArgument.matching FirstArgument.fires
  cases (u.tree.arguments n).head? with
  | none => exact .pure false
  | some arg =>
    refine (settles_sink href sinks n).bind ?_
    cases u.isSink sinks n with
    | false => exact .pure false
    | true =>
      have hroom : need + 3 * classifierDepth + 1 ≤ need + callsOfRules := by
        unfold callsOfRules
        omega
      exact ((CompilationUnit.settles_askConstantChoice href arg).mono hroom).map not

namespace ResourceLeak

theorem settles_askVariableType (symbol : Symbol) :
    Settles u (need + 2 * inferenceDepth + 1) (askVariableType u symbol) (variableType u symbol) := by
  unfold askVariableType variableType
  split
  · next hname =>
    rw [hname]
    exact .pure _
  · next hname =>
    rw [hname, Option.none_or]
    split
    · exact CompilationUnit.settles_askTypeIn (CompilationUnit.settles_askType href) _
    · exact .pure none

theorem settles_askRefersTo (symbol : Symbol) (expr : NodeId) :
    Settles u (need + 1) (askRefersTo u symbol expr) (refersTo u symbol expr) := by
  unfold askRefersTo refersTo
  cases u.tree.unwrap expr with
  | none => exact .pure false
  | some e =>
    dsimp only [Option.any_some]
    split
    · next h =>
      rw [h, Bool.true_and]
      exact ((href e).nested (Nat.le_refl _)).map _
    · next h =>
      rw [Bool.eq_false_iff.2 h, Bool.false_and]
      exact .pure false

theorem settles_askCloses (symbol : Symbol) (call : NodeId) :
    Settles u (need + 1) (askCloses u symbol call) (closes u symbol call) := by
  unfold askCloses closes
  split
  · next h =>
    rw [decide_eq_true h, Bool.true_and]
    exact .holds (settles_askRefersTo href symbol) _
  · next h =>
    rw [decide_eq_false h, Bool.false_and]
    exact .pure false

theorem settles_askTakesOver (symbol : Symbol) (resource : NodeId) :
    Settles u (need + 1) (askTakesOver u symbol resource) (takesOver u symbol resource) := by
  unfold askTakesOver takesOver
  split
  · next h =>
    rw [h, Bool.true_and]
    exact .anyM (settles_askRefersTo href symbol) _
  · next h =>
    rw [Bool.eq_false_iff.2 h, Bool.false_and]
    exact .pure false

/-- The calls and resources of a scope are asked about one by one. -/
theorem settles_askReleased (symbol : Symbol) (scope : NodeId) :
    Settles u (need + 1) (askReleased u symbol scope) (isReleased u symbol scope) := by
  unfold askReleased isReleased
  extract_lets t
  refine (Settles.anyM (fun block => .anyM (settles_askCloses href symbol) _) _).bind ?_
  split
  · next h =>
    rw [h, Bool.true_or]
    exact .pure true
  · next h =>
    rw [Bool.eq_false_iff.2 h, Bool.false_or]
    exact .anyM (settles_askTakesOver href symbol) _

theorem settles_askLeaks (scope : NodeId) (symbol : Symbol) :
    Settles u (need + 2 * inferenceDepth + 1) (askLeaks u scope symbol) (leaks u scope symbol) := by
  unfold askLeaks leaks
  refine (settles_askVariableType href symbol).bind ?_
  split
  · next h =>
    rw [h, Bool.true_and]
    exact ((settles_askReleased href symbol scope).mono (by omega)).map not
  · next h =>
    rw [Bool.eq_false_iff.2 h, Bool.false_and]
    exact .pure false

theorem settles_askLeakingVariable (decl : NodeId) :
    Settles u (need + 2 * inferenceDepth + 1) (askLeakingVariable u decl) (leakingVariable u decl) := by
  unfold askLeakingVariable leakingVariable
  cases scope? u decl with
  | none => exact .pure none
  | some scope =>
    dsimp only [Option.bind_some]
    split
    · exact .pure none
    · exact .findM? (settles_askLeaks href scope) _

theorem settles_askQuietCloser (call : NodeId) :
    Settles u (need + 2 * inferenceDepth + 1) (askQuietCloser u call) (quietCloser u call) := by
  unfold askQuietCloser quietCloser
  split
  · exact (CompilationUnit.settles_askTarget href call).map _
  · exact .pure none

theorem settles_matching (n : NodeId) :
    Settles u (need + callsOfRules) (matching u n) (fires u n) := by
  have hroom : need + 2 * inferenceDepth + 1 ≤ need + callsOfRules := by
    unfold callsOfRules
    omega
  unfold matching fires
  split
  · exact ((settles_askLeakingVariable href n).mono hroom).map _
  · exact ((settles_askQuietCloser href n).mono hroom).map _
  · exact .pure false

end ResourceLeak

namespace InformationLeak

/-- A message is one if the type of its object is an exception. -/
theorem settles_askExceptionMessage (call : NodeId) :
    Settles u (need + 2 * inferenceDepth + 1) (askExceptionMessage u call)
      (isExceptionMessage u call) := by
  unfold askExceptionMessage isExceptionMessage
  split
  · next h =>
    rw [h, Bool.true_and]
    cases u.tree.field? call "object" with
    | none => exact .pure _
    | some receiver => exact (CompilationUnit.settles_askLooseType href receiver).map _
  · next h =>
    rw [Bool.eq_false_iff.2 h, Bool.false_and]
    exact .pure false

theorem settles_askLeakedCall (statement : NodeId) :
    Settles u (need + 2 * inferenceDepth + 1) (askLeakedCall u statement) (leakedCall u statement) :=
  .findM? (settles_askExceptionMessage href) _

theorem settles_matching (n : NodeId) :
    Settles u (need + callsOfRules) (matching u n) (fires u n) := by
  have hroom : need + 2 * inferenceDepth + 1 ≤ need + callsOfRules := by
    unfold callsOfRules
    omega
  unfold matching fires
  split
  · refine ((settles_askExceptionMessage href n).mono hroom).bind ?_
    cases isExceptionMessage u n with
    | true => exact .pure _
    | false => exact .pure false
  · exact ((settles_askLeakedCall href n).mono hroom).map _
  · exact .pure false

end InformationLeak

/-- What the rule means to answer at a node: its answer wherever references settle and there is room. -/
def Means (r : Rule) (u : CompilationUnit) (n : NodeId) (fired : Bool) : Prop :=
  ∀ need, (∀ e, Settles u need (u.askReference e) (u.reference? e)) →
    Settles u (need + callsOfRules) (r.matching u n) fired

omit href

theorem SqlInjection.means (u : CompilationUnit) (n : NodeId) :
    sqlInjection.Means u n (SqlInjection.fires u n) :=
  fun _ href => SqlInjection.settles_matching href n

theorem CommandInjection.means (u : CompilationUnit) (n : NodeId) :
    commandInjection.Means u n (CommandInjection.fires u n) :=
  fun _ href => CommandInjection.settles_matching href n

theorem FirstArgument.means_pathTraversal (u : CompilationUnit) (n : NodeId) :
    pathTraversal.Means u n (FirstArgument.fires u pathSinks n) :=
  fun _ href => FirstArgument.settles_matching href pathSinks n

theorem FirstArgument.means_unsafeUrlCreation (u : CompilationUnit) (n : NodeId) :
    unsafeUrlCreation.Means u n (FirstArgument.fires u urlSinks n) :=
  fun _ href => FirstArgument.settles_matching href urlSinks n

theorem ResourceLeak.means (u : CompilationUnit) (n : NodeId) :
    resourceLeak.Means u n (ResourceLeak.fires u n) :=
  fun _ href => ResourceLeak.settles_matching href n

theorem InformationLeak.means (u : CompilationUnit) (n : NodeId) :
    informationLeak.Means u n (InformationLeak.fires u n) :=
  fun _ href => InformationLeak.settles_matching href n

/-- Each built-in rule has a meaning at each node, apart from the room that it is given. -/
theorem exists_means {r : Rule} (h : r ∈ builtin) (u : CompilationUnit) (n : NodeId) :
    ∃ fired, r.Means u n fired := by
  simp only [builtin, List.mem_cons, List.not_mem_nil, or_false] at h
  rcases h with rfl | rfl | rfl | rfl | rfl | rfl | rfl | rfl | rfl
  · exact ⟨_, fun _ href => settles_sink href fastjsonSinks n⟩
  · exact ⟨_, fun _ href => settles_sink href objectStreamSinks n⟩
  · exact ⟨_, SqlInjection.means u n⟩
  · exact ⟨_, CommandInjection.means u n⟩
  · exact ⟨_, FirstArgument.means_pathTraversal u n⟩
  · exact ⟨_, FirstArgument.means_unsafeUrlCreation u n⟩
  · exact ⟨_, ResourceLeak.means u n⟩
  · exact ⟨_, InformationLeak.means u n⟩
  · exact ⟨_, fun _ href => settles_sink href randomSinks n⟩

end Rule

/-! ## Units with room for every rule -/

namespace CompilationUnit

/-- Accesses nest no deeper than the tree has nodes behind. -/
theorem accessDepth_le (n : NodeId) : u.accessDepth n ≤ u.tree.size - n := by
  fun_induction accessDepth u n with
  | case4 n e hn htype object hobject target htarget ih =>
    have h₁ := SyntaxTree.le_of_unwrap hn
    have h₂ := SyntaxTree.lt_of_field? hobject
    have h₃ := SyntaxTree.le_of_unwrap htarget
    omega
  | _ => exact Nat.zero_le _

theorem settles_askReference_of_le {accesses length : Nat} (haccesses : ∀ n, u.accessDepth n ≤ accesses)
    (hlength : u.ChainsWithin length) (e : NodeId) :
    Settles u (accesses + 2 * length + 2) (u.askReference e) (u.reference? e) := by
  refine (settles_askReference hlength e).mono ?_
  have h := haccesses e
  omega

/-- In every unit some room is enough for every reference. -/
theorem exists_settles_askReference (u : CompilationUnit) :
    ∃ need, ∀ e, Settles u need (u.askReference e) (u.reference? e) :=
  ⟨_, settles_askReference_of_le (fun n => Nat.le_trans (accessDepth_le n) (Nat.sub_le _ _))
    u.chainsWithin_succ_declared⟩

/-- Field accesses and inheriting types do not nest deeper in the unit than there is room for. -/
def Fits (u : CompilationUnit) : Prop :=
  ∃ accesses length, (∀ n, u.accessDepth n ≤ accesses) ∧ u.ChainsWithin length ∧
    accesses + 2 * length + 2 + Rule.callsOfRules ≤ callDepth

/-- A unit of at most three hundred nodes and types fits. -/
theorem fits_of_size (h : u.tree.size + 2 * u.hierarchy.declared.length ≤ 300) : u.Fits := by
  refine ⟨u.tree.size, _, fun n => Nat.le_trans (accessDepth_le n) (Nat.sub_le _ _),
    u.chainsWithin_succ_declared, ?_⟩
  show u.tree.size + 2 * (u.hierarchy.declared.length + 1) + 2 + 670 ≤ 980
  omega

/-- A unit of at most three hundred nodes that declares no types fits. -/
theorem fits_of_no_types (hsize : u.tree.size ≤ 300)
    (htypes : ∀ n < u.tree.size, u.tree.isA n typeDeclarationTypes = false) : u.Fits := by
  have hdeclared : u.hierarchy.declared = [] := by
    show Table.keys u.types.declarations = []
    rw [types_eq_empty htypes]
    rfl
  refine fits_of_size ?_
  rw [hdeclared]
  exact hsize

/-- A unit without field accesses fits, however large it is, if it has few types. -/
theorem fits_of_no_access (haccess : ∀ n, u.tree.type n ≠ "field_access")
    (hdeclared : u.hierarchy.declared.length ≤ 150) : u.Fits := by
  refine ⟨0, _, fun n => ?_, u.chainsWithin_succ_declared, ?_⟩
  · fun_cases accessDepth u n with
    | case4 e _ htype => exact absurd htype (haccess e)
    | _ => exact Nat.le_refl 0
  · show 0 + 2 * (u.hierarchy.declared.length + 1) + 2 + 670 ≤ 980
    omega

end CompilationUnit

/-- A rule answers what it means to, unless the unit does not fit and there is no room. -/
theorem Rule.Means.fires_eq {r : Rule} {n : NodeId} {fired : Bool} (h : r.Means u n fired) :
    r.fires u n = .ok fired ∨ r.fires u n = .error .stackExhausted ∧ ¬ u.Fits := by
  by_cases hfits : u.Fits
  · obtain ⟨accesses, length, haccesses, hlength, hroom⟩ := hfits
    rcases h _ (CompilationUnit.settles_askReference_of_le haccesses hlength) callDepth with
      hok | ⟨-, hless⟩
    · exact .inl hok
    · omega
  · obtain ⟨need, href⟩ := u.exists_settles_askReference
    rcases h need href callDepth with hok | ⟨herror, -⟩
    · exact .inl hok
    · exact .inr ⟨herror, hfits⟩

/-- These are the answers of the rule, except where it runs out of room. In a unit that fits it never does. -/
def Rule.Answers (r : Rule) (u : CompilationUnit) (fires : NodeId → Bool) : Prop :=
  ∀ n, r.fires u n = .ok (fires n) ∨ r.fires u n = .error .stackExhausted ∧ ¬ u.Fits

/-- A rule with a meaning answers it, or gives up for lack of room. -/
theorem Rule.answers_of_means {r : Rule} {fires : NodeId → Bool} (h : ∀ n, r.Means u n (fires n)) :
    r.Answers u fires := fun n => (h n).fires_eq

/-- Where there is room for every rule, a rule answers what it means. -/
theorem Rule.Means.fires_of_fits {r : Rule} {n : NodeId} {fired : Bool} (h : r.Means u n fired)
    (hfits : u.Fits) : r.fires u n = .ok fired :=
  h.fires_eq.resolve_right fun hnot => hnot.2 hfits

end JavaAudit
