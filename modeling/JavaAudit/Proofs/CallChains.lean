import JavaAudit.Expression.Typing
import JavaAudit.Proofs.ReleasedResources
import JavaAudit.Proofs.TypeNaming

/-!
# Chains of calls

In a fluent expression each call has the one before as its receiver. `CallChain` says which calls lead
from an expression to another one, and `TypeAlong` which type they give it, call by call (`Returns`); both
know no bound. Inference goes down the chain and back, and each call takes two of its steps: one to type
the receiver and one to find what the call invokes.

Main statements: within a bound, inference gives the type along the chain if the bound leaves more than
two steps for each call, and nothing otherwise (`typeWithin_eq_some_iff`). So the bound can make a call
unknown, and never gives it a wrong owner (`call_chain_resolved_up_to_bound`).

A type that is found this way has a name that is not empty (`Returns.ne_empty`), so nothing is lost where
inference takes an empty name for none.
-/

namespace JavaAudit

/-! ## Names of types are not empty -/

namespace Header

/-- Nothing but the empty name is imported under an empty full name. -/
def NamesImports (h : Header) : Prop := ∀ name, name ≠ "" → Table.get? name h.imports ≠ some ""

theorem NamesImports.addImport {h : Header} (hh : h.NamesImports) (t : SyntaxTree) (n : NodeId)
    (name : String) : (h.addImport t n name).NamesImports := by
  unfold Header.addImport
  dsimp only
  split
  · exact hh
  · exact hh
  · exact hh
  · intro other hother himported
    rw [Table.get?_put] at himported
    by_cases hsimple : TypeName.simple name = other
    · rw [if_pos hsimple] at himported
      cases himported
      exact hother (hsimple.symm.trans (by decide))
    · rw [if_neg hsimple] at himported
      exact hh other hother himported

theorem namesImports_read (t : SyntaxTree) : (read t).NamesImports := by
  have hadd : ∀ (nodes : List NodeId) (h : Header), h.NamesImports →
      (nodes.foldl (add t) h).NamesImports := by
    intro nodes
    induction nodes with
    | nil => exact fun h hh => hh
    | cons n rest ih =>
      intro h hh
      refine ih _ ?_
      unfold add
      split
      · exact hh
      · split
        · exact hh
        · split
          · exact hh.addImport t n _
          · exact hh
  exact hadd _ _ fun name _ himported => nomatch himported

end Header

namespace CompilationUnit

open SyntaxTree

variable {u : CompilationUnit} {name type member result : String}

theorem fullName_ne_empty (n : NodeId) (hname : name ≠ "") : u.fullName n name ≠ "" := by
  unfold fullName
  dsimp only
  generalize (if u.header.package = "" then [] else [u.header.package]) ++ u.tree.namesAround n = outer
  intro hempty
  have hchars := congrArg String.toList hempty
  rw [String.toList_intercalate, List.map_append, List.map_singleton] at hchars
  cases outer with
  | nil => exact hname (String.toList_inj.1 (by simpa [List.intercalate] using hchars))
  | cons first rest =>
    -- two names have a dot between them
    obtain ⟨second, more, hmore⟩ :=
      List.exists_cons_of_ne_nil (List.concat_ne_nil name.toList (rest.map String.toList))
    rw [List.map_cons, List.cons_append, hmore, List.intercalate_cons_cons] at hchars
    simp at hchars

theorem qualifySimple_ne_empty (hname : name ≠ "") : u.qualifySimple name ≠ some "" := by
  unfold qualifySimple
  intro hempty
  split at hempty
  · next qualified hdeclared =>
    cases hempty
    rw [get?_simpleNames] at hdeclared
    obtain ⟨n, -, hfull⟩ := Option.map_eq_some_iff.1 hdeclared
    exact fullName_ne_empty n hname hfull
  · split at hempty
    · next qualified himported =>
      cases hempty
      rw [u.header_eq] at himported
      exact Header.namesImports_read u.tree name hname himported
    · split at hempty
      · simp at hempty
      · obtain ⟨package, -, hpackage⟩ := List.mem_map.1 (List.mem_of_find?_eq_some hempty)
        simp at hpackage

/-- A type that can be qualified has a name. -/
theorem qualify_ne_empty (type : String) : u.qualify type ≠ some "" := by
  unfold qualify
  dsimp only
  intro hempty
  split at hempty
  · cases hempty
  · next hwritten =>
    have hname : TypeName.erase type ≠ "" := fun hnone => hwritten (by simp [hnone])
    split at hempty
    · exact hname (Option.some.inj hempty)
    · split at hempty
      · exact qualifySimple_ne_empty hname hempty
      · split at hempty
        · simp at hempty
        · split at hempty
          · exact hname (Option.some.inj hempty)
          · cases hempty

/-! ## Results of calls -/

/-- A call of `member` on a `type` yields a `result`: the one that is listed for the member of the type or
of its nearest supertype with a listed one, or else the type that the unit declares for the method. -/
inductive Returns (u : CompilationUnit) (type member result : String) : Prop where
  | listed {nearer farther : List String} {owner : String}
      (hlineage : u.fullHierarchy.lineage type = nearer ++ owner :: farther)
      (hnearer : ∀ a ∈ nearer, Catalogue.returnType? (a ++ "." ++ member) = none)
      (hlisted : Catalogue.returnType? (owner ++ "." ++ member) = some result)
  | declared {method : Symbol} {written : String}
      (hnone : ∀ a ∈ u.fullHierarchy.lineage type, Catalogue.returnType? (a ++ "." ++ member) = none)
      (hmethod : u.methodOf type member = some method)
      (hwritten : method.declaredType = some written) (hresult : u.qualify written = some result)

theorem typeName_of_methodOf {s : Symbol} (h : u.methodOf type name = some s) :
    s.typeName = u.qualifyDeclared s.declaredType := by
  obtain ⟨a, -, ha⟩ := List.exists_of_findSome?_eq_some h
  obtain ⟨body, -, hs⟩ := Option.bind_eq_some_iff.1 ha
  obtain ⟨m, -, rfl⟩ := Option.map_eq_some_iff.1 hs
  rfl

theorem typeName_eq_some_iff_of_methodOf {s : Symbol} (h : u.methodOf type name = some s) :
    s.typeName = some result ↔ ∃ written, s.declaredType = some written ∧
      u.qualify written = some result := by
  rw [typeName_of_methodOf h]
  cases s.declaredType with
  | none => simp [qualifyDeclared]
  | some written => simp [Rule.ResourceLeak.qualifyDeclared_eq]

/-- The type of a call's result is the one that the method is declared to return, or, for a type of the library,
the one that the catalogue tells. -/
theorem resultType_eq_some_iff :
    u.resultType ⟨type, member⟩ = some result ↔ u.Returns type member result := by
  unfold resultType
  dsimp only
  rw [Option.or_eq_some_iff]
  constructor
  · rintro (hlisted | ⟨hnone, hdeclared⟩)
    · obtain ⟨nearer, owner, farther, hlineage, howner, hnearer⟩ :=
        List.findSome?_eq_some_iff.1 hlisted
      exact .listed hlineage hnearer howner
    · obtain ⟨method, hmethod, htype⟩ := Option.bind_eq_some_iff.1 hdeclared
      obtain ⟨written, hwritten, hresult⟩ := (typeName_eq_some_iff_of_methodOf hmethod).1 htype
      exact .declared (List.findSome?_eq_none_iff.1 hnone) hmethod hwritten hresult
  · rintro (⟨hlineage, hnearer, hlisted⟩ | ⟨hnone, hmethod, hwritten, hresult⟩)
    · exact .inl (List.findSome?_eq_some_iff.2 ⟨_, _, _, hlineage, hlisted, hnearer⟩)
    · refine .inr ⟨List.findSome?_eq_none_iff.2 hnone, Option.bind_eq_some_iff.2 ⟨_, hmethod, ?_⟩⟩
      exact (typeName_eq_some_iff_of_methodOf hmethod).2 ⟨_, hwritten, hresult⟩

theorem returnType?_ne_empty (member : String) : Catalogue.returnType? member ≠ some "" := by
  have hlisted : ∀ entry ∈ Catalogue.returnTypes, entry.2 ≠ "" := by decide
  intro hempty
  obtain ⟨before, after, hsplit, -⟩ := List.lookup_eq_some_iff.1 hempty
  exact hlisted (member, "") (hsplit ▸ by simp) rfl

theorem Returns.ne_empty (h : u.Returns type member result) : result ≠ "" := by
  rintro rfl
  cases h with
  | listed _ _ hlisted => exact returnType?_ne_empty _ hlisted
  | declared _ _ _ hresult => exact qualify_ne_empty _ hresult

/-! ## Chains and types along them -/

/-- A call of `member` on the expression `e`, which may stand in parentheses. -/
structure IsCallOn (u : CompilationUnit) (e : NodeId) (member : String) (call : NodeId) : Prop where
  type : u.tree.type call = "method_invocation"
  name : u.tree.fieldText? call "name" = some member
  receiver : ∃ r, u.tree.field? call "object" = some r ∧ u.tree.unwrap r = some e

/-- Calls of these members, one on the result of the other, lead from `start` to an expression. -/
inductive CallChain (u : CompilationUnit) (start : NodeId) : List String → NodeId → Prop where
  | nil : CallChain u start [] start
  | call {members : List String} {member : String} {e call : NodeId}
      (hchain : CallChain u start members e) (hcall : u.IsCallOn e member call) :
      CallChain u start (members ++ [member]) call

/-- Calls of these members, one on the result of the other, lead from the type `first` to a type. -/
inductive TypeAlong (u : CompilationUnit) (first : String) : List String → String → Prop where
  | nil : TypeAlong u first [] first
  | call {members : List String} {type member result : String}
      (htype : TypeAlong u first members type) (hresult : u.Returns type member result) :
      TypeAlong u first (members ++ [member]) result

variable {start e call r : Nat} {members : List String} {first : String} {depth : Nat}

theorem typeAlong_nil_iff : u.TypeAlong first [] type ↔ type = first := by
  constructor
  · intro h
    generalize hnil : ([] : List String) = members at h
    cases h with
    | nil => rfl
    | call => simp at hnil
  · rintro rfl
    exact .nil

/-- One more call along a chain: its method is one of the type that the chain has had so far. -/
theorem typeAlong_concat_iff :
    u.TypeAlong first (members ++ [member]) result ↔
      ∃ type, u.TypeAlong first members type ∧ u.Returns type member result := by
  constructor
  · intro h
    generalize hconcat : members ++ [member] = all at h
    cases h with
    | nil => simp at hconcat
    | call htype hresult =>
      obtain ⟨rfl, hmember⟩ := List.append_inj' hconcat rfl
      cases hmember
      exact ⟨_, htype, hresult⟩
  · rintro ⟨type, htype, hresult⟩
    exact .call htype hresult

/-- Along a chain that starts at a type with a name, all types have one. -/
theorem TypeAlong.ne_empty (hfirst : first ≠ "") (h : u.TypeAlong first members type) : type ≠ "" := by
  cases h with
  | nil => exact hfirst
  | call _ hresult => exact hresult.ne_empty

/-! ## Inference along a chain -/

/-- A variable whose type has a full name. -/
structure HasVariableType (u : CompilationUnit) (n : NodeId) (type : String) : Prop where
  identifier : u.tree.type n = "identifier"
  symbol : ∃ s, u.reference? n = some s ∧ s.typeName = some type
  ne_empty : type ≠ ""

theorem typeWithin_of_hasVariableType (h : u.HasVariableType e type) (hr : u.tree.unwrap r = some e) :
    u.typeWithin (depth + 1) false r = some type := by
  obtain ⟨s, hs, htype⟩ := h.symbol
  have hform : ExpressionForm.ofType "identifier" = .reference := by decide
  rw [typeWithin, hr, Option.bind_some, h.identifier, hform]
  dsimp only
  rw [referenceType, hs]
  dsimp only
  rw [htype, Option.filter_some, if_pos (decide_eq_true h.ne_empty), Option.some_or]

/-- The target of a call on an object is a method of the object's type, for which one level is left less. -/
theorem callTargetWithin_of_isCallOn (hcall : u.IsCallOn e member call)
    (hfield : u.tree.field? call "object" = some r) :
    u.callTargetWithin (depth + 1) call =
      ((u.typeWithin depth false r).filter (· ≠ "")).map fun owner => ⟨owner, member⟩ := by
  have hself : u.tree.unwrap call = some call := unwrap_eq_self (by rw [hcall.type]; decide)
  rw [callTargetWithin, hself, Option.bind_some, hcall.type, if_neg (by decide), if_pos rfl, hcall.name,
    Option.bind_some, hfield]

/-- The type of a call is the one that its target returns, for which one level is left less. -/
theorem typeWithin_of_isCallOn (hcall : u.IsCallOn e member call) (hr : u.tree.unwrap r = some call) :
    u.typeWithin (depth + 1) false r = (u.callTargetWithin depth call).bind u.resultType := by
  have hform : ExpressionForm.ofType "method_invocation" = .call := by decide
  rw [typeWithin, hr, Option.bind_some, hcall.type, hform]

/-- Inference reaches the end of a chain if it has more than two steps for each call, and then it gives
the type along the chain. -/
theorem typeWithin_eq_some_iff (hstart : u.HasVariableType start first)
    (hchain : u.CallChain start members e) (hr : u.tree.unwrap r = some e) :
    u.typeWithin depth false r = some type ↔
      2 * members.length < depth ∧ u.TypeAlong first members type := by
  induction hchain generalizing depth r type with
  | nil =>
    rw [typeAlong_nil_iff]
    cases depth with
    | zero => simp [typeWithin]
    | succ depth =>
      rw [typeWithin_of_hasVariableType hstart hr]
      simp [eq_comm]
  | @call members member e call hchain hcall ih =>
    obtain ⟨receiver, hfield, hreceiver⟩ := hcall.receiver
    rw [typeAlong_concat_iff, List.length_append, List.length_singleton]
    -- one step for the call and one for its receiver
    cases depth with
    | zero => simp [typeWithin]
    | succ depth =>
      rw [typeWithin_of_isCallOn hcall hr]
      cases depth with
      | zero =>
        rw [callTargetWithin]
        simp
      | succ depth =>
        rw [callTargetWithin_of_isCallOn hcall hfield]
        simp only [Option.bind_eq_some_iff, Option.map_eq_some_iff, Option.filter_eq_some_iff, ih hreceiver]
        constructor
        · rintro ⟨-, ⟨owner, ⟨⟨hdepth, howner⟩, -⟩, rfl⟩, hresult⟩
          exact ⟨by omega, owner, howner, resultType_eq_some_iff.1 hresult⟩
        · rintro ⟨hdepth, owner, howner, hresult⟩
          have hne := howner.ne_empty hstart.ne_empty
          exact ⟨_, ⟨owner, ⟨⟨by omega, howner⟩, decide_eq_true hne⟩, rfl⟩,
            resultType_eq_some_iff.2 hresult⟩

/-- The target of the last call needs one more step than its receiver. -/
theorem callTargetWithin_eq_some_iff (hstart : u.HasVariableType start first)
    (hchain : u.CallChain start members e) (hcall : u.IsCallOn e member call) {target : CallTarget} :
    u.callTargetWithin depth call = some target ↔
      2 * members.length + 1 < depth ∧ ∃ type, u.TypeAlong first members type ∧
        target = ⟨type, member⟩ := by
  obtain ⟨receiver, hfield, hreceiver⟩ := hcall.receiver
  cases depth with
  | zero => simp [callTargetWithin]
  | succ depth =>
    rw [callTargetWithin_of_isCallOn hcall hfield]
    simp only [Option.map_eq_some_iff, Option.filter_eq_some_iff,
      typeWithin_eq_some_iff hstart hchain hreceiver]
    constructor
    · rintro ⟨owner, ⟨⟨hdepth, howner⟩, -⟩, rfl⟩
      exact ⟨by omega, owner, howner, rfl⟩
    · rintro ⟨hdepth, owner, howner, rfl⟩
      have hne := howner.ne_empty hstart.ne_empty
      exact ⟨owner, ⟨⟨by omega, howner⟩, decide_eq_true hne⟩, rfl⟩

/-- The last call of a chain that starts at a variable invokes its member on the type along the chain, if
there is one and at most 15 calls come before. Otherwise its target is unknown. Whatever the bound on
inference, a target that is found has that owner. -/
theorem call_chain_resolved_up_to_bound (hstart : u.HasVariableType start first)
    (hchain : u.CallChain start members e) (hcall : u.IsCallOn e member call) :
    (∀ target, u.callTarget call = some target ↔
      members.length ≤ 15 ∧ ∃ type, u.TypeAlong first members type ∧ target = ⟨type, member⟩) ∧
    (16 ≤ members.length → u.callTarget call = none) ∧
    ∀ depth target, u.callTargetWithin depth call = some target →
      ∃ type, u.TypeAlong first members type ∧ target = ⟨type, member⟩ := by
  have hbound : ∀ target, u.callTarget call = some target ↔
      members.length ≤ 15 ∧ ∃ type, u.TypeAlong first members type ∧ target = ⟨type, member⟩ := by
    intro target
    have hsteps : 2 * members.length + 1 < inferenceDepth ↔ members.length ≤ 15 := by
      unfold inferenceDepth
      omega
    rw [callTarget, callTargetWithin_eq_some_iff hstart hchain hcall, hsteps]
  refine ⟨hbound, fun hlong => ?_, fun depth target htarget => ?_⟩
  · refine Option.eq_none_iff_forall_ne_some.2 fun target htarget => ?_
    have hshort := ((hbound target).1 htarget).1
    omega
  · exact ((callTargetWithin_eq_some_iff hstart hchain hcall).1 htarget).2

/-! ### A chain with parentheses -/

/-- A call on the result of a call on the result of a method of the unit, which stands in parentheses. -/
def chainedCalls : CompilationUnit :=
  .ofTree "A.java" (.ofNodes "class A\x7bError p()\x7b\x7dvoid f(A a)\x7b(a.p()).getCause().x();\x7d\x7d" #[
    ⟨none, "program", true, false, 0, 56, none⟩,
    ⟨some 0, "class_declaration", true, false, 0, 56, none⟩,
    ⟨some 1, "class", false, false, 0, 5, none⟩,
    ⟨some 1, "identifier", true, false, 6, 7, some "name"⟩,
    ⟨some 1, "class_body", true, false, 7, 56, some "body"⟩,
    ⟨some 4, "\x7b", false, false, 7, 8, none⟩,
    ⟨some 4, "method_declaration", true, false, 8, 19, none⟩,
    ⟨some 6, "type_identifier", true, false, 8, 13, some "type"⟩,
    ⟨some 6, "identifier", true, false, 14, 15, some "name"⟩,
    ⟨some 6, "formal_parameters", true, false, 15, 17, some "parameters"⟩,
    ⟨some 9, "(", false, false, 15, 16, none⟩,
    ⟨some 9, ")", false, false, 16, 17, none⟩,
    ⟨some 6, "block", true, false, 17, 19, some "body"⟩,
    ⟨some 12, "\x7b", false, false, 17, 18, none⟩,
    ⟨some 12, "\x7d", false, false, 18, 19, none⟩,
    ⟨some 4, "method_declaration", true, false, 19, 55, none⟩,
    ⟨some 15, "void_type", true, false, 19, 23, some "type"⟩,
    ⟨some 15, "identifier", true, false, 24, 25, some "name"⟩,
    ⟨some 15, "formal_parameters", true, false, 25, 30, some "parameters"⟩,
    ⟨some 18, "(", false, false, 25, 26, none⟩,
    ⟨some 18, "formal_parameter", true, false, 26, 29, none⟩,
    ⟨some 20, "type_identifier", true, false, 26, 27, some "type"⟩,
    ⟨some 20, "identifier", true, false, 28, 29, some "name"⟩,
    ⟨some 18, ")", false, false, 29, 30, none⟩,
    ⟨some 15, "block", true, false, 30, 55, some "body"⟩,
    ⟨some 24, "\x7b", false, false, 30, 31, none⟩,
    ⟨some 24, "expression_statement", true, false, 31, 54, none⟩,
    ⟨some 26, "method_invocation", true, false, 31, 53, none⟩,
    ⟨some 27, "method_invocation", true, false, 31, 49, some "object"⟩,
    ⟨some 28, "parenthesized_expression", true, false, 31, 38, some "object"⟩,
    ⟨some 29, "(", false, false, 31, 32, none⟩,
    ⟨some 29, "method_invocation", true, false, 32, 37, none⟩,
    ⟨some 31, "identifier", true, false, 32, 33, some "object"⟩,
    ⟨some 31, ".", false, false, 33, 34, none⟩,
    ⟨some 31, "identifier", true, false, 34, 35, some "name"⟩,
    ⟨some 31, "argument_list", true, false, 35, 37, some "arguments"⟩,
    ⟨some 35, "(", false, false, 35, 36, none⟩,
    ⟨some 35, ")", false, false, 36, 37, none⟩,
    ⟨some 29, ")", false, false, 37, 38, none⟩,
    ⟨some 28, ".", false, false, 38, 39, none⟩,
    ⟨some 28, "identifier", true, false, 39, 47, some "name"⟩,
    ⟨some 28, "argument_list", true, false, 47, 49, some "arguments"⟩,
    ⟨some 41, "(", false, false, 47, 48, none⟩,
    ⟨some 41, ")", false, false, 48, 49, none⟩,
    ⟨some 27, ".", false, false, 49, 50, none⟩,
    ⟨some 27, "identifier", true, false, 50, 51, some "name"⟩,
    ⟨some 27, "argument_list", true, false, 51, 53, some "arguments"⟩,
    ⟨some 46, "(", false, false, 51, 52, none⟩,
    ⟨some 46, ")", false, false, 52, 53, none⟩,
    ⟨some 26, ";", false, false, 53, 54, none⟩,
    ⟨some 24, "\x7d", false, false, 54, 55, none⟩,
    ⟨some 4, "\x7d", false, false, 55, 56, none⟩])

/-- The variable, the three calls with the parentheses around the first one, and the types on the way. -/
theorem chainedCalls_nodes :
    let t := chainedCalls.tree
    (t.type 32 = "identifier" ∧ (chainedCalls.lookup (t.text 32) 32).bind (·.typeName) = some "A") ∧
    ((t.type 31 = "method_invocation" ∧ t.fieldText? 31 "name" = some "p" ∧ t.field? 31 "object" = some 32) ∧
      (t.type 28 = "method_invocation" ∧ t.fieldText? 28 "name" = some "getCause" ∧
        t.field? 28 "object" = some 29) ∧
      (t.type 27 = "method_invocation" ∧ t.fieldText? 27 "name" = some "x" ∧ t.field? 27 "object" = some 28) ∧
      t.isParen 29 = true ∧ (t.parts 29).head? = some 31) ∧
    (chainedCalls.ownMethod "A" "p").bind (·.declaredType) = some "Error" ∧
      chainedCalls.qualify "Error" = some "java.lang.Error" ∧
      chainedCalls.fullHierarchy.direct "java.lang.Error" = ["java.lang.Throwable"] := by
  decide +kernel

/-- The chain starts at a variable of the type `A`. -/
theorem hasVariableType_chainedCalls : chainedCalls.HasVariableType 32 "A" := by
  obtain ⟨⟨hidentifier, htype⟩, -⟩ := chainedCalls_nodes
  obtain ⟨s, hs, htype⟩ := Option.bind_eq_some_iff.1 htype
  exact ⟨hidentifier, ⟨s, (reference?_of_identifier hidentifier).trans hs, htype⟩, by decide⟩

/-- Two calls, one of them in parentheses, lead to the object of the third. -/
theorem callChain_chainedCalls :
    chainedCalls.CallChain 32 ["p", "getCause"] 28 ∧ chainedCalls.IsCallOn 28 "x" 27 := by
  obtain ⟨⟨hvariable, -⟩, ⟨⟨htype₁, hname₁, hobject₁⟩, ⟨htype₂, hname₂, hobject₂⟩,
    ⟨htype₃, hname₃, hobject₃⟩, hparen, hinside⟩, -⟩ := chainedCalls_nodes
  have hunwrap : chainedCalls.tree.unwrap 29 = some 31 := by
    rw [unwrap_of_isParen hparen, hinside]
    exact unwrap_eq_self (by rw [htype₁]; decide)
  have hfirst : chainedCalls.IsCallOn 32 "p" 31 :=
    ⟨htype₁, hname₁, 32, hobject₁, unwrap_eq_self (by rw [hvariable]; decide)⟩
  have hlast : chainedCalls.IsCallOn 28 "x" 27 :=
    ⟨htype₃, hname₃, 28, hobject₃, unwrap_eq_self (by rw [htype₂]; decide)⟩
  exact ⟨.call (.call .nil hfirst) ⟨htype₂, hname₂, 29, hobject₂, hunwrap⟩, hlast⟩

/-- The first call has the type that the unit declares, the second one the type that is listed for a
supertype. -/
theorem typeAlong_chainedCalls :
    chainedCalls.TypeAlong "A" ["p", "getCause"] "java.lang.Throwable" := by
  obtain ⟨hends, hcause, hlisted⟩ :
      (∀ entry ∈ Catalogue.returnTypes, entry.1.toByteArray.data.toList.getLast? ≠ some 112) ∧
      Catalogue.returnType? ("java.lang.Error" ++ "." ++ "getCause") = none ∧
      Catalogue.returnType? ("java.lang.Throwable" ++ "." ++ "getCause") =
        some "java.lang.Throwable" := by
    decide
  obtain ⟨-, -, hmethod, hqualify, hdirect⟩ := chainedCalls_nodes
  obtain ⟨s, hs, hwritten⟩ := Option.bind_eq_some_iff.1 hmethod
  -- no method of the catalogue has a name with this last letter, which is byte 112
  have hunlisted : ∀ a, Catalogue.returnType? (a ++ "." ++ "p") = none := by
    intro a
    have hletter : "p".toByteArray.data.toList = [112] := by decide
    refine List.lookup_eq_none_iff.2 fun entry hentry => ?_
    rw [bne_iff_ne]
    intro hkey
    refine hends entry hentry ?_
    rw [← hkey, String.toByteArray_append, ByteArray.data_append, Array.toList_append, hletter,
      List.getLast?_concat]
  have hfirst : chainedCalls.Returns "A" "p" "java.lang.Error" := by
    refine .declared (fun a _ => hunlisted a) ?_ hwritten hqualify
    rw [methodOf, Hierarchy.lineage_eq_cons, List.findSome?_cons, hs]
  have hlineage : ∃ farther, chainedCalls.fullHierarchy.lineage "java.lang.Error" =
      ["java.lang.Error"] ++ "java.lang.Throwable" :: farther := by
    rw [Hierarchy.lineage_eq_cons, hdirect, Hierarchy.visit, if_neg (by decide)]
    exact ⟨_, rfl⟩
  obtain ⟨farther, hlineage⟩ := hlineage
  refine .call (.call .nil hfirst) (.listed hlineage (fun a ha => ?_) hlisted)
  rw [List.mem_singleton.1 ha]
  exact hcause

/-- The third call is a method of the type that two calls lead to. -/
theorem target_of_chainedCalls :
    chainedCalls.HasVariableType 32 "A" ∧ chainedCalls.CallChain 32 ["p", "getCause"] 28 ∧
      chainedCalls.IsCallOn 28 "x" 27 ∧
      chainedCalls.TypeAlong "A" ["p", "getCause"] "java.lang.Throwable" ∧
      chainedCalls.callTarget 27 = some ⟨"java.lang.Throwable", "x"⟩ := by
  obtain ⟨hchain, hcall⟩ := callChain_chainedCalls
  obtain ⟨htarget, -, -⟩ :=
    call_chain_resolved_up_to_bound hasVariableType_chainedCalls hchain hcall
  exact ⟨hasVariableType_chainedCalls, hchain, hcall, typeAlong_chainedCalls,
    (htarget _).2 ⟨by decide, _, typeAlong_chainedCalls, rfl⟩⟩

end CompilationUnit

end JavaAudit
