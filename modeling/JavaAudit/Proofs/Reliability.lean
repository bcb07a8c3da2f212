import JavaAudit.Proofs.SufficientRoom
import JavaAudit.Proofs.Traversal

/-!
# Built-in rules give up for lack of room only

A rule may give up on a node, because it needs a part that the node does not have, because its message has a
slot that it does not fill, or because its calls nest too deep. Of the built-in rules only the last happens.
Each settles on an answer, so that it decides unless there is no room (`decides_or_lacks_room`), and where it
fires, this tells what its message needs: a call that reaches a sink has a name, since nothing else has a
target (`fieldText?_name_of_callTarget`), what was asked for to decide can be asked for again, and every message
that a rule can choose has only slots that it fills (`speaks`).

Hence an audit with built-in rules has one finding for every visit in which a rule fires and one warning for
every visit in which there was no room, and no warning at all in a unit that fits (`CompilationUnit.Fits`).
-/

namespace JavaAudit

/-! ## Filling templates -/

namespace Template

/-- The piece is text, or a slot that values under these names can fill. -/
def canFill (names : List String) : Piece → Bool
  | .text _ => true
  | .slot name => isSlotName name && names.contains name

/-- Values under these names can fill every slot. -/
def isFilledBy (names : List String) (t : Template) : Bool := t.all (canFill names)

variable {values : List (String × String)}

theorem fillPiece_eq_ok {piece : Piece} (h : canFill (values.map (·.1)) piece = true) :
    ∃ text, fillPiece values piece = .ok text := by
  cases piece with
  | text s => exact ⟨s, rfl⟩
  | slot name =>
    rw [canFill, Bool.and_eq_true] at h
    obtain ⟨entry, hentry, rfl⟩ := List.mem_map.1 (List.contains_iff_mem.1 h.2)
    have hsome : (values.lookup entry.1).isSome = true :=
      List.lookup_isSome_iff.2 ⟨entry, hentry, beq_self_eq_true _⟩
    obtain ⟨v, hv⟩ := Option.isSome_iff_exists.1 hsome
    refine ⟨v, ?_⟩
    rw [fillPiece, if_pos h.1, hv]

theorem mapM_fillPiece_eq_ok {t : Template} (h : t.isFilledBy (values.map (·.1)) = true) :
    ∃ texts, t.mapM (fillPiece values) = .ok texts := by
  induction t with
  | nil => exact ⟨[], rfl⟩
  | cons piece rest ih =>
    rw [isFilledBy, List.all_cons, Bool.and_eq_true] at h
    obtain ⟨text, htext⟩ := fillPiece_eq_ok h.1
    obtain ⟨texts, htexts⟩ := ih h.2
    refine ⟨text :: texts, ?_⟩
    rw [List.mapM_cons, htext, htexts]
    rfl

/-- A template is filled once all its slots have values. -/
theorem fill_eq_ok {t : Template} (h : t.isFilledBy (values.map (·.1)) = true) :
    ∃ message, t.fill values = .ok message := by
  obtain ⟨texts, htexts⟩ := mapM_fillPiece_eq_ok h
  refine ⟨String.join texts, ?_⟩
  rw [fill, htexts]
  rfl

end Template

/-! ## Rules that keep to their word -/

namespace Rule

variable {r : Rule} {u : CompilationUnit} {n : Nat}

/-- Has the rule a template for this wording that needs no slots but these and the excerpt? -/
def speaks (r : Rule) (wording : String) (slots : List String) : Bool :=
  match r.template wording with
  | .ok t => t.isFilledBy (slots ++ ["code"])
  | .error _ => false

/-- A message is the template that the rule chooses, filled with the values that it has. -/
theorem describe_eq (r : Rule) (u : CompilationUnit) (n : NodeId) :
    r.describe u n = (do
      let template ← r.template (r.wording u n)
      let values ← r.details u n
      template.fill (values ++ [("code", u.tree.snippet n)])) := by
  unfold describe phrase
  cases r.template (r.wording u n) with
  | error fault => rfl
  | ok template =>
    refine (Inquiry.afresh_bind u (r.filling u n callDepth) fun values => .ofExcept
      (template.fill (values ++ [("code", u.tree.snippet n)]))).trans ?_
    simp only [Inquiry.afresh_ofExcept]
    rfl

theorem describe_eq_ok {values : List (String × String)} (hvalues : r.details u n = .ok values)
    (h : r.speaks (r.wording u n) (values.map (·.1)) = true) :
    ∃ message, r.describe u n = .ok message := by
  unfold speaks at h
  split at h
  · next t ht =>
    have hfilled : t.isFilledBy ((values ++ [("code", u.tree.snippet n)]).map (·.1)) = true := by
      rw [List.map_append]
      exact h
    obtain ⟨message, hmessage⟩ := Template.fill_eq_ok hfilled
    refine ⟨message, ?_⟩
    rw [describe_eq, ht, hvalues]
    exact hmessage
  · cases h

/-- Without the values there is no message. -/
theorem describe_eq_error {fault : RuleFault} (h : r.details u n = .error fault) :
    ∃ fault', r.describe u n = .error fault' := by
  rw [describe_eq, h]
  cases r.template (r.wording u n) with
  | error fault' => exact ⟨fault', rfl⟩
  | ok t => exact ⟨fault, rfl⟩

/-- Where the rule fires at a node of one of its kinds, it has the values for its message and the message
itself. -/
def Explains (r : Rule) : Prop :=
  ∀ u n, (u.tree.kind? n).any r.kinds.contains = true → r.fires u n = .ok true →
    (∃ values, r.details u n = .ok values) ∧ ∃ message, r.describe u n = .ok message

/-- To explain its findings it is enough that a rule has values that its wording can be filled with. -/
theorem Explains.of_speaks
    (h : ∀ u n kind, u.tree.kind? n = some kind → kind ∈ r.kinds → r.fires u n = .ok true →
      ∃ values, r.details u n = .ok values ∧
        r.speaks (r.wording u n) (values.map (·.1)) = true) : r.Explains := by
  intro u n hkind hfired
  obtain ⟨kind, hn, hmem⟩ := (Option.any_eq_true _ _).1 hkind
  obtain ⟨values, hvalues, hspeaks⟩ := h u n kind hn (List.contains_iff_mem.1 hmem) hfired
  exact ⟨⟨values, hvalues⟩, describe_eq_ok hvalues hspeaks⟩

end Rule

/-! ## What an answer tells -/

section Answers

variable {u : CompilationUnit} {α β : Type} {room : Nat}

/-- Two questions in turn are answered if each of them is. -/
theorem Asking.bind_eq_ok_iff {x : Asking α} {f : α → Asking β} {b : β} :
    ((x >>= f) room).afresh u = .ok b ↔
      ∃ a, (x room).afresh u = .ok a ∧ (f a room).afresh u = .ok b := by
  have hbind : ((x >>= f) room).afresh u = (x room).afresh u >>= fun a => (f a room).afresh u :=
    Inquiry.afresh_bind u (x room) fun a => f a room
  rw [hbind]
  cases (x room).afresh u with
  | error fault => exact ⟨nofun, nofun⟩
  | ok a => exact ⟨fun h => ⟨a, rfl, h⟩, fun ⟨_, ha, h⟩ => Except.ok.inj ha ▸ h⟩

/-- Where an answer is given it is the settled one. -/
theorem Settles.eq_of_ok {need : Nat} {x : Asking α} {a b : α} (h : Settles u need x a)
    (hb : (x room).afresh u = .ok b) : b = a := by
  rcases h room with hok | ⟨herror, -⟩
  · exact Except.ok.inj (hb.symm.trans hok)
  · cases hb.symm.trans herror

/-- What is found first was asked about. -/
theorem Asking.ok_of_findM? {p : α → Asking Bool} {l : List α} {a : α}
    (h : ((l.findM? p) room).afresh u = .ok (some a)) : (p a room).afresh u = .ok true := by
  induction l with
  | nil => cases h
  | cons b rest ih =>
    rw [List.findM?] at h
    obtain ⟨found, hb, hrest⟩ := bind_eq_ok_iff.1 h
    cases found with
    | false => exact ih hrest
    | true =>
      obtain rfl : b = a := Option.some.inj (Except.ok.inj hrest)
      exact hb

end Answers

/-! ## Calls that reach a sink have a name -/

theorem NodeKind.eq_of_ofType?_eq_call {type : String} (h : ofType? type = some .call) :
    type = "method_invocation" := by
  unfold ofType? at h
  split at h
  · cases h
  split at h
  · cases h
  split at h
  · rfl
  all_goals cases h

theorem SyntaxTree.type_of_kind?_eq_call {t : SyntaxTree} {n : Nat} (h : t.kind? n = some .call) :
    t.type n = "method_invocation" :=
  NodeKind.eq_of_ofType?_eq_call (ofType?_of_kind? h)

namespace CompilationUnit

variable {u : CompilationUnit} {n : Nat} {sinks : List String}

/-- A call has a target only if it has a name. -/
theorem fieldText?_name_of_callTarget {c : CallTarget} (htype : u.tree.type n = "method_invocation")
    (h : u.callTarget n = some c) : ∃ name, u.tree.fieldText? n "name" = some name := by
  have hparen : u.tree.isParen n = false := by
    rw [SyntaxTree.isParen, htype]
    rfl
  unfold callTarget inferenceDepth at h
  rw [callTargetWithin, SyntaxTree.unwrap_of_not_isParen hparen, Option.bind_some, htype] at h
  simp only [String.reduceEq, if_false, if_true, Option.bind_eq_some_iff] at h
  obtain ⟨name, hname, -⟩ := h
  exact ⟨name, hname⟩

/-- A call of a sink has a name to put into the message. -/
theorem requireText_name_of_isSink (hkind : u.tree.kind? n = some .call)
    (h : u.isSink sinks n = true) : ∃ name, u.requireText n "name" = .ok name := by
  obtain ⟨c, hc⟩ := Option.isSome_iff_exists.1 h
  have htarget : u.callTarget n = some c := (Option.filter_eq_some_iff.1 hc).1
  obtain ⟨name, hname⟩ :=
    fieldText?_name_of_callTarget (SyntaxTree.type_of_kind?_eq_call hkind) htarget
  refine ⟨name, ?_⟩
  rw [requireText, hname]

/-- A sink that was asked for is one, and its target can be asked for. -/
theorem isSink_of_askSink {room : Nat} (h : ((u.askSink sinks n) room).afresh u = .ok true) :
    u.isSink sinks n = true ∧ ∃ target, ((u.askSinkTarget sinks n) room).afresh u = .ok (some target) := by
  obtain ⟨need, href⟩ := u.exists_settles_askReference
  refine ⟨((settles_askSink href sinks n).eq_of_ok h).symm, ?_⟩
  obtain ⟨target, htarget, hsome⟩ := Asking.bind_eq_ok_iff.1 h
  obtain ⟨c, rfl⟩ := Option.isSome_iff_exists.1 (Except.ok.inj hsome)
  exact ⟨c, htarget⟩

end CompilationUnit

/-! ## The nine rules -/

namespace Rule

variable {u : CompilationUnit} {n : Nat}

theorem explains_fastjsonDeserialization : fastjsonDeserialization.Explains := by
  refine .of_speaks fun u n kind hkind hmem hfires => ?_
  obtain rfl : kind = .call := List.mem_singleton.1 hmem
  obtain ⟨hsink, -⟩ := CompilationUnit.isSink_of_askSink hfires
  obtain ⟨name, hname⟩ := CompilationUnit.requireText_name_of_isSink hkind hsink
  refine ⟨[("method", name)], ?_, ?_⟩
  · unfold details fastjsonDeserialization
    dsimp only
    rw [hname]
    rfl
  · show fastjsonDeserialization.speaks
      (if enablesAutoType u n then "autotype" else defaultWording) ["method"] = true
    split
    · decide
    · decide

/-- Without a name the rule has no values, which is where it does not fire. -/
theorem details_fastjsonDeserialization_of_nameless (h : u.tree.fieldText? n "name" = none) :
    fastjsonDeserialization.details u n = .error (.missingPart "name") := by
  unfold details fastjsonDeserialization
  dsimp only
  rw [CompilationUnit.requireText, h]
  rfl

theorem explains_javaDeserialization : javaDeserialization.Explains := by
  refine .of_speaks fun u n kind hkind hmem hfires => ?_
  obtain rfl : kind = .call := List.mem_singleton.1 hmem
  obtain ⟨hsink, target, htarget⟩ := CompilationUnit.isSink_of_askSink hfires
  obtain ⟨name, hname⟩ := CompilationUnit.requireText_name_of_isSink hkind hsink
  have hspeaks : javaDeserialization.speaks defaultWording ["method", "owner"] = true := by decide
  refine ⟨[("method", name), ("owner", TypeName.simple target.owner)], ?_, hspeaks⟩
  refine Asking.bind_eq_ok_iff.2 ⟨some target, htarget, ?_⟩
  rw [hname]
  rfl

/-- The wording depends on whether a call or a concatenation is reported, and each is filled. -/
theorem explains_sqlInjection : sqlInjection.Explains := by
  refine .of_speaks fun u n kind hkind hmem _ => ⟨SqlInjection.details u n, rfl, ?_⟩
  show sqlInjection.speaks (SqlInjection.wording u n) ((SqlInjection.details u n).map (·.1)) = true
  unfold SqlInjection.wording SqlInjection.details
  rw [hkind]
  have hkinds : kind ∈ [NodeKind.call, .binary, .annotationUse] := hmem
  simp only [List.mem_cons, List.not_mem_nil, or_false] at hkinds
  rcases hkinds with rfl | rfl | rfl
  · show sqlInjection.speaks "call" ["method"] = true
    decide
  · show sqlInjection.speaks defaultWording [] = true
    decide
  · show sqlInjection.speaks "annotation" ["annotation"] = true
    decide

/-- The rule for commands fires at sinks only. -/
theorem CommandInjection.askSink_of_matching {room : Nat}
    (h : ((CommandInjection.matching u n) room).afresh u = .ok true) :
    ((u.askSink CommandInjection.sinks n) room).afresh u = .ok true := by
  unfold CommandInjection.matching at h
  split at h
  · cases h
  · obtain ⟨sink, hsink, h⟩ := Asking.bind_eq_ok_iff.1 h
    cases sink with
    | false => cases h
    | true => exact hsink

theorem explains_commandInjection : commandInjection.Explains := by
  refine .of_speaks fun u n kind hkind hmem hfires => ?_
  have hspeaks : commandInjection.speaks defaultWording ["target"] = true := by decide
  suffices hdetails : ∃ target, commandInjection.details u n = .ok [("target", target)] by
    obtain ⟨target, htarget⟩ := hdetails
    exact ⟨_, htarget, hspeaks⟩
  -- only a call needs a name, an object creation is named by its type
  unfold details commandInjection
  dsimp only
  unfold CommandInjection.filling
  rw [hkind]
  have hkinds : kind ∈ [NodeKind.call, .construction] := hmem
  simp only [List.mem_cons, List.not_mem_nil, or_false] at hkinds
  rcases hkinds with rfl | rfl
  · obtain ⟨hsink, target, htarget⟩ :=
      CompilationUnit.isSink_of_askSink (CommandInjection.askSink_of_matching hfires)
    obtain ⟨name, hname⟩ := CompilationUnit.requireText_name_of_isSink hkind hsink
    rw [if_neg (by decide), hname]
    exact ⟨_, Asking.bind_eq_ok_iff.2 ⟨some target, htarget, rfl⟩⟩
  · rw [if_pos rfl]
    exact ⟨_, rfl⟩

theorem FirstArgument.askSink_of_matching {sinks : List String} {room : Nat}
    (h : ((FirstArgument.matching u sinks n) room).afresh u = .ok true) :
    ((u.askSink sinks n) room).afresh u = .ok true := by
  unfold FirstArgument.matching at h
  cases harg : (u.tree.arguments n).head? with
  | none =>
    rw [harg] at h
    cases h
  | some arg =>
    rw [harg] at h
    obtain ⟨sink, hsink, h⟩ := Asking.bind_eq_ok_iff.1 h
    cases sink with
    | false => cases h
    | true => exact hsink

theorem explains_pathTraversal : pathTraversal.Explains := by
  refine .of_speaks fun u n kind hkind hmem hfires => ?_
  have hspeaks : pathTraversal.speaks defaultWording ["argument", "target"] = true := by decide
  suffices htarget : ∃ target, pathTarget u n = .ok target by
    obtain ⟨target, htarget⟩ := htarget
    refine ⟨[("argument", FirstArgument.excerpt u n), ("target", target)], ?_, hspeaks⟩
    unfold details pathTraversal
    dsimp only
    rw [htarget]
    rfl
  unfold pathTarget
  rw [hkind]
  have hkinds : kind ∈ [NodeKind.construction, .call] := hmem
  simp only [List.mem_cons, List.not_mem_nil, or_false] at hkinds
  rcases hkinds with rfl | rfl
  · rw [if_pos rfl]
    exact ⟨_, rfl⟩
  · obtain ⟨hsink, -⟩ := CompilationUnit.isSink_of_askSink (FirstArgument.askSink_of_matching hfires)
    obtain ⟨name, hname⟩ := CompilationUnit.requireText_name_of_isSink hkind hsink
    rw [if_neg (by decide), hname]
    exact ⟨_, rfl⟩

theorem explains_unsafeUrlCreation : unsafeUrlCreation.Explains := by
  refine .of_speaks fun u n kind _ _ _ => ⟨[("argument", FirstArgument.excerpt u n)], rfl, ?_⟩
  show unsafeUrlCreation.speaks defaultWording ["argument"] = true
  decide

/-- The type of a leaking variable was asked for to find it, so it can be asked for again. -/
theorem ResourceLeak.exists_askVariableType {room : Nat} {symbol : Symbol}
    (h : ((ResourceLeak.askLeakingVariable u n) room).afresh u = .ok (some symbol)) :
    ∃ type, ((ResourceLeak.askVariableType u symbol) room).afresh u = .ok type := by
  unfold ResourceLeak.askLeakingVariable at h
  cases hscope : ResourceLeak.scope? u n with
  | none =>
    rw [hscope] at h
    cases h
  | some scope =>
    rw [hscope] at h
    dsimp only at h
    split at h
    · cases h
    · have hleaks := Asking.ok_of_findM? h
      unfold ResourceLeak.askLeaks at hleaks
      obtain ⟨type, htype, -⟩ := Asking.bind_eq_ok_iff.1 hleaks
      exact ⟨type, htype⟩

theorem explains_resourceLeak : resourceLeak.Explains := by
  refine .of_speaks fun u n kind hkind hmem hfires => ?_
  have hmatching : ((ResourceLeak.matching u n) callDepth).afresh u = .ok true := hfires
  show ∃ values, ((ResourceLeak.filling u n) callDepth).afresh u = .ok values ∧
    resourceLeak.speaks (ResourceLeak.wording u n) (values.map (·.1)) = true
  unfold ResourceLeak.matching at hmatching
  unfold ResourceLeak.filling ResourceLeak.wording
  rw [hkind] at hmatching ⊢
  -- each kind has a wording of its own, whose values were found while the rule decided
  have hkinds : kind ∈ [NodeKind.declaration, .call] := hmem
  simp only [List.mem_cons, List.not_mem_nil, or_false] at hkinds
  rcases hkinds with rfl | rfl
  · obtain ⟨found, hfound, hsome⟩ := Asking.bind_eq_ok_iff.1 hmatching
    obtain ⟨symbol, rfl⟩ := Option.isSome_iff_exists.1 (Except.ok.inj hsome)
    obtain ⟨type, htype⟩ := ResourceLeak.exists_askVariableType hfound
    have hspeaks : resourceLeak.speaks defaultWording ["variable", "type"] = true := by decide
    rw [if_neg (by decide), if_neg (by decide)]
    exact ⟨_, Asking.bind_eq_ok_iff.2 ⟨some symbol, hfound,
      Asking.bind_eq_ok_iff.2 ⟨type, htype, rfl⟩⟩, hspeaks⟩
  · obtain ⟨found, hfound, -⟩ := Asking.bind_eq_ok_iff.1 hmatching
    have hspeaks : resourceLeak.speaks "close_quietly" ["owner"] = true := by decide
    rw [if_pos rfl, if_pos rfl]
    exact ⟨_, Asking.bind_eq_ok_iff.2 ⟨found, hfound, rfl⟩, hspeaks⟩

theorem explains_informationLeak : informationLeak.Explains := by
  refine .of_speaks fun u n kind hkind hmem hfires => ?_
  have hmatching : ((InformationLeak.matching u n) callDepth).afresh u = .ok true := hfires
  have hspeaks : informationLeak.speaks defaultWording ["method"] = true := by decide
  suffices hdetails : ∃ name, informationLeak.details u n = .ok [("method", name)] by
    obtain ⟨name, hname⟩ := hdetails
    exact ⟨_, hname, hspeaks⟩
  unfold InformationLeak.matching at hmatching
  unfold details informationLeak
  dsimp only
  unfold InformationLeak.filling
  rw [hkind] at hmatching ⊢
  have hkinds : kind ∈ [NodeKind.returning, .call] := hmem
  simp only [List.mem_cons, List.not_mem_nil, or_false] at hkinds
  rcases hkinds with rfl | rfl
  · obtain ⟨found, hfound, -⟩ := Asking.bind_eq_ok_iff.1 hmatching
    rw [if_neg (by decide)]
    exact ⟨_, Asking.bind_eq_ok_iff.2 ⟨found, hfound, rfl⟩⟩
  · rw [if_pos rfl]
    exact ⟨_, rfl⟩

theorem explains_insecureRandom : insecureRandom.Explains := by
  refine .of_speaks fun u n kind _ _ _ => ⟨[], rfl, ?_⟩
  show insecureRandom.speaks defaultWording [] = true
  decide

/-- Every built-in rule explains its findings. -/
theorem explains_of_mem_builtin {r : Rule} (h : r ∈ builtin) : r.Explains := by
  simp only [builtin, List.mem_cons, List.not_mem_nil, or_false] at h
  rcases h with rfl | rfl | rfl | rfl | rfl | rfl | rfl | rfl | rfl
  · exact explains_fastjsonDeserialization
  · exact explains_javaDeserialization
  · exact explains_sqlInjection
  · exact explains_commandInjection
  · exact explains_pathTraversal
  · exact explains_unsafeUrlCreation
  · exact explains_resourceLeak
  · exact explains_informationLeak
  · exact explains_insecureRandom

/-- A built-in rule decides about every node, unless the unit does not fit and there is no room. -/
theorem decides_or_lacks_room {r : Rule} (h : r ∈ builtin) (u : CompilationUnit) (n : NodeId) :
    (∃ fired, r.fires u n = .ok fired) ∨ r.fires u n = .error .stackExhausted ∧ ¬ u.Fits := by
  obtain ⟨fired, hmeans⟩ := exists_means h u n
  exact hmeans.fires_eq.imp_left fun hok => ⟨fired, hok⟩

/-- Does the rule fire at a node, as far as it decides? -/
def firesAt (r : Rule) (u : CompilationUnit) (n : NodeId) : Bool :=
  match r.fires u n with
  | .ok fired => fired
  | .error _ => false

theorem firesAt_eq_true_iff {r : Rule} : r.firesAt u n = true ↔ r.fires u n = .ok true := by
  unfold firesAt
  cases r.fires u n <;> simp

/-- The message for a node, empty if there is none. -/
def messageAt (r : Rule) (u : CompilationUnit) (n : NodeId) : String :=
  match r.describe u n with
  | .ok message => message
  | .error _ => ""

/-- Does the rule give up on a node for lack of room? -/
def lacksRoomAt (r : Rule) (u : CompilationUnit) (n : NodeId) : Bool :=
  match r.fires u n with
  | .error .stackExhausted => true
  | _ => false

/-- Where a built-in rule is shown a node of one of its kinds, it has a finding with its message exactly if
it fires, and it gives up exactly if there is no room. -/
theorem visit_of_mem_builtin {r : Rule} (h : r ∈ builtin)
    (hkind : (u.tree.kind? n).any r.kinds.contains = true) :
    (r.finding? u n =
        if r.firesAt u n then some (Finding.ofMatch r u n (r.messageAt u n)) else none) ∧
      r.warning? u n = if r.lacksRoomAt u n then some (r.skipRecord u n) else none := by
  unfold warning? givesUp finding? firesAt messageAt lacksRoomAt
  rcases decides_or_lacks_room h u n with ⟨fired, hfired⟩ | ⟨hfired, -⟩
  · cases fired with
    | false =>
      rw [hfired]
      exact ⟨rfl, rfl⟩
    | true =>
      obtain ⟨-, message, hmessage⟩ := explains_of_mem_builtin h u n hkind hfired
      rw [hfired, hmessage]
      exact ⟨rfl, rfl⟩
  · rw [hfired]
    exact ⟨rfl, rfl⟩

/-- Where there is room for every rule, no built-in rule gives up. -/
theorem not_lacksRoomAt_of_fits {r : Rule} (h : r ∈ builtin) (hfits : u.Fits) :
    r.lacksRoomAt u n = false := by
  unfold lacksRoomAt
  rcases decides_or_lacks_room h u n with ⟨fired, hfired⟩ | ⟨-, hnot⟩
  · rw [hfired]
  · exact absurd hfits hnot

end Rule

/-! ## Audits with built-in rules -/

theorem filterMap_ite {α β : Type} (p : α → Bool) (f : α → β) (l : List α) :
    l.filterMap (fun a => if p a then some (f a) else none) = (l.filter p).map f := by
  rw [← List.filterMap_eq_map, List.filterMap_filter]
  simp

namespace Registry

variable {reg : Registry} {u : CompilationUnit}

theorem of_mem_visits {v : NodeId × Rule} (h : v ∈ reg.visits u) :
    v.2 ∈ reg.rules ∧ (u.tree.kind? v.1).any v.2.kinds.contains = true :=
  (mem_visits_iff.1 h).2

/-- The visits in which the rule fires. -/
def hits (reg : Registry) (u : CompilationUnit) : List (NodeId × Rule) :=
  (reg.visits u).filter fun v => v.2.firesAt u v.1

/-- The visits in which there is no room for the rule. -/
def misses (reg : Registry) (u : CompilationUnit) : List (NodeId × Rule) :=
  (reg.visits u).filter fun v => v.2.lacksRoomAt u v.1

section Builtin

variable (hreach : reg.Reachable) (hbuiltin : ∀ r ∈ reg.rules, r ∈ Rule.builtin)

include hbuiltin

/-- A visit ends in a finding, in a record that the rule gave up, or in nothing. -/
theorem visit_of_mem_visits {v : NodeId × Rule} (h : v ∈ reg.visits u) :
    (v.2.finding? u v.1 =
        if v.2.firesAt u v.1 then some (Finding.ofMatch v.2 u v.1 (v.2.messageAt u v.1)) else none) ∧
      v.2.warning? u v.1 = if v.2.lacksRoomAt u v.1 then some (v.2.skipRecord u v.1) else none := by
  obtain ⟨hrule, hkind⟩ := of_mem_visits h
  exact Rule.visit_of_mem_builtin (hbuiltin v.2 hrule) hkind

/-- In a hit the message is the one that the rule gives. -/
theorem describe_of_mem_hits {v : NodeId × Rule} (hv : v ∈ reg.hits u) :
    v.2.describe u v.1 = .ok (v.2.messageAt u v.1) := by
  obtain ⟨hvisit, hfires⟩ := List.mem_filter.1 hv
  obtain ⟨hrule, hkind⟩ := of_mem_visits hvisit
  have hfired : v.2.fires u v.1 = .ok true := Rule.firesAt_eq_true_iff.1 hfires
  obtain ⟨-, message, hmessage⟩ := Rule.explains_of_mem_builtin (hbuiltin v.2 hrule) u v.1 hkind hfired
  rw [Rule.messageAt, hmessage]

theorem misses_of_fits (hfits : u.Fits) : reg.misses u = [] := by
  refine List.filter_eq_nil_iff.2 fun v hv => ?_
  rw [Rule.not_lacksRoomAt_of_fits (hbuiltin v.2 (of_mem_visits hv).1) hfits]
  exact Bool.false_ne_true

include hreach

/-- The findings are the hits with their messages, in the order of the visits. -/
theorem findings_of_builtin (u : CompilationUnit) :
    (reg.audit u).findings =
      (reg.hits u).map fun v => Finding.ofMatch v.2 u v.1 (v.2.messageAt u v.1) := by
  rw [findings_audit hreach, hits, ← filterMap_ite]
  exact List.filterMap_congr fun v hv => (visit_of_mem_visits hbuiltin hv).1

/-- The log holds one record for each miss. -/
theorem log_of_builtin (u : CompilationUnit) :
    (reg.audit u).log = (reg.misses u).map fun v => v.2.skipRecord u v.1 := by
  rw [log_audit hreach, misses, ← filterMap_ite]
  exact List.filterMap_congr fun v hv => (visit_of_mem_visits hbuiltin hv).2

end Builtin

/-- The source `new java.util.Random();`. -/
def newRandom : CompilationUnit :=
  .ofTree "Random.java" (.ofNodes "new java.util.Random();" #[
    ⟨none, "program", true, false, 0, 23, none⟩,
    ⟨some 0, "expression_statement", true, false, 0, 23, none⟩,
    ⟨some 1, "object_creation_expression", true, false, 0, 22, none⟩,
    ⟨some 2, "new", false, false, 0, 3, none⟩,
    ⟨some 2, "scoped_type_identifier", true, false, 4, 20, some "type"⟩,
    ⟨some 4, "scoped_type_identifier", true, false, 4, 13, none⟩,
    ⟨some 5, "type_identifier", true, false, 4, 8, none⟩,
    ⟨some 5, ".", false, false, 8, 9, none⟩,
    ⟨some 5, "type_identifier", true, false, 9, 13, none⟩,
    ⟨some 4, ".", false, false, 13, 14, none⟩,
    ⟨some 4, "type_identifier", true, false, 14, 20, none⟩,
    ⟨some 2, "argument_list", true, false, 20, 22, some "arguments"⟩,
    ⟨some 11, "(", false, false, 20, 21, none⟩,
    ⟨some 11, ")", false, false, 21, 22, none⟩,
    ⟨some 1, ";", false, false, 22, 23, none⟩])

theorem fits_newRandom : newRandom.Fits := CompilationUnit.fits_of_no_types (by decide) (by decide)

theorem fires_newRandom : Rule.insecureRandom.fires newRandom 2 = .ok true := by decide +kernel

end Registry

end JavaAudit
