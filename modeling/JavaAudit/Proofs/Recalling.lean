import JavaAudit.Audit.Walk
import JavaAudit.Proofs.Ancestry

/-!
# Remembering the answers changes nothing

The rules of an audit share the answers of their lookups. Where the nodes of a unit have different keys, no rule
notices: a computation that starts from a faithful recollection has the result that it has afresh, and leaves a
faithful recollection behind (`Recalls`). A single question is answered that way (`consult_eq_lookup`,
`faithful_consult`), so every inquiry is, by induction on its questions (`recalls_recalling`). From the inquiries
of single rules this carries over to nodes and to whole audits (`recalls_auditRecalling`), whatever the rules
are and whether they give up or not.
-/

namespace JavaAudit

variable {u : CompilationUnit} {α β : Type}

/-- From every faithful recollection the computation has this result, and it keeps the recollection faithful. -/
def Recalls (u : CompilationUnit) (x : StateM Recollection α) (a : α) : Prop :=
  ∀ past, u.Faithful past → (x past).1 = a ∧ u.Faithful (x past).2

namespace Recalls

theorem pure (a : α) : Recalls u (Pure.pure a) a := fun _ hp => ⟨rfl, hp⟩

/-- Two computations in turn: the second starts from what the first recalls. -/
theorem bind {x : StateM Recollection α} {f : α → StateM Recollection β} {a : α} {b : β}
    (hx : Recalls u x a) (hf : Recalls u (f a) b) : Recalls u (x >>= f) b := by
  intro past hp
  obtain ⟨ha, hpast⟩ := hx past hp
  have hstep : (x >>= f) past = f a (x past).2 := congrArg (fun a => f a (x past).2) ha
  rw [hstep]
  exact hf _ hpast

theorem mapM {f : α → StateM Recollection β} {g : α → β} (h : ∀ a, Recalls u (f a) (g a))
    (l : List α) : Recalls u (l.mapM f) (l.map g) := by
  induction l with
  | nil => exact pure []
  | cons a rest ih =>
    rw [List.mapM_cons]
    exact (h a).bind (ih.bind (pure (g a :: rest.map g)))

end Recalls

variable (hkeys : u.tree.DistinctKeys)

include hkeys

/-- A lookup that is recalled is the one that a lookup afresh would give. -/
theorem recalls_answer (name : String) (n : Nat) :
    Recalls u (Inquiry.answer u name n) (u.lookup name n) := by
  intro past hp
  unfold Inquiry.answer
  by_cases hn : n < u.tree.size
  · rw [if_pos hn]
    exact ⟨CompilationUnit.consult_eq_lookup hp hn, CompilationUnit.faithful_consult hkeys hp hn⟩
  · rw [if_neg hn]
    exact ⟨rfl, hp⟩

/-- An inquiry has the same result whether its questions are answered from a recollection or afresh. -/
theorem recalls_recalling (x : Inquiry α) : Recalls u (x.recalling u) (x.afresh u) := by
  induction x with
  | done a => exact .pure _
  | failed fault => exact .pure _
  | ask name n next ih => exact (recalls_answer hkeys name n).bind (ih _)

/-- A rule that recalls earlier lookups answers as it does afresh. -/
theorem Rule.recalls_auditRecalling (r : Rule) (n : NodeId) :
    Recalls u (r.auditRecalling u n) (r.audit u n) :=
  (recalls_recalling hkeys _).bind (.pure _)

namespace Registry

variable (reg : Registry)

theorem recalls_auditNodeRecalling (n : NodeId) :
    Recalls u (reg.auditNodeRecalling u n) (reg.auditNode u n) :=
  (Recalls.mapM (fun r => r.recalls_auditRecalling hkeys n) _).bind (.pure _)

/-- A walk over the nodes that are left has the same result with recalled lookups as with fresh ones. -/
theorem recalls_auditFromRecalling (pending : List NodeId) :
    Recalls u (reg.auditFromRecalling u pending) (reg.auditFrom u pending) := by
  fun_induction auditFrom reg u pending with
  | case1 =>
    rw [auditFromRecalling]
    exact .pure _
  | case2 n rest herr ih =>
    rw [auditFromRecalling, if_pos herr]
    exact ih
  | case3 n rest herr ih =>
    rw [auditFromRecalling, if_neg herr]
    exact (reg.recalls_auditNodeRecalling hkeys n).bind (ih.bind (.pure _))

/-- An audit that remembers the answers of its lookups is an audit that looks everything up. -/
theorem recalls_auditRecalling : Recalls u (reg.auditRecalling u) (reg.audit u) :=
  reg.recalls_auditFromRecalling hkeys _

end Registry

end JavaAudit
