import JavaAudit.CompilationUnit.Recollection

/-!
# Inquiries

A rule decides about a node by asking what names mean, and what it asks next depends on the answers. An
`Inquiry` is such a computation as a tree of questions. It can be answered in two ways: `afresh` looks every
name up, and `recalling` gives the answer of before to a question that was asked before.

While a rule decides, its calls nest, and there is room for `callDepth` of them only. Most recursions of a rule
are bounded and stay far below that. Two are not: the object of a field access may be a field access again, and
a field may be inherited along many types. An `Asking` is an inquiry that depends on the room that is left, and
fails where there is none.
-/

namespace JavaAudit

/-- Why a rule could not be applied to a node. -/
inductive RuleFault where
  /-- The rule needs a part of the node that is absent. -/
  | missingPart (role : String)
  /-- The template has a slot that the rule does not fill. -/
  | unknownSlot (name : String)
  /-- The template has a brace without its partner. -/
  | unbalancedBrace
  /-- There is no default template. -/
  | noDefaultTemplate
  /-- The rule does not say when it fires. -/
  | undefined
  /-- The rule itself gave up. -/
  | failed (reason : String)
  /-- The calls of the rule nest deeper than there is room for. -/
  | stackExhausted
  deriving DecidableEq, Repr

/-- A computation that asks what names mean at nodes. -/
inductive Inquiry (α : Type) where
  | done (a : α)
  | failed (fault : RuleFault)
  | ask (name : String) (n : NodeId) (next : Option Symbol → Inquiry α)

namespace Inquiry

variable {α β : Type}

/-- Go on with the result of an inquiry. -/
protected def bind : Inquiry α → (α → Inquiry β) → Inquiry β
  | .done a, f => f a
  | .failed fault, _ => .failed fault
  | .ask name n next, f => .ask name n fun answer => (next answer).bind f

instance : Monad Inquiry where
  pure := .done
  bind := Inquiry.bind

def ofExcept : Except RuleFault α → Inquiry α
  | .ok a => .done a
  | .error fault => .failed fault

/-- The result if every name is looked up. -/
def afresh (u : CompilationUnit) : Inquiry α → Except RuleFault α
  | .done a => .ok a
  | .failed fault => .error fault
  | .ask name n next => (next (u.lookup name n)).afresh u

theorem afresh_bind (u : CompilationUnit) (x : Inquiry α) (f : α → Inquiry β) :
    (x >>= f).afresh u = x.afresh u >>= fun a => (f a).afresh u := by
  induction x with
  | done a => rfl
  | failed fault => rfl
  | ask name n next ih => exact ih (u.lookup name n)

theorem afresh_ofExcept (u : CompilationUnit) (x : Except RuleFault α) : (ofExcept x).afresh u = x := by
  cases x <;> rfl

/-- Answer a question from a recollection, which keeps the answer. A node that the tree lacks has no key to be
remembered by. -/
def answer (u : CompilationUnit) (name : String) (n : NodeId) :
    StateM Recollection (Option Symbol) := fun past =>
  if n < u.tree.size then u.consult past name n else (u.lookup name n, past)

/-- The result if questions are answered from a recollection. -/
def recalling (u : CompilationUnit) : Inquiry α → StateM Recollection (Except RuleFault α)
  | .done a => return .ok a
  | .failed fault => return .error fault
  | .ask name n next => do (next (← answer u name n)).recalling u

end Inquiry

/-- How many calls may nest while a rule decides: the interpreter's thousand, less those that are under way
when a rule is asked. -/
def callDepth : Nat := 980

/-- An inquiry that goes by how many calls may still nest. -/
abbrev Asking := ReaderT Nat Inquiry

namespace Asking

variable {α : Type}

def ofExcept (x : Except RuleFault α) : Asking α := fun _ => .ofExcept x

/-- What is asked while `calls` more calls are under way. -/
def nested (calls : Nat) (x : Asking α) : Asking α := fun room =>
  if calls ≤ room then x (room - calls) else .failed .stackExhausted

/-- Does what is there have a property? -/
def holds {β : Type} (p : β → Asking Bool) : Option β → Asking Bool
  | none => pure false
  | some b => p b

variable (u : CompilationUnit)

/-- Ask what a name means at a node. Each type on the way to an inherited field takes two calls. -/
def lookup (name : String) (n : NodeId) : Asking (Option Symbol) :=
  nested 2 fun room =>
    if (u.lookupWithin (room / 2) name n).isSome then .ask name n .done else .failed .stackExhausted

/-- Search for a field of a type and of what the type inherits from. -/
def field (type name : String) : Asking (Option Symbol) := fun room =>
  match u.fieldWithin name (room / 2) [type] type with
  | some (found, _) => .done found
  | none => .failed .stackExhausted

/-- The field of a type, if there is a type. -/
def member (type : Option String) (name : String) : Asking (Option Symbol) :=
  match type with
  | none => pure none
  | some type => nested 1 (field u type name)

end Asking

end JavaAudit
