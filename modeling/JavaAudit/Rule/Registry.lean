import JavaAudit.Rule.CommandInjection
import JavaAudit.Rule.Deserialization
import JavaAudit.Rule.FirstArgument
import JavaAudit.Rule.InformationLeak
import JavaAudit.Rule.ResourceLeak
import JavaAudit.Rule.SqlInjection

/-!
# Rule registries

A registry holds rules in order of registration, no two with the same id, and beside them the rules
for each kind of node, so that a node is shown only to the rules that look at its kind.

A registry may also be changed in place, by calls that register a rule or remove all rules. What such a
call has changed before it fails stays changed. One registry, the default one, is there for a whole process: it
is made with the built-in rules when it is first asked for, and kept with all that is changed in it.
-/

namespace JavaAudit

namespace Rule

/-- The nine built-in rules in catalogue order. -/
def builtin : List Rule :=
  [fastjsonDeserialization, javaDeserialization, sqlInjection, commandInjection, pathTraversal,
    unsafeUrlCreation, resourceLeak, informationLeak, insecureRandom]

/-- The ids of the built-in rules. -/
def builtinIds : List String := builtin.map (·.id)

end Rule

/-- Why a rule cannot be registered. -/
inductive RegistryError where
  | missingId (rule : String)
  | duplicateId (id : String)
  deriving DecidableEq, Repr

def RegistryError.message : RegistryError → String
  | .missingId rule => "Rule " ++ rule ++ " has no rule_id"
  | .duplicateId id => "Duplicate rule id: " ++ id

/-- Rules in order of registration, with those for each kind of node. -/
structure Registry where
  rules : List Rule
  byKind : List (NodeKind × List Rule)

namespace Registry

def empty : Registry := ⟨[], []⟩

variable (reg : Registry)

/-- The rule with this id. -/
def find? (id : String) : Option Rule := reg.rules.find? (·.id = id)

/-- The rules that look at nodes of a kind, in order of registration. -/
def rulesFor (kind : Option NodeKind) : List Rule :=
  match kind with
  | none => []
  | some k => (Table.get? k reg.byKind).getD []

/-- Enter a rule under one kind. -/
def enter (r : Rule) (table : List (NodeKind × List Rule)) (k : NodeKind) :
    List (NodeKind × List Rule) :=
  Table.put k ((Table.get? k table).getD [] ++ [r]) table

/-- Put a rule behind the others. -/
def add (r : Rule) : Registry where
  rules := reg.rules ++ [r]
  byKind := (NodeKind.all.filter r.kinds.contains).foldl (enter r) reg.byKind

/-- Register a rule. It needs an id that no registered rule has. -/
def register (r : Rule) : Except RegistryError Registry :=
  if r.id = "" then .error (.missingId r.summary)
  else if (reg.find? r.id).isSome then .error (.duplicateId r.id)
  else .ok (reg.add r)

/-- Register rules one after another. -/
def registerAll (rules : List Rule) : Except RegistryError Registry := rules.foldlM register reg

/-! ## Changing a registry in place -/

/-- Computations that change a registry and may fail on the way. -/
abbrev Change := EStateM RegistryError Registry

/-- Register a rule in place: behind the others, and then under its kinds one after another. -/
def enroll (r : Rule) : Change Rule := do
  if r.id = "" then throw (.missingId r.summary)
  if ((← get).find? r.id).isSome then throw (.duplicateId r.id)
  modify fun reg => { reg with rules := reg.rules ++ [r] }
  (NodeKind.all.filter r.kinds.contains).forM fun k =>
    modify fun reg => { reg with byKind := enter r reg.byKind k }
  return r

/-- Remove all rules, from the list and from under their kinds. -/
def clear : Change Unit := do
  modify fun reg => { reg with rules := [] }
  modify fun reg => { reg with byKind := [] }

/-! ## The built-in rules -/

/-- The built-in rules, except the disabled ones. -/
def builtin (disabled : List String) : Registry :=
  (Rule.builtin.filter fun r => !disabled.contains r.id).foldl add empty

/-! ## The default registry -/

/-- The default registry of a process, as far as it has been asked for. -/
abbrev Kept := Option Registry

/-- The default registry: the one that is kept, or else a new one, which is kept from then on. -/
def shared : StateM Kept Registry := fun kept =>
  let reg := kept.getD (builtin [])
  (reg, some reg)

/-- Change the default registry in place. -/
def changeShared {α : Type} (change : Change α) : EStateM RegistryError Kept α := fun kept =>
  match change.run (shared.run kept).1 with
  | .ok a reg => .ok a (some reg)
  | .error e reg => .error e (some reg)

end Registry

end JavaAudit
