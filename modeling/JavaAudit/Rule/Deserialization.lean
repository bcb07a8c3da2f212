import JavaAudit.Rule.Sink

/-!
# Unsafe deserialization

Two rules: objects read from JSON by Fastjson, and objects read from native streams.
-/

namespace JavaAudit.Rule

/-! ## Fastjson -/

def fastjsonSinks : List String :=
  ["com.alibaba.fastjson.JSON.parseObject", "com.alibaba.fastjson.JSON.parse",
    "com.alibaba.fastjson.JSON.parseArray", "com.alibaba.fastjson2.JSON.parseObject",
    "com.alibaba.fastjson2.JSON.parse", "com.alibaba.fastjson2.JSON.parseArray"]

/-- Texts of arguments that let the input choose the class. -/
def autoTypeMarkers : List String :=
  ["SupportAutoType", "setAutoTypeSupport(true)", "autoTypeSupport = true"]

/-- Does an argument let the input choose the class? -/
def enablesAutoType (u : CompilationUnit) (n : NodeId) : Bool :=
  (u.tree.arguments n).any fun arg => autoTypeMarkers.any (Text.contains (u.tree.text arg))

def fastjsonDeserialization : Rule :=
  { plain "FastjsonDeserializationRule" "FASTJSON_DESERIALIZATION" "Fastjson deserialization"
      .critical [.call] fastjsonSinks (·.askSink fastjsonSinks ·) with
    wording := fun u n => if enablesAutoType u n then "autotype" else defaultWording
    filling := fun u n => do return [("method", ← Asking.ofExcept (u.requireText n "name"))] }

/-! ## Native streams -/

def objectStreamSinks : List String :=
  ["java.io.ObjectInputStream.readObject", "java.io.ObjectInputStream.readUnshared",
    "java.beans.XMLDecoder.readObject"]

def javaDeserialization : Rule :=
  { plain "JavaDeserializationRule" "JAVA_DESERIALIZATION" "Java native deserialization"
      .critical [.call] objectStreamSinks (·.askSink objectStreamSinks ·) with
    filling := fun u n => do
      let owner := match ← u.askSinkTarget objectStreamSinks n with
        | some target => TypeName.simple target.owner
        | none => "ObjectInputStream"
      return [("method", ← Asking.ofExcept (u.requireText n "name")), ("owner", owner)] }

end JavaAudit.Rule
