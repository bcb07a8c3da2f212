import JavaAudit.Rule.Basic

/-!
# Wording of the built-in rules

Message templates and advice by rule id. A rule with another id that brings no templates of its own
shows just the excerpt.
-/

namespace JavaAudit.Wording

/-! ## Messages -/

/-- Message templates of the built-in rules. -/
def messages : List (String × List (String × Template)) :=
  [("FASTJSON_DESERIALIZATION",
      [("default",
          [.text "Fastjson ", .slot "method",
            .text "() deserializes untrusted JSON and may lead to remote code execution: ",
            .slot "code"]),
        ("autotype",
          [.text "Fastjson ", .slot "method",
            .text "() is called with AutoType enabled; any class named in the input ",
            .text "can be instantiated, which is remote code execution in practice: ",
            .slot "code"])]),
    ("JAVA_DESERIALIZATION",
      [("default",
          [.slot "method", .text "() deserializes untrusted data with ", .slot "owner",
            .text "; this may lead to remote code execution: ", .slot "code"])]),
    ("SQL_INJECTION",
      [("default",
          [.text "SQL statement built by string concatenation with non-constant input: ",
            .slot "code"]),
        ("call",
          [.slot "method",
            .text "() receives a query built by string concatenation with non-constant input: ",
            .slot "code"]),
        ("annotation",
          [.text "MyBatis @", .slot "annotation",
            .text " uses $\x7b\x7d substitution, which splices raw input into SQL; ",
            .text "use #\x7b\x7d parameters instead: ", .slot "code"])]),
    ("COMMAND_INJECTION",
      [("default",
          [.slot "target", .text " executes a command assembled from non-constant input: ",
            .slot "code"])]),
    ("PATH_TRAVERSAL",
      [("default",
          [.slot "target", .text " opens a path derived from non-constant input (",
            .slot "argument",
            .text "); '../' sequences may escape the intended directory"])]),
    ("UNSAFE_URL_CREATION",
      [("default",
          [.text "new URL() is created from non-constant input (", .slot "argument",
            .text "); this may allow server-side request forgery"])]),
    ("RESOURCE_LEAK",
      [("default",
          [.text "Resource '", .slot "variable", .text "' of type ", .slot "type",
            .text " is neither declared in try-with-resources ",
            .text "nor closed in a finally block"]),
        ("close_quietly",
          [.slot "owner", .text ".closeQuietly() hides failures while releasing resources; ",
            .text "prefer try-with-resources: ", .slot "code"])]),
    ("INFORMATION_LEAK",
      [("default",
          [.text "Exception details from ", .slot "method",
            .text "() are returned to the caller and may expose system internals: ",
            .slot "code"])]),
    ("INSECURE_RANDOM",
      [("default",
          [.text "java.util.Random is predictable and unsuitable for security-sensitive values: ",
            .slot "code"])])]

/-- The templates for a rule id. -/
def templatesFor (id : String) : List (String × Except RuleFault Template) :=
  ((messages.lookup id).getD [(defaultWording, [.slot "code"])]).map fun (name, t) => (name, .ok t)

/-! ## Advice -/

/-- What to do about the findings of the built-in rules. -/
def advices : List (String × String) :=
  [("FASTJSON_DESERIALIZATION",
      "Upgrade to a fastjson release with safeMode enabled or migrate to Jackson/Gson. " ++
      "Never enable AutoType; if a type must be accepted, register an explicit allow-list " ++
      "with ParserConfig.getGlobalInstance().addAccept(\"com.yourcompany.\")."),
    ("JAVA_DESERIALIZATION",
      "Avoid deserializing untrusted streams. If unavoidable, install an ObjectInputFilter " ++
      "(\"com.yourpackage.*;!*\") or override resolveClass() to accept only an allow-list of classes, " ++
      "or exchange data as JSON instead."),
    ("SQL_INJECTION",
      "Use PreparedStatement with ? placeholders, or the parameter binding of your ORM " ++
      "(MyBatis #\x7b\x7d); validate identifiers such as column names against an allow-list."),
    ("COMMAND_INJECTION",
      "Pass the command and its arguments as separate array elements, never through a shell, " ++
      "and validate external values against a strict allow-list (e.g. ^[a-zA-Z0-9._-]+$)."),
    ("PATH_TRAVERSAL",
      "Normalize the path, then verify that it still starts with the allowed base directory; " ++
      "validate file names against an allow-list."),
    ("UNSAFE_URL_CREATION",
      "Validate URLs against an allow-list of hosts, allow only http/https, " ++
      "and reject internal addresses and cloud metadata endpoints."),
    ("RESOURCE_LEAK",
      "Declare the resource in a try-with-resources statement so it is closed on every path."),
    ("INFORMATION_LEAK",
      "Log the exception server-side and return a generic message or error code to the client."),
    ("INSECURE_RANDOM",
      "Use java.security.SecureRandom for tokens, passwords, session ids and keys; " ++
      "UUID.randomUUID() is acceptable for identifiers.")]

/-- The advice for a rule id. -/
def adviceFor (id : String) : String :=
  (advices.lookup id).getD "Review the flagged code against your secure coding guidelines."

end JavaAudit.Wording
