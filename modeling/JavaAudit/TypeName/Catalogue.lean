/-!
# Catalogue of known types

Without a class path the type hierarchy of the platform cannot be loaded, so the types that rules
reason about are listed here: direct supertypes with the superclass first, the types that every source
imports implicitly, and the result types of calls whose results are commonly used as receivers.
-/

namespace JavaAudit.Catalogue

/-- Types that are not classes. -/
def primitiveTypes : List String :=
  ["byte", "short", "int", "long", "float", "double", "boolean", "char", "void"]

/-- Simple names that every source imports from `java.lang`. -/
def implicitTypes : List String :=
  ["Object", "String", "StringBuilder", "StringBuffer", "CharSequence", "Runtime", "Process",
    "ProcessBuilder", "System", "Math", "Thread", "Class", "ClassLoader", "Integer", "Long",
    "Short", "Byte", "Double", "Float", "Boolean", "Character", "Number", "Void", "Enum", "Record",
    "Iterable", "AutoCloseable", "Comparable", "Runnable", "Throwable", "Exception",
    "RuntimeException", "Error", "IllegalArgumentException", "IllegalStateException",
    "NullPointerException", "ClassNotFoundException", "InterruptedException", "SecurityException",
    "UnsupportedOperationException", "IndexOutOfBoundsException", "ArithmeticException",
    "ClassCastException", "NumberFormatException", "CloneNotSupportedException",
    "ReflectiveOperationException", "Override", "Deprecated", "SuppressWarnings",
    "FunctionalInterface"]

/-! ## Direct supertypes -/

/-- Exceptions. -/
def exceptionTypes : List (String × List String) :=
  [("java.lang.Throwable", []), ("java.lang.Exception", ["java.lang.Throwable"]),
    ("java.lang.Error", ["java.lang.Throwable"]),
    ("java.lang.RuntimeException", ["java.lang.Exception"]),
    ("java.io.IOException", ["java.lang.Exception"]),
    ("java.io.FileNotFoundException", ["java.io.IOException"]),
    ("java.io.UncheckedIOException", ["java.lang.RuntimeException"]),
    ("java.sql.SQLException", ["java.lang.Exception"])]

/-- Streams, readers and writers. -/
def streamTypes : List (String × List String) :=
  [("java.lang.AutoCloseable", []), ("java.io.Closeable", ["java.lang.AutoCloseable"]),
    ("java.io.InputStream", ["java.io.Closeable"]),
    ("java.io.FilterInputStream", ["java.io.InputStream"]),
    ("java.io.FileInputStream", ["java.io.InputStream"]),
    ("java.io.BufferedInputStream", ["java.io.FilterInputStream"]),
    ("java.io.DataInputStream", ["java.io.FilterInputStream"]),
    ("java.io.ByteArrayInputStream", ["java.io.InputStream"]),
    ("java.io.ObjectInputStream", ["java.io.InputStream"]),
    ("java.util.zip.InflaterInputStream", ["java.io.FilterInputStream"]),
    ("java.util.zip.GZIPInputStream", ["java.util.zip.InflaterInputStream"]),
    ("java.util.zip.ZipInputStream", ["java.util.zip.InflaterInputStream"]),
    ("java.io.OutputStream", ["java.io.Closeable"]),
    ("java.io.FilterOutputStream", ["java.io.OutputStream"]),
    ("java.io.FileOutputStream", ["java.io.OutputStream"]),
    ("java.io.BufferedOutputStream", ["java.io.FilterOutputStream"]),
    ("java.io.DataOutputStream", ["java.io.FilterOutputStream"]),
    ("java.io.PrintStream", ["java.io.FilterOutputStream"]),
    ("java.io.ByteArrayOutputStream", ["java.io.OutputStream"]),
    ("java.io.ObjectOutputStream", ["java.io.OutputStream"]),
    ("java.io.Reader", ["java.io.Closeable"]), ("java.io.InputStreamReader", ["java.io.Reader"]),
    ("java.io.FileReader", ["java.io.InputStreamReader"]),
    ("java.io.BufferedReader", ["java.io.Reader"]), ("java.io.StringReader", ["java.io.Reader"]),
    ("java.io.Writer", ["java.io.Closeable"]), ("java.io.OutputStreamWriter", ["java.io.Writer"]),
    ("java.io.FileWriter", ["java.io.OutputStreamWriter"]),
    ("java.io.BufferedWriter", ["java.io.Writer"]), ("java.io.PrintWriter", ["java.io.Writer"]),
    ("java.io.StringWriter", ["java.io.Writer"]),
    ("java.io.RandomAccessFile", ["java.io.Closeable"]),
    ("java.util.Scanner", ["java.io.Closeable"]),
    ("java.beans.XMLDecoder", ["java.lang.AutoCloseable"]),
    ("org.apache.commons.io.input.ValidatingObjectInputStream", ["java.io.ObjectInputStream"])]

/-- Database access. -/
def databaseTypes : List (String × List String) :=
  [("java.sql.Connection", ["java.lang.AutoCloseable"]),
    ("java.sql.Statement", ["java.lang.AutoCloseable"]),
    ("java.sql.PreparedStatement", ["java.sql.Statement"]),
    ("java.sql.CallableStatement", ["java.sql.PreparedStatement"]),
    ("java.sql.ResultSet", ["java.lang.AutoCloseable"]), ("java.sql.DriverManager", []),
    ("javax.sql.DataSource", [])]

/-- Network and files. -/
def networkTypes : List (String × List String) :=
  [("java.net.Socket", ["java.io.Closeable"]), ("java.net.ServerSocket", ["java.io.Closeable"]),
    ("java.net.URL", []), ("java.net.URI", []), ("java.io.File", []), ("java.nio.file.Path", []),
    ("java.nio.file.Paths", []), ("java.nio.file.Files", [])]

/-- Random number generators. -/
def randomTypes : List (String × List String) :=
  [("java.util.Random", []), ("java.security.SecureRandom", ["java.util.Random"]),
    ("java.util.concurrent.ThreadLocalRandom", ["java.util.Random"])]

/-- Collections. -/
def collectionTypes : List (String × List String) :=
  [("java.util.Collection", []), ("java.util.List", ["java.util.Collection"]),
    ("java.util.Set", ["java.util.Collection"]), ("java.util.Arrays", [])]

/-- Libraries outside the platform. -/
def libraryTypes : List (String × List String) :=
  [("com.alibaba.fastjson.JSON", []),
    ("com.alibaba.fastjson.JSONObject", ["com.alibaba.fastjson.JSON"]),
    ("com.alibaba.fastjson.JSONArray", ["com.alibaba.fastjson.JSON"]),
    ("com.alibaba.fastjson2.JSON", []), ("com.alibaba.fastjson2.JSONObject", []),
    ("com.alibaba.fastjson2.JSONArray", []), ("org.apache.commons.io.IOUtils", []),
    ("org.apache.ibatis.annotations.Select", []), ("org.apache.ibatis.annotations.Insert", []),
    ("org.apache.ibatis.annotations.Update", []), ("org.apache.ibatis.annotations.Delete", [])]

/-- Direct supertypes of every listed type. -/
def supertypeTable : List (String × List String) :=
  exceptionTypes ++ streamTypes ++ databaseTypes ++ networkTypes ++
    randomTypes ++ collectionTypes ++ libraryTypes

/-- Direct supertypes of a type, none if it is not listed. -/
def supertypes (name : String) : List String := (supertypeTable.lookup name).getD []

/-- Is the type listed, by itself or as a supertype? -/
def isKnown (name : String) : Bool :=
  supertypeTable.any fun (type, parents) => type == name || parents.contains name

/-! ## Result types -/

/-- Result types of calls, by owner and member. -/
def returnTypes : List (String × String) :=
  [("java.lang.Runtime.getRuntime", "java.lang.Runtime"),
    ("java.lang.Runtime.exec", "java.lang.Process"),
    ("java.lang.ProcessBuilder.start", "java.lang.Process"),
    ("java.lang.ProcessBuilder.directory", "java.lang.ProcessBuilder"),
    ("java.lang.ProcessBuilder.redirectErrorStream", "java.lang.ProcessBuilder"),
    ("java.lang.Process.getInputStream", "java.io.InputStream"),
    ("java.lang.Process.getErrorStream", "java.io.InputStream"),
    ("java.lang.Process.getOutputStream", "java.io.OutputStream"),
    ("java.lang.Throwable.getCause", "java.lang.Throwable"),
    ("java.sql.DriverManager.getConnection", "java.sql.Connection"),
    ("javax.sql.DataSource.getConnection", "java.sql.Connection"),
    ("java.sql.Connection.createStatement", "java.sql.Statement"),
    ("java.sql.Connection.prepareStatement", "java.sql.PreparedStatement"),
    ("java.sql.Connection.prepareCall", "java.sql.CallableStatement"),
    ("java.sql.Statement.executeQuery", "java.sql.ResultSet"),
    ("java.sql.Statement.getResultSet", "java.sql.ResultSet"),
    ("java.nio.file.Paths.get", "java.nio.file.Path"),
    ("java.nio.file.Path.of", "java.nio.file.Path"),
    ("java.nio.file.Path.resolve", "java.nio.file.Path"),
    ("java.nio.file.Path.normalize", "java.nio.file.Path"),
    ("java.io.File.toPath", "java.nio.file.Path"),
    ("java.net.URL.openStream", "java.io.InputStream"),
    ("java.net.Socket.getInputStream", "java.io.InputStream"),
    ("java.net.Socket.getOutputStream", "java.io.OutputStream"),
    ("java.net.ServerSocket.accept", "java.net.Socket")]

/-- The result type of a call, by owner and member. -/
def returnType? (member : String) : Option String := returnTypes.lookup member

end JavaAudit.Catalogue
