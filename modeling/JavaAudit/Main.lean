import JavaAudit.CommandLine.Run
import JavaAudit.Files.Snapshot
import JavaAudit.Report.Layout

/-!
# The executable

Standard input holds a snapshot of the working directory: its files with their syntax trees, where it
is, when it was taken and how many seconds that took. Everything else is up to `CommandLine.run`; here
the console output is printed, the log goes to standard error, and files that the run changed are
written.
-/

namespace JavaAudit

/-- All of a stream. -/
partial def readAll (stream : IO.FS.Stream) (collected : String) : IO String := do
  let line ← stream.getLine
  if line.isEmpty then return collected else readAll stream (collected ++ line)

/-- The moment when a snapshot was taken. -/
def momentOf (v : Value) : Timestamp :=
  match v.get? "moment" with
  | some (.list [.int y, .int mo, .int d, .int h, .int mi, .int s, .int us]) =>
    ⟨y.toNat, mo.toNat, d.toNat, h.toNat, mi.toNat, s.toNat, us.toNat⟩
  | _ => ⟨1970, 1, 1, 0, 0, 0, 0⟩

/-- The seconds that it took to take a snapshot. -/
def secondsOf (v : Value) : Float :=
  match v.get? "seconds" with
  | some (.float x) => x
  | some (.int n) => Float.ofInt n
  | _ => 0

/-- The directory that a snapshot was taken of. -/
def directoryOf (v : Value) : List String :=
  Path.steps ((Snapshot.textUnder "directory" v).getD "/")

/-- Write the files that a run changed. -/
def writeChanges (before after : Files) : IO Unit :=
  for (location, entry) in after.entries do
    if Table.get? location before.entries != some entry then
      match entry with
      | .file content =>
        IO.FS.writeBinFile ("/" ++ "/".intercalate location) (ByteArray.mk content.toArray)
      | .directory => pure ()

/-- Show what a run leaves behind. -/
def present (before : Files) (outcome : Outcome) : IO UInt32 := do
  for record in outcome.log do
    IO.eprintln record.text
  for block in outcome.printed do
    for line in block.lines do
      IO.println line
  IO.print outcome.output
  match outcome.complaint with
  | some complaint => IO.eprint (CommandLine.linesText (CommandLine.usageLines ++ [complaint]))
  | none => pure ()
  writeChanges before outcome.files
  return outcome.exitCode.toUInt32

end JavaAudit

open JavaAudit in
/-- Run the program on the snapshot in standard input. -/
def main (arguments : List String) : IO UInt32 := do
  let some v := Value.read? (← readAll (← IO.getStdin) "")
    | IO.eprintln "standard input holds no snapshot"
      return 2
  let snapshot := Snapshot.ofValue (directoryOf v) v
  let world : Surroundings :=
    ⟨snapshot.files, snapshot.parseJava, snapshot.parseData, momentOf v, secondsOf v⟩
  match CommandLine.run world arguments with
  | .ok outcome => present world.files outcome
  | .error (.settingsNotUtf8 path) =>
    IO.eprintln (path ++ " is not UTF-8")
    return 1
  | .error (.settingsUnwritable path fault) =>
    IO.eprintln (path ++ ": " ++ fault.message)
    return 1
  | .error (.file fault) =>
    IO.eprintln fault.message
    return 1
