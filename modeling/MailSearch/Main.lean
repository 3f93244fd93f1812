import MailSearch.CommandLine.Run
import MailSearch.Store.Archive
import Std.Time.DateTime.Timestamp

/-!
# The program

Runs the command that the arguments ask for on the computer's own files, environment and clock. A
database is kept as an archive in a file.
-/

namespace MailSearch

/-- What a file holds, given its bytes. -/
def Entry.ofBytes (bytes : ByteArray) : Entry :=
  match String.fromUTF8? bytes with
  | none => .file none
  | some content =>
    match Database.ofArchive? content with
    | some db => .database db
    | none => .file (some content)

/-- What stands at a place in the file system. -/
def lookUp (place : Place) : IO Entry := do
  match ← (IO.FS.readBinFile ("/" ++ String.intercalate "/" place)).toBaseIO with
  | .ok bytes => return Entry.ofBytes bytes
  | .error (.noFileOrDirectory ..) => return .missing
  | .error _ => return .directory

/-- The variables of the environment that the program reads. -/
def environmentNames : List String :=
  ["HOME", "XDG_CONFIG_HOME", "MAILSIFT_CONFIG", "MAILSIFT_DB", "MAILSIFT_USER"]

/-- The computer that the program runs on. -/
def thisHost : IO (Host IO) := do
  let environment ← environmentNames.filterMapM fun name => do
    return (← IO.getEnv name).map fun value => (name, value)
  let workDir := Place.ofPath [] (← IO.currentDir).toString
  return ⟨environment, workDir, lookUp⟩

/-- The day from whose start the computer's clock counts. -/
def epoch : Calendar.Date := ⟨1970, 1, 1, by decide⟩

/-- The point in time that the computer's clock shows. -/
def currentTime : IO Calendar.Timestamp := do
  let t := (← Std.Time.Timestamp.now).val
  return (Calendar.Timestamp.ofSeconds? epoch t.second.val t.nano.val.toNat).getD
    (.startOfDay epoch)

end MailSearch

open MailSearch in
/-- Writes the report of a command to standard output, or why it failed to standard error, and ends
with the exit code. -/
def main (arguments : List String) : IO UInt32 := do
  let outcome ← (← thisHost).run (← currentTime) arguments
  IO.print outcome.output
  outcome.failure.forM IO.eprintln
  return outcome.code.toUInt32
