import Std.Time.DateTime.Timestamp
import TrustRouter.CommandLine.Run

/-! # The program

The outer layer of the command line: it lists the directory, opens the audit log, asks for the time
and writes what `TrustRouter.Command.run` says. All else is decided there.
-/

namespace TrustRouter

/-- A refusal of the system. -/
def OsError.ofError (e : IO.Error) : OsError :=
  match e with
  | .noFileOrDirectory .. => .notFound
  | .inappropriateType _ 20 _ => .notDirectory
  | .inappropriateType _ 21 _ => .isDirectory
  | e => .other (toString e)

/-- The outcome of an action that the system may refuse. -/
def attempt {α : Type} (action : IO α) : BaseIO (Except OsError α) := do
  return (← action.toBaseIO).mapError OsError.ofError

/-- The entry that the system lists, with its bytes if it is a regular file. -/
def listEntry (e : IO.FS.DirEntry) : IO (Name × Entry) := do
  let isFile := (← e.path.metadata.toBaseIO).toOption.any (·.type == .file)
  let entry ←
    if isFile then
      pure (Entry.file ((← attempt (IO.FS.readBinFile e.path)).mapError (.opening, ·)))
    else pure Entry.other
  return (Name.ofString e.fileName, entry)

/-- The entries of a directory. -/
def listDirectory (dir : String) : BaseIO (Except ListingError Listing) := do
  match ← attempt (do ((← IO.currentDir) / dir).readDir) with
  | .error e => return .error (.directory e)
  | .ok entries => return Listing.ofEntries (← entries.toList.mapM fun e ↦ attempt (listEntry e))

/-- The time. -/
def currentMillis : IO Milliseconds := do
  return .ofNat _ (← Std.Time.Timestamp.now).toMillisecondsSinceUnixEpoch.val.toNat

/-- Prints what a run leaves. -/
def Outcome.print (o : Outcome) : IO UInt32 := do
  (← IO.getStderr).putStr o.stderr
  (← IO.getStdout).putStr o.stdout
  return o.exitCode.toUInt32

/-- Runs a command. -/
def Command.execute (c : Command) : IO UInt32 := do
  match c.auditLog with
  | none => (c.run (← listDirectory c.dir) (← currentMillis)).print
  | some path =>
    match ← attempt (IO.FS.Handle.mk path .append) with
    | .error e => (auditLogFailed path e).print
    | .ok log =>
      let outcome := c.run (← listDirectory c.dir) (← currentMillis)
      log.putStr outcome.audit
      outcome.print

end TrustRouter

/-- Runs the program on its arguments. -/
def main (args : List String) : IO UInt32 :=
  match TrustRouter.Invocation.plan args with
  | .inl outcome => outcome.print
  | .inr command => command.execute
