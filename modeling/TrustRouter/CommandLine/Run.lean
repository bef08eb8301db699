import TrustRouter.CommandLine.Report
import TrustRouter.Directory.Tree
import TrustRouter.Reload

/-! # Running a command

What a command prints, given what its directory holds. A command makes one pass: it yields signals
for the audit trail and either a report or an error (`Command.pass`). The audit trail goes to the
standard error stream, or to the audit log when there is one.

The audit log is opened before the directory is read, so it comes into being even when the pass
fails, and a log in the directory itself is among the files of the pass. `Command.runIn` does both
on a directory tree.
-/

namespace TrustRouter

variable [Json.Diagnosis]

/-- What a run of the program leaves: its exit code, what it printed on the two standard streams,
and what it appended to the audit log. -/
structure Outcome where
  exitCode : UInt8
  stdout : String
  stderr : String
  audit : String
deriving DecidableEq

namespace Outcome

/-- A text as the only output. -/
def printed (text : String) : Outcome := ⟨0, text, "", ""⟩

/-- A failure before anything was done. -/
def failed (message : String) : Outcome := ⟨1, "", message ++ "\n", ""⟩

end Outcome

/-! ### Passes -/

/-- What a pass over a directory yields. -/
structure Pass where
  signals : List Signal
  result : Except LoadError String

namespace Command

/-- The directory of a command. -/
def dir : Command → String
  | validate dir _ _ => dir
  | summary dir _ => dir
  | files dir => dir

/-- The path of the audit log, if there is to be one. -/
def auditLog : Command → Option String
  | validate _ auditLog _ => auditLog
  | _ => none

/-- A pass over documents as a manager that holds nothing makes it. -/
def validateDocuments (docs : List Document) (format : OutputFormat) : Pass :=
  let reload := (Manager.ofThresholds .initial).reload docs
  ⟨reload.signals, reload.result.map fun c ↦
    Validation.render ⟨docs.length, reload.manager.generation, c.summary⟩ format⟩

/-- A pass over documents that makes no configuration active. -/
def summarizeDocuments (docs : List Document) (format : OutputFormat) : Pass :=
  let loaded := Configuration.load docs
  ⟨loaded.events.map .record, loaded.result.map fun c ↦ c.summary.render format⟩

/-- The pass over the documents of a directory, unless they cannot be read. -/
def withDocuments (dir : String) (listing : Except ListingError Listing)
    (pass : List Document → Pass) : Pass :=
  match readDocuments dir listing with
  | .error e => ⟨[], .error e⟩
  | .ok docs => pass docs

/-- The pass of a command over its directory. -/
def pass (c : Command) (listing : Except ListingError Listing) : Pass :=
  match c with
  | validate dir _ format => withDocuments dir listing (validateDocuments · format)
  | summary dir format => withDocuments dir listing (summarizeDocuments · format)
  | files dir =>
    ⟨[], (findConfigFiles dir listing).map fun found ↦
      String.join (found.map fun f ↦ entryPath dir f.name ++ "\n")⟩

/-! ### Outcomes -/

/-- A report as it is printed: with one line feed at its end. -/
def printedReport (report : String) : String :=
  String.ofList (report.toList.reverse.dropWhile (· = '\n')).reverse ++ "\n"

/-- The message about a failed pass. -/
def failure (e : LoadError) : String :=
  "configuration rejected (" ++ e.kind ++ "): " ++ e.message

/-- The outcome of a command, given what listing its directory gave. -/
def run (c : Command) (listing : Except ListingError Listing) (now : Milliseconds) : Outcome :=
  let pass := c.pass listing
  let (console, audit) := match c.auditLog with
    | none => (Sink.console.written now .initial pass.signals, "")
    | some _ => ("", Sink.file.written now .initial pass.signals)
  match pass.result with
  | .ok report => ⟨0, printedReport report, console, audit⟩
  | .error e => ⟨1, "", console ++ failure e ++ "\n", audit⟩

/-- The outcome when the audit log cannot be opened. -/
def auditLogFailed (path : String) (e : OsError) : Outcome :=
  .failed ("cannot open audit log " ++ path ++ ": " ++ e.message)

/-- Runs a command in a directory tree. -/
def runIn (c : Command) (root : Node) (now : Milliseconds) : Outcome × Node :=
  match c.auditLog with
  | none => (c.run (root.list c.dir) now, root)
  | some path =>
    match root.openAppend path with
    | .error e => (auditLogFailed path e, root)
    | .ok (log, root) =>
      let outcome := c.run (root.list c.dir) now
      (outcome, root.append log outcome.audit.toUTF8)

end Command

/-! ### Invocations -/

namespace Invocation

/-- The name and the version of the program. -/
def versionLine : String := "trust-router 0.1.0\n"

/-- What is printed when no command is given. -/
def idleLine : String := "no command given; see `trust-router --help`\n"

/-- How the program is used. -/
def usage : String := "\n".intercalate [
  "Usage: trust-router config validate [--audit-log PATH] [--format text|json] DIR",
  "       trust-router config show [--format json|text] DIR",
  "       trust-router config files DIR",
  "       trust-router --version",
  ""]

/-- The outcome when the arguments make no invocation. -/
def misused : Outcome := ⟨2, "", usage, ""⟩

/-- The outcome of an invocation that needs no directory, or the command that does. -/
def outcome : Invocation → Outcome ⊕ Command
  | version => .inl (.printed versionLine)
  | help => .inl (.printed usage)
  | idle => .inl (.printed idleLine)
  | run command => .inr command

/-- The outcome of the arguments, or the command they ask for. -/
def plan (args : List String) : Outcome ⊕ Command :=
  (ofArgs? args).elim (.inl misused) outcome

end Invocation

/-- Runs the program in a directory tree. -/
def runIn (args : List String) (root : Node) (now : Milliseconds) : Outcome × Node :=
  match Invocation.plan args with
  | .inl outcome => (outcome, root)
  | .inr command => command.runIn root now

end TrustRouter
