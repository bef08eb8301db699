import TrustRouter.Configuration.Summary
import TrustRouter.Document.Basic
import TrustRouter.Json.Write

/-! # Audit events

What a pass over documents reports: each document read, its revision, a failure, the new
configuration and its communities. An event is written as one line of compact JSON with its
members in a fixed order, stamped with the time in milliseconds. The time has 128 bits, more than
an integer among the JSON numbers, so it is written digit by digit and not as a value.
-/

namespace TrustRouter

/-- What an event is about. -/
inductive AuditKind where
  /-- A document is about to be read. -/
  | fileParsing
  /-- A document gives its revision number. -/
  | revision
  /-- A document is malformed, or a community has an unknown member. -/
  | parseFailed
  /-- The configuration is not complete. -/
  | invalid
  /-- A configuration has become active. -/
  | applied
  /-- One community of the active configuration. -/
  | community
  /-- Anything else that is put on record, by its identifier. -/
  | other (label : String)
deriving DecidableEq

namespace AuditKind

/-- The identifier of a kind of event. -/
def label : AuditKind → String
  | fileParsing => "config_file_parsing"
  | revision => "config_revision"
  | parseFailed => "config_parse_failed"
  | invalid => "config_invalid"
  | applied => "config_applied"
  | community => "config_community"
  | other label => label

end AuditKind

/-- A time, in milliseconds since 1970. -/
abbrev Milliseconds := BitVec 128

/-- An event, without its time. -/
structure AuditEvent where
  kind : AuditKind
  severity : Severity
  file : Option String := none
  serialNumber : Option Json.Number := none
  message : String
deriving DecidableEq

namespace AuditEvent

/-! ### The events of a pass -/

/-- A document is about to be read. -/
def parsing (d : Document) : AuditEvent where
  kind := .fileParsing
  severity := .debug
  file := d.name
  message := "parsing " ++ d.name

/-- A document gives its revision number. -/
def revision (d : Document) (n : Json.Number) : AuditEvent where
  kind := .revision
  severity := .notice
  file := d.name
  serialNumber := n
  message := "attempting to load revision " ++ n.text ++ " of " ++ d.name

/-- A document is malformed. -/
def documentFailed (d : Document) (e : LoadError) : AuditEvent where
  kind := .parseFailed
  severity := .err
  file := d.name
  message := e.message

/-- The documents do not make a configuration. -/
def buildFailed (e : LoadError) : AuditEvent where
  kind := match e with | .incomplete _ => .invalid | _ => .parseFailed
  severity := .err
  message := e.message

/-- A configuration has become active. -/
def applied (generation : UInt64) : AuditEvent where
  kind := .applied
  severity := .notice
  message := "configuration generation " ++ toString generation ++ " applied"

/-- A community of the active configuration. -/
def community (s : CommunitySummary) : AuditEvent where
  kind := .community
  severity := .notice
  message := s.title ++ ": member idps " ++ s.idpList ++ "; member rps " ++ s.rpList

/-! ### Lines -/

/-- The event at a time: the members of an object, with their values written. -/
def members (e : AuditEvent) (now : Milliseconds) : List (String × List Char) := [
  ("event", Json.chars (.string e.kind.label)),
  ("timestamp_ms", Nat.toDigits 10 now.toNat),
  ("severity", Json.chars (.string e.severity.label)),
  ("file", Json.chars (e.file.elim .null .string)),
  ("serial_number", Json.chars (e.serialNumber.elim .null .number)),
  ("message", Json.chars (.string e.message))]

/-- The event as a line, without the line feed. -/
def line (e : AuditEvent) (now : Milliseconds) : String :=
  String.ofList (Json.writtenObject (e.members now))

end AuditEvent

end TrustRouter
