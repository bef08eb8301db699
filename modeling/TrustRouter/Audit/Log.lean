import TrustRouter.Audit.Event

/-! # Audit logs

A log writes the events that pass its threshold. The threshold may change between two events, and
an event is judged by the threshold in force when it is recorded. So a log is given a list of
**signals**: events and changes of the thresholds, in the order in which they happen.
-/

namespace TrustRouter

/-- Something that happens to a log. -/
inductive Signal where
  /-- An event is recorded. -/
  | record (e : AuditEvent)
  /-- New thresholds are published. -/
  | publish (t : Thresholds)

/-- The event recorded by a signal, if any. -/
def Signal.event? : Signal → Option AuditEvent
  | record e => some e
  | publish _ => none

/-- Where a log writes. -/
inductive Sink where
  | file
  | console
deriving DecidableEq

/-- Whether a sink takes messages of a severity. -/
def Sink.allows (sink : Sink) (t : Thresholds) (s : Severity) : Bool :=
  match sink with
  | file => t.allowsLog s
  | console => t.allowsConsole s

/-- The events that a sink takes, from the thresholds at the beginning on. -/
def Sink.taken (sink : Sink) : Thresholds → List Signal → List AuditEvent
  | _, [] => []
  | t, .record e :: rest =>
    if sink.allows t e.severity then e :: sink.taken t rest else sink.taken t rest
  | _, .publish t :: rest => sink.taken t rest

/-- What a sink writes: a line for every event it takes. Events have times of their own; the
clock gives that of the `n`-th event taken. -/
def Sink.writtenBy (sink : Sink) (clock : Nat → Milliseconds) (t : Thresholds)
    (signals : List Signal) : String :=
  String.join ((sink.taken t signals).mapIdx fun n e ↦ e.line (clock n) ++ "\n")

/-- What a sink writes of events that are all of one time. -/
def Sink.written (sink : Sink) (now : Milliseconds) : Thresholds → List Signal → String :=
  sink.writtenBy fun _ ↦ now

end TrustRouter
