import TrustRouter.Audit.Log

/-! # Loading and reloading

Loading merges documents into a draft one after the other and builds a configuration from it; the
first failure ends it. Everything it does is reported as audit events. A **reload** loads on behalf
of a manager: it begins a pass, loads, stages and promotes, and on failure leaves everything but
the staging slot as it was.

A reload's signals put the change of thresholds where it happens: the new configuration is
announced under its own thresholds, everything before that under those of its predecessor.
-/

namespace TrustRouter

variable [Json.Diagnosis]

/-- An outcome and the events reported on the way to it. -/
structure Reported (α : Type) where
  events : List AuditEvent
  result : Except LoadError α

/-! ### Loading -/

namespace Draft

/-- The revision a fragment gives, as events. -/
def revisions (doc : Document) (f : Fragment) : List AuditEvent :=
  f.serialNumber.toList.map (AuditEvent.revision doc)

/-- Merges documents in order. -/
def mergeAll (d : Draft) : List Document → Reported Draft
  | [] => ⟨[], .ok d⟩
  | doc :: docs =>
    match doc.fragment with
    | .error e => ⟨[.parsing doc, .documentFailed doc e], .error e⟩
    | .ok f =>
      let rest := (d.merge f).mergeAll docs
      ⟨.parsing doc :: (revisions doc f ++ rest.events), rest.result⟩

/-- Builds the configuration and reports a failure. -/
def finish (d : Draft) : Reported Configuration :=
  match d.build with
  | .ok c => ⟨[], .ok c⟩
  | .error e =>
    let e := LoadError.ofEntityError ⟨none, none⟩ e
    ⟨[.buildFailed e], .error e⟩

/-- Loads documents on top of a draft. -/
def load (d : Draft) (docs : List Document) : Reported Configuration :=
  if docs.isEmpty then ⟨[], .error .noDocuments⟩
  else
    match d.mergeAll docs with
    | ⟨events, .error e⟩ => ⟨events, .error e⟩
    | ⟨events, .ok merged⟩ => ⟨events ++ merged.finish.events, merged.finish.result⟩

end Draft

/-- Loads documents on their own. -/
def Configuration.load (docs : List Document) : Reported Configuration := Draft.empty.load docs

/-- The events that describe the communities of a configuration, in lookup order. -/
def Configuration.communityEvents (c : Configuration) : List AuditEvent :=
  c.summary.communities.map AuditEvent.community

/-! ### Reloading -/

/-- What a reload leads to. -/
structure Reload where
  signals : List Signal
  manager : Manager
  result : Except LoadError Configuration

namespace Reload

/-- The events of a reload. -/
def events (r : Reload) : List AuditEvent := r.signals.filterMap Signal.event?

/-- Stages and promotes a configuration that has been loaded with some events. -/
def promote (m : Manager) (events : List AuditEvent) (c : Configuration) : Reload :=
  match (m.stage c).promote with
  | .error e => ⟨events.map .record, m.stage c, .error (.ofManagerError e)⟩
  | .ok (active, m) =>
    { signals := events.map .record ++ .publish m.thresholds ::
        (.applied m.generation :: active.communityEvents).map .record
      manager := m
      result := .ok active }

end Reload

/-- Loads documents and makes the configuration active, all or nothing. -/
def Manager.reload (m : Manager) (docs : List Document) : Reload :=
  let (draft, m) := m.startDraft
  match draft.load docs with
  | ⟨events, .error e⟩ => ⟨events.map .record, m, .error e⟩
  | ⟨events, .ok c⟩ => Reload.promote m events c

end TrustRouter
