import Mathlib.Data.List.Induction
import TrustRouter.Proofs.Audit.Lines
import TrustRouter.Proofs.Audit.Trace
import TrustRouter.Proofs.Configuration.Sections
import TrustRouter.Proofs.Manager.History

/-!
# Which threshold governs which line

A manager and the log of its passes share thresholds, and a pass that succeeds replaces them in the
middle of what it records. So a line of the log is not filtered by the thresholds at the beginning
of its pass, nor by those at the end:

* what a pass records **before** it promotes (the documents read, their revisions, a failure) stands
  under the configuration that was active before;
* what it records **after** (the generation and the communities) stands under the configuration that
  it has made active. Kinds of events tell the two apart, because loading records none of the kinds
  that announce a configuration (`Configuration.kind_of_mem_load`).

What is active after passes is what the documents of the last one that succeeded load as
(`Manager.active_afterPasses`). Failing passes leave no trace in later ones. So all that one pass
can know of the passes before it is a list of documents and a number of generations, and the number
shows in one message only (`Manager.log_governed`).
-/

namespace TrustRouter

/-! ### Recording -/

theorem Thresholds.after_append (t : Thresholds) (signals rest : List Signal) :
    t.after (signals ++ rest) = (t.after signals).after rest := by
  rw [after, after, after, List.filterMap_append, List.getLast?_append]
  rcases (rest.filterMap Signal.thresholds?).getLast? with - | t'
  · rfl
  · rfl

/-- Recording events changes no thresholds. -/
theorem Thresholds.after_map_record (t : Thresholds) (events : List AuditEvent) :
    t.after (events.map .record) = t := by
  have hnone : (events.map Signal.record).filterMap Signal.thresholds? = [] :=
    List.filterMap_eq_nil_iff.2 fun s hs ↦ by
      obtain ⟨e, -, rfl⟩ := List.mem_map.1 hs
      rfl
  rw [after, hnone]
  rfl

/-- While thresholds stay as they are, a log takes what passes them. -/
theorem Sink.taken_map_record (sink : Sink) (t : Thresholds) (events : List AuditEvent) :
    sink.taken t (events.map .record) = events.filter fun e ↦ sink.allows t e.severity := by
  induction events with
  | nil => rfl
  | cons e events ih => rw [List.map_cons, taken, ih, List.filter_cons]

/-! ### Kinds of events -/

/-- Whether events of a kind announce a configuration that has become active. -/
def AuditKind.announces : AuditKind → Bool
  | applied => true
  | community => true
  | _ => false

/-- The kinds of events that a load can record. -/
def AuditKind.ofLoading : List AuditKind := [fileParsing, revision, parseFailed, invalid]

theorem AuditKind.announces_of_ofLoading : ∀ kind ∈ ofLoading, kind.announces = false := by
  decide

theorem AuditEvent.kind_buildFailed (e : LoadError) :
    (AuditEvent.buildFailed e).kind ∈ AuditKind.ofLoading := by
  cases e with
  | incomplete issues =>
    show AuditKind.invalid ∈ AuditKind.ofLoading
    decide
  | _ =>
    show AuditKind.parseFailed ∈ AuditKind.ofLoading
    decide

theorem Document.kind_of_mem_announced {doc : Document} {e : AuditEvent} (h : e ∈ doc.announced) :
    e.kind ∈ AuditKind.ofLoading := by
  rcases List.mem_cons.1 h with rfl | h
  · show AuditKind.fileParsing ∈ AuditKind.ofLoading
    decide
  · obtain ⟨n, -, rfl⟩ := List.mem_map.1 h
    show AuditKind.revision ∈ AuditKind.ofLoading
    decide

namespace Configuration

/-- **Loading announces nothing.** Its events say what is read and what fails. -/
theorem kind_of_mem_load [Json.Diagnosis] {docs : List Document} {e : AuditEvent}
    (h : e ∈ (load docs).events) :
    e.kind ∈ AuditKind.ofLoading := by
  have hannounced {docs : List Document} (h : e ∈ docs.flatMap Document.announced) :
      e.kind ∈ AuditKind.ofLoading := by
    obtain ⟨doc, -, he⟩ := List.mem_flatMap.1 h
    exact Document.kind_of_mem_announced he
  rcases Document.decode_or_split docs with hdecoded | ⟨before, doc, after, _, rfl, hbefore, hf⟩
  · by_cases hne : docs = []
    · subst hne
      exact absurd h List.not_mem_nil
    · rcases load_of_decoded hne hdecoded with ⟨e', -, hload⟩ | ⟨c, hload⟩
      · rw [hload] at h
        rcases List.mem_append.1 h with h | h
        · exact hannounced h
        · obtain rfl := List.mem_singleton.1 h
          exact AuditEvent.kind_buildFailed e'
      · rw [hload] at h
        exact hannounced h
  · rw [load_of_split hbefore hf] at h
    rcases List.mem_append.1 h with h | h
    · exact hannounced h
    · rcases List.mem_pair.1 h with rfl | rfl
      · show AuditKind.fileParsing ∈ AuditKind.ofLoading
        decide
      · show AuditKind.parseFailed ∈ AuditKind.ofLoading
        decide

theorem announces_of_mem_communityEvents {c : Configuration} {e : AuditEvent}
    (h : e ∈ c.communityEvents) : e.kind.announces = true := by
  obtain ⟨s, -, rfl⟩ := List.mem_map.1 h
  rfl

end Configuration

namespace Manager

/-! ### One pass -/

/-- What a pass announces once a configuration has become active. -/
def announcement (m : Manager) : Except LoadError Configuration → List AuditEvent
  | .ok c => .applied (m.generation + 1) :: c.communityEvents
  | .error _ => []

variable [Json.Diagnosis] (m : Manager) (docs : List Document)

/-- A pass records what loading records, and if that succeeds, publishes thresholds and announces
the configuration. -/
theorem reload_signals :
    (m.reload docs).signals = (Configuration.load docs).events.map .record ++
      match (Configuration.load docs).result with
      | .ok c => .publish c.thresholds :: (m.announcement (.ok c)).map .record
      | .error _ => [] := by
  rw [reload_eq]
  rcases Configuration.load docs with ⟨events, e | c⟩
  · exact (List.append_nil _).symm
  · rfl

/-- The thresholds of a manager are those that it has published last. -/
theorem thresholds_reload :
    (m.reload docs).manager.thresholds = m.thresholds.after (m.reload docs).signals := by
  rw [reload_signals, Thresholds.after_append, Thresholds.after_map_record]
  rcases hload : (Configuration.load docs).result with e | c
  · rw [(m.reload_of_load_error hload).2]
    rfl
  · rw [(m.reload_of_load_ok hload).2, Thresholds.after_publish, Thresholds.after_map_record]
    rfl

/-- **What the log takes of a pass.** Announcements have to pass the threshold that the pass leaves
in force, all other events the one that it has found. -/
theorem taken_reload :
    Sink.file.taken m.thresholds (m.reload docs).signals =
      (m.reload docs).events.filter fun e ↦ e.severity.passes
        (if e.kind.announces then (m.reload docs).manager.thresholds.log
          else m.thresholds.log) := by
  have hevents : (m.reload docs).events = (Configuration.load docs).events ++
      m.announcement (Configuration.load docs).result := by
    rw [reload_events]
    rcases (Configuration.load docs).result with e | c
    · rfl
    · rfl
  have hloading : Sink.file.taken m.thresholds ((Configuration.load docs).events.map .record) =
      (Configuration.load docs).events.filter fun e ↦ e.severity.passes
        (if e.kind.announces then (m.reload docs).manager.thresholds.log
          else m.thresholds.log) := by
    rw [Sink.taken_map_record]
    refine List.filter_congr fun e he ↦ ?_
    rw [AuditKind.announces_of_ofLoading _ (Configuration.kind_of_mem_load he),
      if_neg Bool.false_ne_true]
    rfl
  rw [reload_signals, Sink.taken_append, Thresholds.after_map_record, hevents, List.filter_append,
    hloading]
  congr 1
  -- What is left is announced, if anything is, and by then the thresholds have been published.
  rcases hload : (Configuration.load docs).result with e | c
  · rfl
  · show Sink.file.taken c.thresholds ((m.announcement (.ok c)).map .record) = _
    rw [(m.reload_of_load_ok hload).2, Sink.taken_map_record]
    refine List.filter_congr fun e he ↦ ?_
    have hannounces : e.kind.announces = true := by
      rcases List.mem_cons.1 he with rfl | he
      · rfl
      · exact Configuration.announces_of_mem_communityEvents he
    rw [hannounces, if_pos rfl]
    rfl

/-- What is on the staging slot does not matter to a pass. -/
theorem reload_discard : m.discard.reload docs = m.reload docs :=
  rfl

/-! ### Passes one after the other -/

/-- Doing more operations goes on from where the first have led. -/
theorem run_append (m : Manager) (ops ops' : List Operation) :
    (m.run (ops ++ ops')).2 = ((m.run ops).2.run ops').2 := by
  induction ops generalizing m with
  | nil => rfl
  | cons op ops ih =>
    rw [List.cons_append, run_cons, run_cons]
    exact ih _

/-- The manager after passes. -/
def afterPasses (m : Manager) (passes : List (List Document)) : Manager :=
  (m.run (passes.map .reload)).2

/-- All that passes signal to their log. -/
def signalsOf (m : Manager) : List (List Document) → List Signal
  | [] => []
  | docs :: later => (m.reload docs).signals ++ (m.reload docs).manager.signalsOf later

variable (before later : List (List Document))

theorem afterPasses_append :
    m.afterPasses (before ++ later) = (m.afterPasses before).afterPasses later := by
  rw [afterPasses, List.map_append, run_append]
  rfl

theorem afterPasses_concat :
    m.afterPasses (before ++ [docs]) = ((m.afterPasses before).reload docs).manager :=
  m.afterPasses_append before [docs]

theorem signalsOf_append :
    m.signalsOf (before ++ later) =
      m.signalsOf before ++ (m.afterPasses before).signalsOf later := by
  induction before generalizing m with
  | nil => rfl
  | cons docs before ih =>
    rw [List.cons_append, signalsOf, signalsOf, ih, List.append_assoc]
    rfl

/-- **The log has the thresholds of the manager** at the end of every pass. -/
theorem after_signalsOf :
    m.thresholds.after (m.signalsOf before) = (m.afterPasses before).thresholds := by
  induction before generalizing m with
  | nil => rfl
  | cons docs before ih =>
    rw [signalsOf, Thresholds.after_append, ← thresholds_reload, ih]
    rfl

/-- The documents of the last pass that has succeeded, which is to say that they load
(`reload_result`). -/
def lastSuccess? (passes : List (List Document)) : Option (List Document) :=
  passes.reverse.find? fun docs ↦ (Configuration.load docs).result.toOption.isSome

theorem lastSuccess?_concat :
    lastSuccess? (before ++ [docs]) =
      if (Configuration.load docs).result.toOption.isSome then some docs
      else lastSuccess? before := by
  rw [lastSuccess?, List.reverse_append, List.reverse_singleton, List.singleton_append,
    List.find?_cons, lastSuccess?]
  rcases (Configuration.load docs).result with e | c
  · rfl
  · rfl

/-- **What is active** after passes is what the documents of the last that has succeeded load as. By
induction on the last pass. -/
theorem active_afterPasses (t : Thresholds) :
    ((ofThresholds t).afterPasses before).active =
      (lastSuccess? before).bind fun docs ↦ (Configuration.load docs).result.toOption := by
  induction before using List.reverseRecOn with
  | nil => rfl
  | append_singleton before docs ih =>
    rw [afterPasses_concat, lastSuccess?_concat]
    rcases hload : (Configuration.load docs).result with e | c
    · rw [(reload_of_load_error _ hload).2]
      exact ih
    · rw [(reload_of_load_ok _ hload).2]
      show some c = (Configuration.load docs).result.toOption
      rw [hload]
      rfl

/-- The threshold of the log after passes: that of the active configuration, or else the initial
one. -/
theorem log_afterPasses (t : Thresholds) :
    ((ofThresholds t).afterPasses before).thresholds.log =
      ((ofThresholds t).afterPasses before).active.elim t.log (·.settings.logThreshold) := by
  rw [afterPasses, (recordedBy_run t _).thresholds]
  rcases ((ofThresholds t).run (before.map .reload)).2.active with - | c
  · rfl
  · exact Thresholds.log_ofSeverities _ _

/-- A failing pass does not matter to a pass after it, be there others between them or not. -/
theorem reload_afterPasses_discard (passes : List (List Document)) :
    (m.discard.afterPasses passes).thresholds = (m.afterPasses passes).thresholds ∧
      (m.discard.afterPasses passes).reload docs = (m.afterPasses passes).reload docs := by
  rcases passes with - | ⟨first, passes⟩
  · exact ⟨rfl, m.reload_discard docs⟩
  · -- The first pass in between starts by emptying the slot, so from then on all is the same.
    exact ⟨rfl, rfl⟩

/-- The events that the log takes of a pass over documents, made after other passes through a
manager that started with nothing. -/
def takenOf (t : Thresholds) (before : List (List Document)) (docs : List Document) :
    List AuditEvent :=
  let m := (ofThresholds t).afterPasses before
  Sink.file.taken m.thresholds (m.reload docs).signals

/-- What the log is given to write is added to by every pass. -/
theorem writtenBy_concat (clock : ℕ → Milliseconds) (t : Thresholds) :
    Sink.file.writtenBy clock t ((ofThresholds t).signalsOf (before ++ [docs])) =
      Sink.file.writtenBy clock t ((ofThresholds t).signalsOf before) ++
        String.join ((takenOf t before docs).mapIdx fun n e ↦ e.line (clock
          (n + (Sink.file.taken t ((ofThresholds t).signalsOf before)).length)) ++ "\n") := by
  have hafter := (ofThresholds t).after_signalsOf before
  rw [signalsOf_append, Sink.writtenBy_append]
  show _ ++ Sink.file.writtenBy _ ((ofThresholds t).thresholds.after _) (_ ++ []) = _
  rw [hafter, List.append_nil]
  rfl

end Manager

/-! ### What a pass can know of those before it -/

namespace AuditEvent

/-- The event with the number of a generation left aside: where a configuration is announced, the
message is that of generation zero. -/
def withoutGeneration (e : AuditEvent) : AuditEvent :=
  if e.kind = .applied then { e with message := (applied 0).message } else e

theorem kind_withoutGeneration (e : AuditEvent) : e.withoutGeneration.kind = e.kind := by
  rw [withoutGeneration]
  split
  · rfl
  · rfl

theorem severity_withoutGeneration (e : AuditEvent) :
    e.withoutGeneration.severity = e.severity := by
  rw [withoutGeneration]
  split
  · rfl
  · rfl

end AuditEvent

namespace Manager

variable [Json.Diagnosis] {m m' : Manager}

/-- All managers record the same of a pass, generations aside. -/
theorem events_reload_congr (m m' : Manager) (docs : List Document) :
    (m.reload docs).events.map AuditEvent.withoutGeneration =
      (m'.reload docs).events.map AuditEvent.withoutGeneration := by
  rw [reload_events, reload_events, List.map_append, List.map_append]
  rcases (Configuration.load docs).result with e | c
  · rfl
  · rfl

/-- A pass leaves managers under equal thresholds under equal thresholds. -/
theorem log_reload_congr (h : m.thresholds.log = m'.thresholds.log) (docs : List Document) :
    (m.reload docs).manager.thresholds.log = (m'.reload docs).manager.thresholds.log := by
  rcases hload : (Configuration.load docs).result with e | c
  · rw [(m.reload_of_load_error hload).2, (m'.reload_of_load_error hload).2]
    exact h
  · rw [(m.reload_of_load_ok hload).2, (m'.reload_of_load_ok hload).2]
    rfl

/-- The logs of managers under equal thresholds take the same of a pass, generations aside: these
stand in a message, and an event is judged by its kind and severity. -/
theorem taken_reload_congr (h : m.thresholds.log = m'.thresholds.log) (docs : List Document) :
    (Sink.file.taken m.thresholds (m.reload docs).signals).map AuditEvent.withoutGeneration =
      (Sink.file.taken m'.thresholds (m'.reload docs).signals).map
        AuditEvent.withoutGeneration := by
  have hfilter (new old : Severity) (events : List AuditEvent) :
      (events.filter fun e ↦ e.severity.passes (if e.kind.announces then new else old)).map
          AuditEvent.withoutGeneration =
        (events.map AuditEvent.withoutGeneration).filter fun e ↦
          e.severity.passes (if e.kind.announces then new else old) := by
    rw [List.filter_map]
    refine congrArg _ (List.filter_congr fun e _ ↦ ?_)
    rw [Function.comp_apply, AuditEvent.severity_withoutGeneration,
      AuditEvent.kind_withoutGeneration]
  rw [taken_reload, taken_reload, hfilter, hfilter, events_reload_congr m m', h,
    log_reload_congr h]

/-- Passes that have ended with the same documents have left the same threshold. -/
theorem log_afterPasses_congr {t t' : Thresholds} {before before' : List (List Document)}
    (hlast : lastSuccess? before' = lastSuccess? before)
    (hinitial : lastSuccess? before = none → t'.log = t.log) :
    ((ofThresholds t').afterPasses before').thresholds.log =
      ((ofThresholds t).afterPasses before).thresholds.log := by
  rw [log_afterPasses, log_afterPasses, active_afterPasses, active_afterPasses, hlast]
  rcases hdocs : lastSuccess? before with - | docs
  · exact hinitial hdocs
  · -- The documents that were found do load, so the initial thresholds play no part.
    have hsome := List.find?_some hdocs
    rcases hload : (Configuration.load docs).result with e | c
    · rw [hload] at hsome
      exact absurd hsome Bool.false_ne_true
    · show ((Configuration.load docs).result.toOption).elim _ _ =
        ((Configuration.load docs).result.toOption).elim _ _
      rw [hload]
      rfl

/-- **Which threshold governs which line.** Passes go through a manager that starts with nothing,
one after the other, and share their thresholds with a log. Take any of them, and what has come
before it:

* what it adds to the log are the lines of some of its events, in order;
* these are the events that pass the threshold governing them. That is the threshold of the
  configuration active after the pass for the announcement of a configuration and its communities,
  and of the configuration active before the pass for everything else; where none is active, it is
  the initial threshold;
* there are no events but of documents read, of revisions and of failures, and announcements, which
  are only there when the pass has made a configuration active;
* when the pass fails, it leaves the thresholds as they are, and all that comes later is logged as
  if it had not been made;
* a pass succeeds or fails as loading its documents does, whatever the manager holds, and after it
  the last success is this pass if it has succeeded, and the one before otherwise;
* what it adds depends, but for times and the number of the generation, on its own documents and on
  those of the last pass before it that has succeeded, or if none has on the initial threshold. -/
theorem log_governed (clock : ℕ → Milliseconds) (t : Thresholds) (before : List (List Document))
    (docs : List Document) :
    let m := (ofThresholds t).afterPasses before
    let pass := m.reload docs
    (Sink.file.writtenBy clock t ((ofThresholds t).signalsOf (before ++ [docs])) =
      Sink.file.writtenBy clock t ((ofThresholds t).signalsOf before) ++
        String.join ((takenOf t before docs).mapIdx fun n e ↦ e.line (clock
          (n + (Sink.file.taken t ((ofThresholds t).signalsOf before)).length)) ++ "\n")) ∧
    (takenOf t before docs = pass.events.filter fun e ↦ e.severity.passes
      (if e.kind = .applied ∨ e.kind = .community then
        pass.manager.active.elim t.log (·.settings.logThreshold)
      else m.active.elim t.log (·.settings.logThreshold))) ∧
    (∀ e ∈ pass.events,
      e.kind ∈ [.fileParsing, .revision, .parseFailed, .invalid] ∨
      (e.kind = .applied ∨ e.kind = .community) ∧
        ∃ c, pass.result = .ok c ∧ pass.manager.active = some c) ∧
    (∀ e, pass.result = .error e → pass.manager.thresholds = m.thresholds ∧
      ∀ between docs', takenOf t (before ++ docs :: between) docs' =
        takenOf t (before ++ between) docs') ∧
    pass.result = (Configuration.load docs).result ∧
    lastSuccess? (before ++ [docs]) =
      (if pass.result.toOption.isSome then some docs else lastSuccess? before) ∧
    ∀ t' before', lastSuccess? before' = lastSuccess? before →
      (lastSuccess? before = none → t'.log = t.log) →
      (takenOf t' before' docs).map AuditEvent.withoutGeneration =
        (takenOf t before docs).map AuditEvent.withoutGeneration := by
  intro m pass
  have hannounces (kind : AuditKind) :
      kind.announces = true ↔ kind = .applied ∨ kind = .community := by
    rcases kind with - | - | - | - | - | - | label <;> simp [AuditKind.announces]
  have hresult : pass.result = (Configuration.load docs).result := m.reload_result docs
  refine ⟨writtenBy_concat docs before clock t, ?_, fun e he ↦ ?_, fun e he ↦ ?_, hresult, ?_,
    fun t' before' hlast hinitial ↦ ?_⟩
  · -- The pass is the last of those made so far, so what it leaves is what they leave.
    have hbefore : m.thresholds.log = m.active.elim t.log (·.settings.logThreshold) :=
      log_afterPasses before t
    have hafter : pass.manager.thresholds.log =
        pass.manager.active.elim t.log (·.settings.logThreshold) := by
      have hlog := log_afterPasses (before ++ [docs]) t
      rwa [afterPasses_concat] at hlog
    show Sink.file.taken m.thresholds pass.signals = _
    rw [taken_reload, hbefore, show (m.reload docs).manager.thresholds.log = _ from hafter]
    refine List.filter_congr fun e _ ↦ ?_
    rw [if_congr (hannounces e.kind) rfl rfl]
  · rw [show pass.events = _ from m.reload_events docs] at he
    rcases List.mem_append.1 he with he | he
    · exact .inl (Configuration.kind_of_mem_load he)
    · rcases hload : (Configuration.load docs).result with e' | c
      · rw [hload] at he
        exact absurd he List.not_mem_nil
      · obtain ⟨hok, hmanager⟩ := m.reload_of_load_ok hload
        refine .inr ⟨(hannounces e.kind).1 ?_, c, hok, by rw [hmanager]; rfl⟩
        rw [hload] at he
        rcases List.mem_cons.1 he with rfl | he
        · rfl
        · exact Configuration.announces_of_mem_communityEvents he
  · have hmanager : pass.manager = m.discard := by
      rw [hresult] at he
      exact (m.reload_of_load_error he).2
    refine ⟨by rw [hmanager]; rfl, fun between docs' ↦ ?_⟩
    have hlater : (ofThresholds t).afterPasses (before ++ docs :: between) =
        m.discard.afterPasses between := by
      rw [afterPasses_append, ← hmanager]
      rfl
    obtain ⟨hthresholds, hreload⟩ := m.reload_afterPasses_discard docs' between
    rw [takenOf, takenOf, hlater, afterPasses_append, hthresholds, hreload]
  · rw [lastSuccess?_concat, hresult]
  · exact taken_reload_congr (log_afterPasses_congr hlast hinitial) docs

end Manager

/-- Documents that load, the last of which has everything logged. -/
def Document.verbose : List Document := [referring, declaring, lower]

theorem Configuration.load_verbose [Json.Diagnosis] :
    ∃ c, load Document.verbose = ⟨Document.verbose.map .parsing, .ok c⟩ ∧
      c.settings.logThreshold = .debug ∧ c.communityEvents.map (·.kind) = [.community] := by
  have hfragments : List.Forall₂ (fun doc f ↦ Document.fragment doc = .ok f) Document.verbose _ :=
    .cons Document.fragment_referring (.cons Document.fragment_declaring
      (.cons Document.fragment_lower .nil))
  obtain ⟨c, hresult, hsettings⟩ : ∃ c, (load Document.verbose).result = .ok c ∧
      c.settings.logThreshold = .debug ∧ c.communityEvents.map (·.kind) = [.community] :=
    ⟨_, Draft.load_eq_ok_iff.2 ⟨nofun, _, hfragments, rfl⟩, rfl, rfl⟩
  have hne : Document.verbose ≠ [] := nofun
  have hevents : Document.verbose.flatMap Document.announced = Document.verbose.map .parsing := by
    simp only [Document.verbose, List.flatMap_cons,
      Document.announced_of_fragment Document.fragment_referring,
      Document.announced_of_fragment Document.fragment_declaring,
      Document.announced_of_fragment Document.fragment_lower]
    rfl
  rcases load_of_decoded hne (Document.exists_fragments_iff.1 ⟨_, hfragments⟩) with
    ⟨e, -, hload⟩ | ⟨c', hload⟩
  · rw [hload] at hresult
    cases hresult
  · rw [hload] at hresult
    cases hresult
    exact ⟨c, hload.trans (by rw [hevents]), hsettings⟩

open Document in
/-- Only errors are logged at first, so of a broken document its failure, and not that it is read.
Of the pass that lowers the threshold, what it announces is logged and nothing else. From then on
everything is, and a failing pass in between changes nothing. -/
theorem Manager.log_governed_lowered :
    let t := Thresholds.ofSeverities .err .err
    lastSuccess? [verbose] = some verbose ∧
    (takenOf t [] [broken]).map (·.kind) = [.parseFailed] ∧
    (takenOf t [] verbose).map (·.kind) = [.applied, .community] ∧
    (takenOf t [verbose] [broken]).map (·.kind) = [.fileParsing, .parseFailed] ∧
    (takenOf t [verbose, [broken]] [broken]).map (·.kind) = [.fileParsing, .parseFailed] := by
  intro t
  obtain ⟨c, hload, hdebug, hcommunity⟩ := Configuration.load_verbose
  have hbroken : Configuration.load [broken] = _ :=
    @Configuration.load_of_split _ [] [] _ _ (List.forall_mem_nil _) fragment_broken
  obtain ⟨-, htaken, -, -, hresult, hlast, -⟩ := log_governed (fun _ ↦ 0) t [] verbose
  obtain ⟨-, -, -, -, hresult', hlast', -⟩ := log_governed (fun _ ↦ 0) t [verbose] [broken]
  have hlast : lastSuccess? [verbose] = some verbose := by
    rw [hresult, hload] at hlast
    exact hlast
  have hlast' : lastSuccess? [verbose, [broken]] = some verbose := by
    rw [hresult', hbroken] at hlast'
    exact hlast'.trans hlast
  -- What is taken of the broken document, under whatever threshold the passes before it have left.
  have htakenBroken (before : List (List Document)) (threshold : Severity)
      (h : ((ofThresholds t).afterPasses before).active.elim t.log (·.settings.logThreshold) =
        threshold) :
      takenOf t before [broken] = (Configuration.load [broken]).events.filter
        (·.severity.passes threshold) := by
    obtain ⟨-, htaken, -⟩ := log_governed (fun _ ↦ 0) t before [broken]
    rw [htaken, h, reload_events, hbroken]
    rfl
  have hlowered (before : List (List Document)) (h : lastSuccess? before = some verbose) :
      ((ofThresholds t).afterPasses before).active.elim t.log (·.settings.logThreshold) =
        .debug := by
    rw [active_afterPasses, h, Option.bind_some, hload]
    exact hdebug
  have hinitial : ((ofThresholds t).afterPasses []).active.elim t.log (·.settings.logThreshold) =
      .err := rfl
  refine ⟨hlast, ?_, ?_, ?_, ?_⟩
  · rw [htakenBroken _ _ hinitial, hbroken]
    rfl
  · have hactive := hlowered [verbose] hlast
    rw [← List.nil_append [verbose], afterPasses_concat] at hactive
    -- The documents read are judged as errors are, what is announced as everything is.
    have hkept : ∀ e ∈ (ofThresholds t).announcement (.ok c), e.severity.passes
        (if e.kind = .applied ∨ e.kind = .community then .debug else .err) = true := by
      intro e he
      rcases List.mem_cons.1 he with rfl | he
      · rfl
      · obtain ⟨s, -, rfl⟩ := List.mem_map.1 he
        rfl
    rw [htaken, reload_events, hload, hactive, hinitial, List.filter_append, List.map_append]
    show [] ++ (((ofThresholds t).announcement (.ok c)).filter _).map _ = _
    rw [List.filter_eq_self.2 hkept, List.nil_append]
    exact congrArg (AuditKind.applied :: ·) hcommunity
  · rw [htakenBroken _ _ (hlowered _ hlast), hbroken]
    rfl
  · rw [htakenBroken _ _ (hlowered _ hlast'), hbroken]
    rfl

end TrustRouter
