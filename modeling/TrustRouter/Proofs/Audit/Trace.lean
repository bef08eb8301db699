import TrustRouter.Proofs.Configuration.Merging
import TrustRouter.Proofs.Manager.Transaction

/-!
# The trace of a pass

What a pass records, event for event. Recording is interleaved with the work and ends where the work
ends, so the trace follows the documents: those that can be decoded are announced one after the
other (`Document.announced`), and then comes exactly one of three endings. A document that cannot be
decoded is the last that leaves a trace; a configuration that cannot be built leaves one more event;
and one that is made active is announced with its communities, which is all that a reload records
beyond a load.

The events are written out here with their kinds, severities and texts, and the revision number is
read from the value of the document, not from what was decoded.
-/

namespace TrustRouter

namespace Document

/-- The revision number that a document gives, if it gives a number. -/
def serialNumber? (doc : Document) : Option Json.Number :=
  (Json.ofText? doc.text).bind fun v ↦ (v.member? "serial_number").bind Json.number?

/-- What is recorded of a document that can be decoded: that it is read, and its revision if it
gives one. -/
def announced (doc : Document) : List AuditEvent :=
  { kind := .fileParsing, severity := .debug, file := doc.name,
    message := "parsing " ++ doc.name } ::
  doc.serialNumber?.toList.map fun n : Json.Number ↦
    { kind := .revision, severity := .notice, file := doc.name, serialNumber := n,
      message := "attempting to load revision " ++ n.text ++ " of " ++ doc.name }

/-- The number that is decoded is the one that the value gives. -/
theorem serialNumber_of_fragment [Json.Diagnosis] {doc : Document} {f : Fragment}
    (h : doc.fragment = .ok f) :
    f.serialNumber = doc.serialNumber? := by
  obtain ⟨-, v, htext, hv⟩ := fragment_eq_ok_iff.1 h
  obtain ⟨o, rfl, hserial, -⟩ := Fragment.ofJson_eq_ok_iff.1 hv
  rw [hserial, serialNumber?, htext]
  rfl

theorem announced_of_fragment [Json.Diagnosis] {doc : Document} {f : Fragment}
    (h : doc.fragment = .ok f) : doc.announced = .parsing doc :: Draft.revisions doc f := by
  rw [Draft.revisions, serialNumber_of_fragment h]
  rfl

/-- All documents can be decoded exactly when there are fragments of them. -/
theorem exists_fragments_iff [Json.Diagnosis] {docs : List Document} :
    (∃ fragments, List.Forall₂ (fun doc f ↦ fragment doc = .ok f) docs fragments) ↔
      ∀ doc ∈ docs, ∃ f, doc.fragment = .ok f := by
  simp only [← Except.mapM_eq_ok_iff, Except.exists_mapM_eq_ok_iff]

/-- Either all documents can be decoded, or there is a first that cannot. -/
theorem decode_or_split [Json.Diagnosis] (docs : List Document) :
    (∀ doc ∈ docs, ∃ f, doc.fragment = .ok f) ∨
    ∃ before doc after e, docs = before ++ doc :: after ∧
      (∀ doc ∈ before, ∃ f, doc.fragment = .ok f) ∧ doc.fragment = .error e := by
  induction docs with
  | nil => exact .inl (List.forall_mem_nil _)
  | cons doc docs ih =>
    cases hf : doc.fragment with
    | error e => exact .inr ⟨[], doc, docs, e, rfl, List.forall_mem_nil _, hf⟩
    | ok f =>
      rcases ih with h | ⟨before, doc', after, e, rfl, h, he⟩
      · exact .inl (List.forall_mem_cons.2 ⟨⟨f, hf⟩, h⟩)
      · exact .inr ⟨doc :: before, doc', after, e, rfl, List.forall_mem_cons.2 ⟨⟨f, hf⟩, h⟩, he⟩

end Document

namespace Draft

variable {d : Draft} {docs : List Document} {fragments : List Fragment}

/-! ### Merging and building -/

/-- **Documents that can be decoded** are announced, and merging goes on with the others. -/
theorem mergeAll_append [Json.Diagnosis]
    (h : List.Forall₂ (fun doc f ↦ Document.fragment doc = .ok f) docs fragments)
    (rest : List Document) :
    d.mergeAll (docs ++ rest) =
      ⟨docs.flatMap Document.announced ++ ((fragments.foldl merge d).mergeAll rest).events,
        ((fragments.foldl merge d).mergeAll rest).result⟩ := by
  induction h generalizing d with
  | nil => rfl
  | @cons doc f docs fragments hf _ ih =>
    rw [List.cons_append, mergeAll, hf]
    -- One document announced, and the rest merged into what it has been merged into.
    show (⟨.parsing doc :: (revisions doc f ++ ((d.merge f).mergeAll (docs ++ rest)).events),
      ((d.merge f).mergeAll (docs ++ rest)).result⟩ : Reported Draft) = _
    rw [ih, List.flatMap_cons, Document.announced_of_fragment hf, List.cons_append,
      List.cons_append, List.append_assoc]
    rfl

/-- A configuration that cannot be built leaves one event. -/
theorem finish_of_build_error {e : EntityError} (h : d.build = .error e) :
    d.finish = ⟨[.buildFailed (.ofEntityError ⟨none, none⟩ e)],
      .error (.ofEntityError ⟨none, none⟩ e)⟩ := by
  rw [finish, h]

theorem finish_of_build_ok {c : Configuration} (h : d.build = .ok c) : d.finish = ⟨[], .ok c⟩ := by
  rw [finish, h]

end Draft

/-! ### Loading -/

namespace Configuration

variable [Json.Diagnosis] {docs : List Document}

/-- The first document that cannot be decoded ends a load, and what comes after it leaves no
trace. -/
theorem load_of_split {before after : List Document} {doc : Document} {e : LoadError}
    (hbefore : ∀ doc ∈ before, ∃ f, doc.fragment = .ok f) (he : doc.fragment = .error e) :
    load (before ++ doc :: after) =
      ⟨before.flatMap Document.announced ++ [.parsing doc, .documentFailed doc e], .error e⟩ := by
  obtain ⟨fragments, hfragments⟩ := Document.exists_fragments_iff.2 hbefore
  have hne : (before ++ doc :: after).isEmpty = false := by simp
  rw [load, Draft.load, hne, Draft.mergeAll_append hfragments, Draft.mergeAll, he]
  rfl

/-- When all documents can be decoded, building a configuration decides. -/
theorem load_of_decoded (hne : docs ≠ []) (h : ∀ doc ∈ docs, ∃ f, doc.fragment = .ok f) :
    (∃ e : LoadError,
      ((∃ issues, e = .incomplete issues) ∨ ∃ community realm, e = .unknownRealm community realm) ∧
      load docs = ⟨docs.flatMap Document.announced ++ [.buildFailed e], .error e⟩) ∨
    ∃ c, load docs = ⟨docs.flatMap Document.announced, .ok c⟩ := by
  obtain ⟨fragments, hfragments⟩ := Document.exists_fragments_iff.2 h
  have hload : load docs = ⟨docs.flatMap Document.announced ++
      (fragments.foldl Draft.merge .empty).finish.events,
      (fragments.foldl Draft.merge .empty).finish.result⟩ := by
    have hmerge := Draft.mergeAll_append (d := .empty) hfragments []
    rw [List.append_nil] at hmerge
    rw [load, Draft.load, if_neg (by simpa using hne), hmerge, Draft.mergeAll, List.append_nil]
  generalize fragments.foldl Draft.merge .empty = d at hload
  cases hbuild : d.build with
  | error e =>
    rw [Draft.finish_of_build_error hbuild] at hload
    refine .inl ⟨_, ?_, hload⟩
    rcases Draft.build_error_cases hbuild with ⟨community, realm, rfl⟩ | ⟨-, rfl⟩
    · exact .inr ⟨community, realm, rfl⟩
    · exact .inl ⟨_, rfl⟩
  | ok c =>
    rw [Draft.finish_of_build_ok hbuild, List.append_nil] at hload
    exact .inr ⟨c, hload⟩

/-- When there are documents and a load of them fails, its error is what is recorded last. -/
theorem getLast?_events_of_load_error {e : LoadError} (hne : docs ≠ [])
    (h : (load docs).result = .error e) :
    ∃ event, (load docs).events.getLast? = some event ∧ event.severity = .err ∧
      event.message = e.message := by
  rcases Document.decode_or_split docs with hdecoded | ⟨before, doc, after, e', rfl, hbefore, he⟩
  · rcases load_of_decoded hne hdecoded with ⟨e', -, hload⟩ | ⟨c, hload⟩
    · rw [hload] at h
      cases h
      rw [hload]
      exact ⟨.buildFailed e, List.getLast?_concat, rfl, rfl⟩
    · rw [hload] at h
      cases h
  · have hload : load (before ++ doc :: after) = _ := load_of_split hbefore he
    rw [hload] at h
    cases h
    rw [hload, List.getLast?_append]
    exact ⟨.documentFailed doc e, rfl, rfl, rfl⟩

end Configuration

/-! ### Reloading -/

theorem Signal.filterMap_event?_record (events : List AuditEvent) :
    (events.map record).filterMap event? = events := by
  rw [List.filterMap_map]
  exact List.filterMap_some

namespace Manager

/-- A reload records what a load does, and announces what it has made active. -/
theorem reload_events [Json.Diagnosis] (m : Manager) (docs : List Document) :
    (m.reload docs).events = (Configuration.load docs).events ++
      match (Configuration.load docs).result with
      | .ok c => .applied (m.generation + 1) :: c.communityEvents
      | .error _ => [] := by
  rw [reload_eq]
  generalize Configuration.load docs = loading
  obtain ⟨events, e | c⟩ := loading
  · rw [List.append_nil]
    exact Signal.filterMap_event?_record events
  · show (events.map Signal.record ++ Signal.publish c.thresholds ::
      (AuditEvent.applied (m.generation + 1) :: c.communityEvents).map Signal.record).filterMap
        Signal.event? = _
    rw [List.filterMap_append, List.filterMap_cons_none rfl, Signal.filterMap_event?_record,
      Signal.filterMap_event?_record]

/-- **The trace of a pass**, for every manager and all documents that there are any of. It is that
of one of three endings. A document cannot be decoded: all before it are announced, it is read and
its error recorded at its name, and it does not matter what comes after it. Or all are announced and
the configuration cannot be built: one more event, of no document, records the error, as invalid
when it is a matter of validation and as failed when a reference is not found. Or all are announced
and the configuration becomes active: its generation is announced, and then each of its communities
once, in lookup order. A load records the same, but for what is announced of an active
configuration. -/
theorem trace_of_reload [Json.Diagnosis] (m : Manager) {docs : List Document} (hne : docs ≠ []) :
    (∃ before doc after e, docs = before ++ doc :: after ∧
      (∀ doc ∈ before, ∃ f, doc.fragment = .ok f) ∧ doc.fragment = .error e ∧
      (m.reload docs).result = .error e ∧
      (m.reload docs).events = before.flatMap Document.announced ++ [
        { kind := .fileParsing, severity := .debug, file := doc.name,
          message := "parsing " ++ doc.name },
        { kind := .parseFailed, severity := .err, file := doc.name, message := e.message }] ∧
      (Configuration.load docs).events = (m.reload docs).events ∧
      ∀ after', (m.reload (before ++ doc :: after')).events = (m.reload docs).events) ∨
    (∀ doc ∈ docs, ∃ f, doc.fragment = .ok f) ∧
      ((∃ e kind, (m.reload docs).result = .error e ∧
        (e.kind = "validation" ∧ kind = .invalid ∨ e.kind = "not_found" ∧ kind = .parseFailed) ∧
        (m.reload docs).events = docs.flatMap Document.announced ++ [
          { kind, severity := .err, file := none, message := e.message }] ∧
        (Configuration.load docs).events = (m.reload docs).events) ∨
      ∃ c, (m.reload docs).result = .ok c ∧
        (m.reload docs).manager.generation = m.generation + 1 ∧
        (m.reload docs).events = docs.flatMap Document.announced ++
          { kind := .applied, severity := .notice,
            message := "configuration generation " ++
              toString (m.reload docs).manager.generation ++ " applied" } ::
          c.communities.map (fun community ↦
            { kind := .community, severity := .notice,
              message := (c.summarize community).title ++ ": member idps " ++
                (c.summarize community).idpList ++ "; member rps " ++
                (c.summarize community).rpList }) ∧
        (Configuration.load docs).events = docs.flatMap Document.announced) := by
  rw [m.reload_result, m.reload_events]
  rcases Document.decode_or_split docs with hdecoded | ⟨before, doc, after, e, rfl, hbefore, he⟩
  · refine .inr ⟨hdecoded, ?_⟩
    rcases Configuration.load_of_decoded hne hdecoded with ⟨e, he, hload⟩ | ⟨c, hload⟩
    · rw [hload, List.append_nil]
      rcases he with ⟨issues, rfl⟩ | ⟨community, realm, rfl⟩
      · exact .inl ⟨_, .invalid, rfl, .inl ⟨rfl, rfl⟩, rfl, rfl⟩
      · exact .inl ⟨_, .parseFailed, rfl, .inr ⟨rfl, rfl⟩, rfl, rfl⟩
    · have hmanager := (m.reload_of_load_ok (c := c) (by rw [hload])).2
      rw [hload, hmanager]
      refine .inr ⟨c, rfl, rfl, ?_, rfl⟩
      show docs.flatMap Document.announced ++
        AuditEvent.applied (m.generation + 1) :: c.communityEvents = _
      rw [Configuration.communityEvents, Configuration.summary, List.map_map]
      rfl
  · refine .inl ⟨before, doc, after, e, rfl, hbefore, he, ?_⟩
    rw [Configuration.load_of_split hbefore he, List.append_nil]
    refine ⟨rfl, rfl, rfl, fun after' ↦ ?_⟩
    rw [m.reload_events, Configuration.load_of_split hbefore he, List.append_nil]

end Manager

/-- A document that gives its revision and declares nothing. -/
def Document.revised : Document := ⟨"revised", "\x7b\"serial_number\": 7\x7d"⟩

/-- A document that is no object. -/
def Document.broken : Document := ⟨"broken", "[]"⟩

theorem Document.fragment_revised [Json.Diagnosis] :
    revised.fragment = .ok ⟨some (.ofUInt64 7), none, [], [], [], []⟩ := by
  rw [revised]
  exact fragment_of_chars _ (by decide +kernel) (by decide +kernel)

theorem Document.fragment_broken [Json.Diagnosis] :
    broken.fragment = .error (.malformed ⟨"broken", some []⟩ .notObject) := by
  rw [broken]
  exact fragment_of_chars _ (by decide +kernel) (by decide +kernel)

namespace Manager

/-- The trace ends with the document that is broken, though another follows. -/
theorem trace_of_reload_broken :
    [Document.revised, .broken, .declaring] ≠ [] ∧
    (((ofThresholds (.ofSeverities .notice .notice)).reload
        [.revised, .broken, .declaring]).events.map fun event ↦
      (event.kind, event.severity, event.file, event.message)) = [
        (.fileParsing, .debug, some "revised", "parsing revised"),
        (.revision, .notice, some "revised", "attempting to load revision 7 of revised"),
        (.fileParsing, .debug, some "broken", "parsing broken"),
        (.parseFailed, .err, some "broken",
          "config parse error at broken:$: expected an object")] := by
  have hserial : Document.revised.serialNumber? = some (.ofUInt64 7) :=
    (Document.serialNumber_of_fragment Document.fragment_revised).symm
  have hne : [Document.revised, .broken, .declaring] ≠ [] := nofun
  refine ⟨hne, ?_⟩
  rcases trace_of_reload (ofThresholds (.ofSeverities .notice .notice)) hne with
    ⟨before, doc, after, e, hdocs, hbefore, he, -, hevents, -⟩ | ⟨hdecoded, -⟩
  · rw [hevents]
    rcases before with _ | ⟨first, _ | ⟨second, before⟩⟩
    · obtain ⟨rfl, -⟩ := List.cons_eq_cons.1 hdocs
      rw [Document.fragment_revised] at he
      cases he
    · obtain ⟨rfl, hrest⟩ := List.cons_eq_cons.1 hdocs
      obtain ⟨rfl, -⟩ := List.cons_eq_cons.1 hrest
      rw [Document.fragment_broken] at he
      cases he
      rw [List.flatMap_singleton, Document.announced, hserial]
      decide +kernel
    · obtain ⟨-, hrest⟩ := List.cons_eq_cons.1 hdocs
      obtain ⟨rfl, -⟩ := List.cons_eq_cons.1 hrest
      obtain ⟨f, hf⟩ := hbefore .broken (by simp)
      rw [Document.fragment_broken] at hf
      cases hf
  · obtain ⟨f, hf⟩ := hdecoded .broken (by simp)
    rw [Document.fragment_broken] at hf
    cases hf

/-! ### Failures -/

/-- **A failure is recorded** last and as an error, with the text of the error that is returned,
exactly when there are documents. -/
theorem reload_failure_recorded_iff [Json.Diagnosis] (m : Manager) {docs : List Document}
    {e : LoadError} (h : (m.reload docs).result = .error e) :
    (∃ event, (m.reload docs).events.getLast? = some event ∧ event.severity = .err ∧
      event.message = e.message) ↔ docs ≠ [] := by
  rw [m.reload_result] at h
  rw [m.reload_events, h, List.append_nil]
  constructor
  · rintro ⟨event, hevent, -⟩ rfl
    cases hevent
  · intro hne
    exact Configuration.getLast?_events_of_load_error hne h

theorem reload_failure_recorded_iff_broken :
    ((ofThresholds (.ofSeverities .notice .notice)).reload [.broken]).result =
      .error (.malformed ⟨"broken", some []⟩ .notObject) ∧
    ∃ event, ((ofThresholds (.ofSeverities .notice .notice)).reload [.broken]).events.getLast? =
        some event ∧ event.severity = .err ∧
      event.message = "config parse error at broken:$: expected an object" := by
  have hload := @Configuration.load_of_split _ [] [] _ _ (List.forall_mem_nil _)
    Document.fragment_broken
  have hresult : ((ofThresholds (.ofSeverities .notice .notice)).reload [.broken]).result =
      .error (.malformed ⟨"broken", some []⟩ .notObject) := by
    rw [reload_result]
    exact congrArg Reported.result hload
  obtain ⟨event, hlast, hseverity, hmessage⟩ := (reload_failure_recorded_iff _ hresult).2 nofun
  exact ⟨hresult, event, hlast, hseverity, hmessage.trans (by decide +kernel)⟩

/-- A pass without documents fails, and nothing of that is recorded. -/
theorem reload_failure_unrecorded :
    ¬∀ (m : Manager) (docs : List Document) (e : LoadError), (m.reload docs).result = .error e →
      ∃ event, (m.reload docs).events.getLast? = some event ∧ event.severity = .err ∧
        event.message = e.message := by
  intro h
  obtain ⟨event, hevent, -⟩ := h (ofThresholds (.ofSeverities .notice .notice)) [] .noDocuments rfl
  cases hevent

end Manager

end TrustRouter
