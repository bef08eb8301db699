import TrustRouter.Proofs.Configuration.Refusal
import TrustRouter.Proofs.Document.Reading
import TrustRouter.Proofs.Manager.Transaction

/-! # The settings of documents

Documents may give a section of settings each, and defaults are filled in before one is laid over
another, so that it does not show any more what a section has left out. What the sections come to
can nevertheless be read off them directly: the hostname is the last that is given in any of them,
and every other setting is what the last section gives for it, or its default, whatever stands in
those before (`Draft.settings_of_mergeAll`). An empty hostname counts as given, and it makes the
configuration incomplete even if an earlier section has a better one.
-/

namespace TrustRouter

/-! ### Reading a section -/

namespace Json

/-- The string in a member, as a name. -/
def nameAt? (v : Json) (key : String) : Option Name := (v.stringAt? key).map .ofString

/-- The integer in a member, or a default in its absence. -/
def integerAt (v : Json) (key : String) (default : ℕ) : Int :=
  ((v.member? key).bind integer?).getD default

/-- The severity of the word in a member of the logging section, in its absence that of notices. -/
def thresholdAt (v : Json) (key : String) : Severity :=
  (((v.member? "logging").bind (·.stringAt? key)).map .ofLabel).getD .notice

end Json

/-- Each of the settings, but for the hostname, is what a section gives for it, or its default. -/
structure Settings.GivenBy (s : Settings) (v : Json) : Prop where
  maxTreeDepth : s.maxTreeDepth.toNat = v.integerAt "max_tree_depth" 12
  tidsPort : s.tidsPort.toNat = v.integerAt "tids_port" 12309
  trpsPort : s.trpsPort.toNat = v.integerAt "trps_port" 12308
  cfgPollInterval : s.cfgPollInterval.toNat = v.integerAt "cfg_poll_interval" 1
  cfgSettlingTime : s.cfgSettlingTime.toNat = v.integerAt "cfg_settling_time" 5
  trpConnectInterval : s.trpConnectInterval.toNat = v.integerAt "trp_connect_interval" 10
  trpSweepInterval : s.trpSweepInterval.toNat = v.integerAt "trp_sweep_interval" 30
  trpUpdateInterval : s.trpUpdateInterval.toNat = v.integerAt "trp_update_interval" 30
  logThreshold : s.logThreshold = v.thresholdAt "log_threshold"
  consoleThreshold : s.consoleThreshold = v.thresholdAt "console_threshold"

theorem Settings.GivenBy.withHostname {s : Settings} {v : Json} (h : s.GivenBy v)
    (hostname : Option Name) : ({ s with hostname } : Settings).GivenBy v :=
  ⟨h.maxTreeDepth, h.tidsPort, h.trpsPort, h.cfgPollInterval, h.cfgSettlingTime,
    h.trpConnectInterval, h.trpSweepInterval, h.trpUpdateInterval, h.logThreshold,
    h.consoleThreshold⟩

/-- The section of settings in a document. -/
def Document.settingsSection? (doc : Document) : Option Json :=
  (Json.ofText? doc.text).bind (·.member? "tr_internal")

/-! ### Decoding a section -/

open Decoded

variable {o : Json.Members} {key : String}

theorem Json.nameAt?_of_optional {n : Option Name} (h : optional o key name = .ok n) :
    (object o).nameAt? key = n := by
  rw [nameAt?, stringAt?, member?_object]
  rcases optional_eq_ok_iff.1 h with ⟨hnone, rfl⟩ | ⟨_, _, hsome, hname, rfl⟩
  · rw [hnone]
    rfl
  · obtain ⟨s, rfl, rfl⟩ := name_eq_ok_iff.1 hname
    rw [hsome]
    rfl

/-- A field for words of any width is read as the integer that its word stands for. -/
theorem Json.integerAt_of_fieldD {α : Type} {decode : Json → Decoded α} {toNat : α → ℕ}
    {default a : α} (hdecode : ∀ v a, decode v = .ok a → v.integer? = some (toNat a : Int))
    (h : fieldD o key decode default = .ok a) :
    toNat a = (object o).integerAt key (toNat default) := by
  rw [integerAt, member?_object]
  rcases fieldD_eq_ok_iff.1 h with ⟨hnone, rfl⟩ | ⟨v, hsome, hv⟩
  · rw [hnone]
    rfl
  · rw [hsome, Option.bind_some, hdecode v a hv]
    rfl

theorem Json.stringAt?_of_severity {default s : Severity}
    (h : fieldD o key Severity.ofJson default = .ok s) :
    s = (((object o).stringAt? key).map .ofLabel).getD default := by
  rw [stringAt?, member?_object]
  rcases fieldD_eq_ok_iff.1 h with ⟨hnone, rfl⟩ | ⟨_, hsome, hs⟩
  · rw [hnone]
    rfl
  · obtain ⟨word, rfl, rfl⟩ := Severity.ofJson_eq_ok_iff.1 hs
    rw [hsome]
    rfl

/-- The thresholds are read from the logging section, or are both those for notices. -/
theorem Json.thresholdAt_of_logging {thresholds : Severity × Severity}
    (h : fieldD o "logging" (logging {}) (.notice, .notice) = .ok thresholds) :
    thresholds.1 = (object o).thresholdAt "log_threshold" ∧
      thresholds.2 = (object o).thresholdAt "console_threshold" := by
  rw [thresholdAt, thresholdAt, member?_object]
  rcases fieldD_eq_ok_iff.1 h with ⟨hnone, rfl⟩ | ⟨_, hsome, hv⟩
  · rw [hnone]
    exact ⟨rfl, rfl⟩
  · obtain ⟨o', rfl, hlog, hconsole⟩ := logging_eq_ok_iff.1 hv
    rw [hsome]
    exact ⟨stringAt?_of_severity hlog, stringAt?_of_severity hconsole⟩

/-- **A section is decoded as it reads.** -/
theorem Settings.givenBy_of_ofJson {v : Json} {s : Settings} (h : ofJson v = .ok s) :
    s.GivenBy v ∧ s.hostname = v.nameAt? "hostname" := by
  obtain ⟨o, rfl, hhostname, hlogging, hdepth, htids, htrps, hpoll, hsettling, hconnect, hsweep,
    hupdate⟩ := ofJson_eq_ok_iff.1 h
  obtain ⟨hlog, hconsole⟩ := Json.thresholdAt_of_logging hlogging
  have h16 : ∀ v x, uint16 v = .ok x → v.integer? = some (x.toNat : Int) :=
    fun _ _ ↦ uint16_eq_ok_iff.1
  have h32 : ∀ v x, uint32 v = .ok x → v.integer? = some (x.toNat : Int) :=
    fun _ _ ↦ uint32_eq_ok_iff.1
  refine ⟨?_, (Json.nameAt?_of_optional hhostname).symm⟩
  constructor
  · exact Json.integerAt_of_fieldD h32 hdepth
  · exact Json.integerAt_of_fieldD h16 htids
  · exact Json.integerAt_of_fieldD h16 htrps
  · exact Json.integerAt_of_fieldD h32 hpoll
  · exact Json.integerAt_of_fieldD h32 hsettling
  · exact Json.integerAt_of_fieldD h32 hconnect
  · exact Json.integerAt_of_fieldD h32 hsweep
  · exact Json.integerAt_of_fieldD h32 hupdate
  · exact hlog
  · exact hconsole

theorem Document.settings_of_fragment [Json.Diagnosis] {doc : Document} {f : Fragment}
    (h : doc.fragment = .ok f) :
    Option.Rel (fun v s ↦ Settings.ofJson v = .ok s) doc.settingsSection? f.settings := by
  obtain ⟨-, v, htext, hv⟩ := fragment_eq_ok_iff.1 h
  obtain ⟨o, rfl, -, hsettings, -⟩ := Fragment.ofJson_eq_ok_iff.1 hv
  rw [settingsSection?, htext, Option.bind_some, Json.member?_object]
  rcases optional_eq_ok_iff.1 hsettings with ⟨hnone, hf⟩ | ⟨v, s, hsome, hs, hf⟩
  · rw [hnone, hf]
    exact .none
  · rw [hsome, hf]
    exact .some hs

/-! ### Sections in layers -/

/-- The sections of documents are decoded one for one. -/
theorem Document.settings_of_fragments [Json.Diagnosis] {docs : List Document}
    {fragments : List Fragment}
    (h : List.Forall₂ (fun doc f ↦ Document.fragment doc = .ok f) docs fragments) :
    List.Forall₂ (fun v s ↦ Settings.ofJson v = .ok s) (docs.filterMap settingsSection?)
      (fragments.filterMap (·.settings)) :=
  List.rel_filterMap (fun _ _ hf ↦ settings_of_fragment hf) h

/-- The hostnames that sections give are those that their settings have. -/
theorem Settings.hostnames_of_ofJson {sections : List Json} {settings : List Settings}
    (h : List.Forall₂ (fun v s ↦ Settings.ofJson v = .ok s) sections settings) :
    settings.filterMap (·.hostname) = sections.filterMap (·.nameAt? "hostname") := by
  induction h with
  | nil => rfl
  | cons hs _ ih => rw [List.filterMap_cons, List.filterMap_cons, ih, (givenBy_of_ofJson hs).2]

/-- A hostname is missing exactly when there is none or an empty one. -/
theorem Draft.missingHostname_mem_issues (d : Draft) :
    .missingHostname ∈ d.issues ↔
      d.settings.bind (·.hostname) = none ∨ d.settings.bind (·.hostname) = some .empty := by
  rw [issues_eq_filter, List.mem_filter, Issue.brokenBy]
  cases d.settings.bind (·.hostname) with
  | none => simp [Issue.all]
  | some hostname => simp [Issue.all, Name.isEmpty_iff]

/-- **The settings of documents.** When all documents can be decoded, they can be merged into an
empty draft. It has settings exactly when some document gives a section. Its hostname is the last
that is given in any section, and everything else is what the last section alone gives for it, or
its default. A hostname is reported as missing exactly when no section gives one or the last that is
given is empty. If the documents load, these are the settings of the configuration, and the
thresholds published by a reload are theirs. Overlaying, by which sections are merged, may be
grouped either way. -/
theorem Draft.settings_of_mergeAll [Json.Diagnosis] {docs : List Document}
    (h : ∀ doc ∈ docs, ∃ f, Document.fragment doc = .ok f) :
    let sections := docs.filterMap Document.settingsSection?
    let hostnames := sections.filterMap (·.nameAt? "hostname")
    (∃ d, (Draft.empty.mergeAll docs).result = .ok d ∧
      (d.settings = none ↔ sections = []) ∧
      (∀ s, d.settings = some s → s.hostname = hostnames.getLast? ∧
        ∃ last, sections.getLast? = some last ∧ s.GivenBy last) ∧
      (.missingHostname ∈ d.issues ↔ hostnames = [] ∨ hostnames.getLast? = some .empty) ∧
      (∀ c, (Configuration.load docs).result = .ok c → d.settings = some c.settings) ∧
      ∀ (m : Manager) c, (m.reload docs).result = .ok c → d.settings = some c.settings ∧
        (m.reload docs).manager.thresholds.log = c.settings.logThreshold ∧
        (m.reload docs).manager.thresholds.console = c.settings.consoleThreshold) ∧
    ∀ s₁ s₂ s₃ : Settings, (s₁.overlay s₂).overlay s₃ = s₁.overlay (s₂.overlay s₃) := by
  intro sections hostnames
  obtain ⟨fragments, hmapM⟩ := Except.exists_mapM_eq_ok h
  have hfragments := Except.mapM_eq_ok_iff.1 hmapM
  have hsections : List.Forall₂ (fun v s ↦ Settings.ofJson v = .ok s) sections
      (fragments.filterMap (·.settings)) := Document.settings_of_fragments hfragments
  have hhostnames := Settings.hostnames_of_ofJson hsections
  have hsettings : (Draft.empty.extend fragments).settings =
      Settings.layered (fragments.filterMap (·.settings)) := rfl
  have hload : ∀ c, (Configuration.load docs).result = .ok c →
      (Draft.empty.extend fragments).settings = some c.settings := by
    intro c hc
    have hbuild := build_of_load hc
    rw [fragments_of_forall₂ hfragments] at hbuild
    exact (build_eq_ok_iff.1 hbuild).2.1
  refine ⟨⟨_, mergeAll_eq_ok_iff.2 ⟨fragments, hfragments, rfl⟩, ?_, ?_, ?_, hload, ?_⟩,
    Settings.overlay_assoc⟩
  · rw [hsettings, Settings.layered_eq_none_iff, ← List.length_eq_zero_iff, ← hsections.length_eq,
      List.length_eq_zero_iff]
  · intro s hs
    rw [hsettings] at hs
    obtain ⟨last, hlast, rfl⟩ := Settings.layered_eq_some_iff.1 hs
    have hrel := hsections.getLast?
    rw [hlast] at hrel
    generalize sections.getLast? = last? at hrel
    cases hrel with
    | some hdecoded =>
      exact ⟨congrArg List.getLast? hhostnames, _, rfl,
        (Settings.givenBy_of_ofJson hdecoded).1.withHostname _⟩
  · rw [missingHostname_mem_issues, hsettings, Settings.bind_hostname_layered, hhostnames,
      List.getLast?_eq_none_iff]
  · intro m c hc
    rw [m.reload_result] at hc
    rw [(m.reload_of_load_ok hc).2]
    exact ⟨hload c hc, Thresholds.log_ofSeverities _ _, Thresholds.console_ofSeverities _ _⟩

/-- A section with a hostname, a port and a threshold. -/
def Document.lower : Document :=
  ⟨"lower", "\x7b\"tr_internal\": \x7b\"hostname\": \"tr\", \"tids_port\": 1,
    \"logging\": \x7b\"log_threshold\": \"debug\"\x7d\x7d\x7d"⟩

/-- A section with the other port only. -/
def Document.upper : Document :=
  ⟨"upper", "\x7b\"tr_internal\": \x7b\"trps_port\": 2\x7d\x7d"⟩

theorem Document.fragment_lower [Json.Diagnosis] : lower.fragment = .ok ⟨none,
    some { hostname := some (.ofString "tr"), tidsPort := 1, logThreshold := .debug },
    [], [], [], []⟩ := by
  rw [lower]
  exact fragment_of_chars _ (by decide +kernel) (by decide +kernel)

theorem Document.fragment_upper [Json.Diagnosis] :
    upper.fragment = .ok ⟨none, some { trpsPort := 2 }, [], [], [], []⟩ := by
  rw [upper]
  exact fragment_of_chars _ (by decide +kernel) (by decide +kernel)

theorem Draft.settings_of_mergeAll_upper :
    (∀ doc ∈ [Document.lower, .upper], ∃ f, doc.fragment = .ok f) ∧
    ∃ d s, (Draft.empty.mergeAll [.lower, .upper]).result = .ok d ∧ d.settings = some s ∧
      s.hostname = some (.ofString "tr") ∧ s.tidsPort.toNat = 12309 ∧ s.trpsPort.toNat = 2 ∧
      s.logThreshold = .notice := by
  have hdecoded : ∀ doc ∈ [Document.lower, .upper], ∃ f, doc.fragment = .ok f := by
    intro doc hdoc
    rcases List.mem_pair.1 hdoc with rfl | rfl
    · exact ⟨_, Document.fragment_lower⟩
    · exact ⟨_, Document.fragment_upper⟩
  obtain ⟨⟨d, hmerge, hnone, hsome, -⟩, -⟩ := settings_of_mergeAll hdecoded
  -- What the theorem refers to is read from the texts.
  have hreadLower : Document.lower.settingsSection?.map (·.nameAt? "hostname") =
      some (some (.ofString "tr")) := by
    rw [Document.lower, Document.settingsSection?, Json.ofText?_ofList]
    decide +kernel
  have hreadUpper : Document.upper.settingsSection?.map (fun v ↦ (v.nameAt? "hostname",
      v.integerAt "tids_port" 12309, v.integerAt "trps_port" 12308,
      v.thresholdAt "log_threshold")) = some (none, 12309, 2, .notice) := by
    rw [Document.upper, Document.settingsSection?, Json.ofText?_ofList]
    decide +kernel
  obtain ⟨v, hv, hname⟩ := Option.map_eq_some_iff.1 hreadLower
  obtain ⟨w, hw, hread⟩ := Option.map_eq_some_iff.1 hreadUpper
  obtain ⟨hname', htids, htrps, hlog⟩ := by simpa only [Prod.mk.injEq] using hread
  have hsections : [.lower, .upper].filterMap Document.settingsSection? = [v, w] := by
    rw [List.filterMap_cons_some hv, List.filterMap_cons_some hw, List.filterMap_nil]
  have hnames : [v, w].filterMap (·.nameAt? "hostname") = [.ofString "tr"] := by
    simp [hname, hname']
  rw [hsections] at hnone hsome
  obtain ⟨s, hs⟩ := Option.ne_none_iff_exists'.1 (mt hnone.1 (List.cons_ne_nil v [w]))
  obtain ⟨hhostname, last, hlast, hgiven⟩ := hsome s hs
  rw [hnames] at hhostname
  obtain rfl : w = last := Option.some.inj hlast
  refine ⟨hdecoded, d, s, hmerge, hs, hhostname, ?_, ?_, hgiven.logThreshold.trans hlog⟩
  · exact Int.ofNat_inj.1 (hgiven.tidsPort.trans htids)
  · exact Int.ofNat_inj.1 (hgiven.trpsPort.trans htrps)

end TrustRouter
