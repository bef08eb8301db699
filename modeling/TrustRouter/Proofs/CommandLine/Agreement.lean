import TrustRouter.Proofs.Audit.Governance
import TrustRouter.Proofs.CommandLine.Report
import TrustRouter.Proofs.Configuration.Merging
import TrustRouter.Proofs.Directory.Discovery
import TrustRouter.Proofs.Document.Entities

/-!
# Checking a directory agrees with showing it

The two commands go different ways. Checking has a manager that holds nothing make a pass, which
stages and promotes what it loads; showing loads and is done. An operator relies on the check to
say what a reload will do, so they must not come apart, whatever the files are and however they
fail. `Command.validate_agrees_with_summary` says so of all that they leave: exit codes, what they
print, and the audit trail of a failure. It rests on this:

* **One list of documents.** Both read the same files in the same order, in whatever order the
  directory is enumerated (`SameDirectory.readDocuments_eq`).
* **One result.** A pass has the result of loading the documents on their own
  (`Manager.reload_result`). What has happened until a pass fails is what has happened while
  loading.
* **One report.** What is printed is read as the value that was reported
  (`Command.ofText?_printedReport`), and the value that is shown is a member of the other.
-/

namespace TrustRouter

/-! ### Invocations -/

namespace Invocation

/-- The first argument of a command that is no flag is its directory. -/
theorem addAll_dir (verb : Verb) {dir : String} (hne : dir ≠ "") (hflag : isFlag dir = false)
    (args : List String) :
    Given.addAll verb {} (dir :: args) = Given.addAll verb { dir := some dir } args := by
  have hdashes : dir ≠ "--" := by
    rintro rfl
    exact absurd hflag (by decide +kernel)
  have hadd : Given.addDir {} dir = .ok { dir := some dir } := by simp [Given.addDir, hne]
  rw [Given.addAll.eq_def]
  show (if dir = "--" then _ else if !isFlag dir then _ else _) = _
  rw [if_neg hdashes, if_pos (by rw [hflag]; rfl), hadd]
  rfl

/-- A directory and the name of a format behind it are taken. -/
theorem addAll_format {verb : Verb} (hverb : verb ≠ .files) {dir word : String}
    {format : OutputFormat} (hne : dir ≠ "") (hflag : isFlag dir = false)
    (hword : isFlag word = false) (hformat : OutputFormat.ofLabel? word = some format) :
    Given.addAll verb {} [dir, "--format", word] =
      .ok { dir := some dir, format := some format } := by
  have hoption : isFlag "--format" = true := by decide +kernel
  have hhelp : asksForHelp "--format" = false := by decide +kernel
  have hsplit : splitOption "--format" = ("--format", none) := by decide +kernel
  rw [addAll_dir verb hne hflag]
  simp [Given.addAll, Given.addOption, hoption, hhelp, hsplit, hword, hformat, hverb]

/-- What is given after a verb makes its command. -/
theorem plan_of_given {verb : Verb} {label : String} {args : List String} {given : Given}
    {c : Command} (hlabel : Verb.ofLabel? label = some verb)
    (hword : label ≠ "--version" ∧ asksForHelp label = false)
    (hgiven : Given.addAll verb {} args = .ok given) (hversion : given.version = false)
    (hcommand : given.command verb = .ok c) : plan ("config" :: label :: args) = .inr c := by
  have hconfig : asksForHelp "config" = false := by decide +kernel
  have hgroup : ofRoot false ("config" :: label :: args) = ofGroup false false (label :: args) := by
    simp [ofRoot, hconfig]
  have hverb : ofGroup false false (label :: args) = ofCommand false verb args := by
    simp [ofGroup, hword, hlabel]
  have hinvocation : ofCommand false verb args = .ok (.run c) := by
    simp [ofCommand, hgiven, hcommand, hversion]
  rw [plan, ofArgs?, hgroup, hverb, hinvocation]
  rfl

/-- The arguments for checking and for showing a directory in JSON. -/
theorem plan_json {dir : String} (hne : dir ≠ "") (hflag : isFlag dir = false) :
    plan ["config", "validate", dir, "--format", "json"] = .inr (.validate dir none .json) ∧
    plan ["config", "show", dir, "--format", "json"] = .inr (.summary dir .json) := by
  have hgiven {verb : Verb} (hverb : verb ≠ .files) :
      Given.addAll verb {} [dir, "--format", "json"] =
        .ok { dir := some dir, format := some .json } :=
    addAll_format hverb hne hflag (by decide +kernel) rfl
  exact ⟨plan_of_given rfl (by decide +kernel) (hgiven nofun) rfl rfl,
    plan_of_given rfl (by decide +kernel) (hgiven nofun) rfl rfl⟩

/-- The arguments for showing a directory to people. -/
theorem plan_text {dir : String} (hne : dir ≠ "") (hflag : isFlag dir = false) :
    plan ["config", "show", dir, "--format", "text"] = .inr (.summary dir .text) := by
  have hverb : Verb.summary ≠ .files := nofun
  exact plan_of_given rfl (by decide +kernel)
    (addAll_format hverb hne hflag (by decide +kernel) rfl) rfl rfl

end Invocation

/-! ### Outcomes -/

/-- A command without an audit log has failed: it prints nothing but, on the standard error stream,
the audit trail of these events and the message about the error. -/
structure Outcome.FailsWith (o : Outcome) (now : Milliseconds) (events : List AuditEvent)
    (e : LoadError) : Prop where
  exitCode : o.exitCode = 1
  stdout : o.stdout = ""
  stderr : o.stderr =
    Sink.console.written now .initial (events.map .record) ++ Command.failure e ++ "\n"
  audit : o.audit = ""

namespace Command

variable {c : Command} {listing listing' : Except ListingError Listing} {now now' : Milliseconds}

theorem withDocuments_of_error {dir : String} {e : LoadError} (pass : List Document → Pass)
    (h : readDocuments dir listing = .error e) :
    withDocuments dir listing pass = ⟨[], .error e⟩ := by
  rw [withDocuments, h]

theorem withDocuments_of_ok {dir : String} {docs : List Document} (pass : List Document → Pass)
    (h : readDocuments dir listing = .ok docs) : withDocuments dir listing pass = pass docs := by
  rw [withDocuments, h]

variable [Json.Diagnosis]

theorem failsWith_of_pass (events : List AuditEvent) {e : LoadError} (hlog : c.auditLog = none)
    (hpass : c.pass listing = ⟨events.map .record, .error e⟩) :
    (c.run listing now).FailsWith now events e := by
  rw [run, hlog, hpass]
  exact ⟨rfl, rfl, rfl, rfl⟩

theorem run_of_result {report : String} (hpass : (c.pass listing).result = .ok report) :
    (c.run listing now).exitCode = 0 ∧
      (c.run listing now).stdout = printedReport report := by
  rw [run, hpass]
  exact ⟨rfl, rfl⟩

/-! #### Passes over documents -/

variable {docs : List Document}

/-- Checking fails as loading fails, with the events of loading. -/
theorem validateDocuments_of_load_error {e : LoadError}
    (h : (Configuration.load docs).result = .error e) (format : OutputFormat) :
    validateDocuments docs format =
      ⟨(Configuration.load docs).events.map .record, .error e⟩ := by
  have hsignals := (Manager.ofThresholds .initial).reload_signals docs
  rw [h, List.append_nil] at hsignals
  rw [validateDocuments, hsignals, ((Manager.ofThresholds .initial).reload_of_load_error h).1]
  rfl

/-- Checking succeeds as loading succeeds, with the first generation. -/
theorem result_validateDocuments_of_load_ok {c : Configuration}
    (h : (Configuration.load docs).result = .ok c) (format : OutputFormat) :
    (validateDocuments docs format).result =
      .ok (Validation.render ⟨docs.length, 1, c.summary⟩ format) := by
  obtain ⟨hresult, hmanager⟩ := (Manager.ofThresholds .initial).reload_of_load_ok h
  rw [validateDocuments, hresult, hmanager]
  rfl

theorem summarizeDocuments_of_load_error {e : LoadError}
    (h : (Configuration.load docs).result = .error e) (format : OutputFormat) :
    summarizeDocuments docs format =
      ⟨(Configuration.load docs).events.map .record, .error e⟩ := by
  rw [summarizeDocuments, h]
  rfl

theorem result_summarizeDocuments_of_load_ok {c : Configuration}
    (h : (Configuration.load docs).result = .ok c) (format : OutputFormat) :
    (summarizeDocuments docs format).result = .ok (c.summary.render format) := by
  rw [summarizeDocuments, h]
  rfl

/-- **A check says what a reload will do, and what is shown is what it has checked.** Let a
directory be checked and shown in JSON while nothing in it changes, whatever is in it, in whatever
order it is enumerated each time, and at whatever times.

* Either its documents cannot be read, and both commands fail with the same error.
* Or they are read, in ascending byte order of the names of the files that are found, and then both
  do what a pass over them does on behalf of a manager that holds nothing. When that fails, both
  fail with its error, after the same events. When it makes a configuration active, both print its
  summary: the one as it is, the other in the member of that name, beside the number of files (in 64
  bits) and the generation, which is the first. -/
theorem validate_agrees_with_summary (h : SameDirectory listing listing') (dir : String)
    (now now' : Milliseconds) (t : Thresholds) :
    let validated := (validate dir none .json).run listing now
    let shown := (summary dir .json).run listing' now'
    (dir ≠ "" → Invocation.isFlag dir = false →
      Invocation.plan ["config", "validate", dir, "--format", "json"] =
        .inr (validate dir none .json) ∧
      Invocation.plan ["config", "show", dir, "--format", "json"] = .inr (summary dir .json)) ∧
    match readDocuments dir listing with
    | .error e => validated.FailsWith now [] e ∧ shown.FailsWith now' [] e
    | .ok docs =>
      let pass := (Manager.ofThresholds t).reload docs
      ∃ files, findConfigFiles dir listing = .ok files ∧
        files.Pairwise (fun f f' ↦ f.name < f'.name) ∧
        List.Forall₂ (fun f doc ↦ Document.ofFile (entryPath dir f.name) f.contents = .ok doc)
          files docs ∧
        match pass.result with
        | .error e => validated.FailsWith now pass.events e ∧ shown.FailsWith now' pass.events e
        | .ok c =>
          pass.manager.active = some c ∧ pass.manager.generation = 1 ∧
          validated.exitCode = 0 ∧ shown.exitCode = 0 ∧
          ∃ v, Json.ofText? validated.stdout = some v ∧
            Json.ofText? shown.stdout = v.member? "summary" ∧
            v.member? "summary" = some c.summary.json ∧
            (v.member? "documents").bind Json.integer? =
              some ((files.length % UInt64.size : ℕ) : ℤ) ∧
            (v.member? "generation").bind Json.integer? = some 1 := by
  intro validated shown
  refine ⟨fun hne hflag ↦ Invocation.plan_json hne hflag, ?_⟩
  have hread' := h.readDocuments_eq dir
  rcases hread : readDocuments dir listing with e | docs
  · -- Nothing has been loaded, so nothing is in the audit trail.
    rw [hread] at hread'
    exact ⟨failsWith_of_pass [] rfl (withDocuments_of_error _ hread),
      failsWith_of_pass [] rfl (withDocuments_of_error _ hread'.symm)⟩
  · rw [hread] at hread'
    have hvalidate := withDocuments_of_ok (validateDocuments · .json) hread
    have hsummary := withDocuments_of_ok (summarizeDocuments · .json) hread'.symm
    have hevents := (Manager.ofThresholds t).reload_events docs
    obtain ⟨files, hfiles, hdocs⟩ := readDocuments_eq_ok_iff.1 hread
    refine ⟨files, hfiles, h.pairwise_findConfigFiles hfiles, hdocs, ?_⟩
    rw [Manager.reload_result]
    rcases hload : (Configuration.load docs).result with e | c
    · rw [hload, List.append_nil] at hevents
      rw [hevents]
      exact ⟨failsWith_of_pass _ rfl (hvalidate.trans (validateDocuments_of_load_error hload _)),
        failsWith_of_pass _ rfl (hsummary.trans (summarizeDocuments_of_load_error hload _))⟩
    · have hvalidated := congrArg Pass.result hvalidate
      rw [result_validateDocuments_of_load_ok hload] at hvalidated
      have hshown := congrArg Pass.result hsummary
      rw [result_summarizeDocuments_of_load_ok hload] at hshown
      obtain ⟨hexit, hstdout⟩ :
          validated.exitCode = 0 ∧ validated.stdout = _ := run_of_result hvalidated
      obtain ⟨hexit', hstdout'⟩ : shown.exitCode = 0 ∧ shown.stdout = _ := run_of_result hshown
      rw [((Manager.ofThresholds t).reload_of_load_ok hload).2, hstdout, hstdout',
        ofText?_printedReport_validation, ofText?_printedReport_summary, ← hdocs.length_eq]
      exact ⟨rfl, rfl, hexit, hexit', _, rfl, rfl, rfl, rfl, rfl⟩

end Command

/-! ### Two files in a directory -/

/-- Two configuration files, enumerated against the order of their names. -/
def Listing.descending : Listing := [
  (.ofString "20.cfg", .file (.ok Document.referring.text.toUTF8)),
  (.ofString "10.cfg", .file (.ok Document.declaring.text.toUTF8))]

theorem Listing.configFiles_descending :
    descending.configFiles =
      [⟨.ofString "10.cfg", .ok Document.declaring.text.toUTF8⟩,
        ⟨.ofString "20.cfg", .ok Document.referring.text.toUTF8⟩] := by
  have hconfig : (Name.ofString "10.cfg").isConfigFile = true ∧
      (Name.ofString "20.cfg").isConfigFile = true := by decide +kernel
  have hle : Name.ofString "10.cfg" ≤ Name.ofString "20.cfg" := by decide +kernel
  -- The files of the other order are sorted already, so nothing has to be sorted here.
  rw [configFiles_eq_of_perm (by decide +kernel) (List.reverse_perm _).symm, configFiles,
    List.mergeSort_of_pairwise]
  · simp [descending, ConfigFile.ofListed?, hconfig]
  · simp [descending, ConfigFile.ofListed?, hconfig, hle]

/-- What a text is decoded to does not depend on the name it has. -/
theorem Document.fragment_of_text [Json.Diagnosis] {doc : Document} {f : Fragment}
    (h : doc.fragment = .ok f) (name : String) : fragment ⟨name, doc.text⟩ = .ok f := by
  rw [fragment_eq_ok_iff] at h ⊢
  exact h

namespace Command

theorem validate_agrees_with_summary_descending :
    SameDirectory (.ok .descending) (.ok Listing.descending.reverse) ∧
    ∃ v, Json.ofText? ((validate "conf" none .json).run (.ok .descending) 0).stdout = some v ∧
      Json.ofText? ((summary "conf" .json).run (.ok Listing.descending.reverse) 1).stdout =
        v.member? "summary" ∧
      (v.member? "documents").bind Json.integer? = some 2 := by
  have hsame : SameDirectory (.ok .descending) (.ok Listing.descending.reverse) :=
    .listed (by decide +kernel) (List.reverse_perm _).symm
  have hfiles : findConfigFiles "conf" (.ok .descending) = .ok _ :=
    congrArg Except.ok Listing.configFiles_descending
  have hfile (path : String) {doc : Document} {f : Fragment} (h : doc.fragment = .ok f) :
      Document.ofFile path (.ok doc.text.toUTF8) = .ok ⟨documentName path, doc.text⟩ :=
    Document.ofFile_eq_ok_iff.2 ⟨_, rfl, (Document.fragment_eq_ok_iff.1 h).1,
      dif_pos doc.text.isValidUTF8, rfl⟩
  have hread : readDocuments "conf" (.ok .descending) = .ok _ :=
    readDocuments_eq_ok_iff.2 ⟨_, hfiles, .cons (hfile _ Document.fragment_declaring)
      (.cons (hfile _ Document.fragment_referring) .nil)⟩
  -- Stated for any names, since those of the documents are parts of paths, which are long to split.
  have hload (name name' : String) :
      (Configuration.load [⟨name, Document.declaring.text⟩,
        ⟨name', Document.referring.text⟩]).result = .ok _ :=
    Draft.load_pair (Document.fragment_of_text Document.fragment_declaring name)
      (Document.fragment_of_text Document.fragment_referring name') rfl
  obtain ⟨-, hagree⟩ := validate_agrees_with_summary hsame "conf" 0 1 .initial
  rw [hread] at hagree
  obtain ⟨files, hfound, -, -, hagree⟩ := hagree
  rw [Manager.reload_result, hload] at hagree
  obtain ⟨-, -, -, -, v, hvalidated, hshown, -, hdocuments, -⟩ := hagree
  rw [hfiles] at hfound
  cases hfound
  exact ⟨hsame, v, hvalidated, hshown, hdocuments⟩

end Command

end TrustRouter
