import TrustRouter.Proofs.CommandLine.Agreement
import TrustRouter.Proofs.Configuration.Limits
import TrustRouter.Proofs.Text.Lines

/-!
# A configuration is shown line by line

The report for people is meant to be read by line: one for the hostname, one for the services and
one for each community, in the order in which communities are looked up. Names stand in it as they
are, though, and a name may have any character, so a line feed in a name is the end of a line in the
report. What follows it looks like one more line, even like that of a community that does not exist
(`Document.forging`).

Nothing else goes wrong:

* **The report is its statements**, each with a line feed behind it (`Summary.text_eq_join`), and it
  is printed as it is (`Summary.printedReport_text`).
* **Every line feed comes from a name.** What stands around the names has none
  (`Summary.sum_lineFeeds_statements`), so the report has as many lines too many as there are line
  feeds in the names shown.
* **Without line feeds in names** the lines are the statements (`Configuration.lineByLine_iff`).
-/

namespace TrustRouter

open Text

/-! ### Line feeds in names -/

namespace Name

/-- How many line feeds there are in names as they are shown. -/
def lineFeeds (names : List Name) : ℕ := (names.map fun name ↦ Text.lineFeeds name.text).sum

theorem lineFeeds_cons (name : Name) (names : List Name) :
    lineFeeds (name :: names) = Text.lineFeeds name.text + lineFeeds names := by
  rw [lineFeeds, List.map_cons, List.sum_cons, lineFeeds]

theorem lineFeeds_append (names names' : List Name) :
    lineFeeds (names ++ names') = lineFeeds names + lineFeeds names' := by
  rw [lineFeeds, List.map_append, List.sum_append_nat, lineFeeds, lineFeeds]

theorem lineFeeds_eq_zero_iff {names : List Name} :
    lineFeeds names = 0 ↔ ∀ name ∈ names, '\n' ∉ name.text.toList := by
  rw [lineFeeds, List.sum_eq_zero_iff_forall_eq_nat, List.forall_mem_map]
  simp only [Text.lineFeeds_eq_zero_iff]

/-- Names that are shown in a row, each with a mark in front. -/
theorem lineFeeds_intercalate {separator mark : String} (hseparator : Text.lineFeeds separator = 0)
    (hmark : Text.lineFeeds mark = 0) (names : List Name) :
    Text.lineFeeds (separator.intercalate (names.map fun name ↦ mark ++ name.text)) =
      lineFeeds names := by
  rw [Text.lineFeeds_intercalate hseparator, List.map_map, lineFeeds]
  simp only [Function.comp_def, Text.lineFeeds_append, hmark, Nat.zero_add]

end Name

/-! ### Statements -/

/-- What is told of the host. -/
def Name.hostStatement (hostname : Name) : String := "hostname " ++ hostname.text

/-- What is told of the two services. -/
def Settings.servicesStatement (s : Settings) : String :=
  s!"ports tids={s.tidsPort} trps={s.trpsPort}"

theorem Settings.lineFeeds_servicesStatement (s : Settings) :
    lineFeeds s.servicesStatement = 0 := by
  have hport (port : UInt16) : lineFeeds (toString port) = 0 := lineFeeds_toString port.toNat
  rw [servicesStatement]
  simp only [lineFeeds_append, hport]
  decide

namespace CommunitySummary

/-- What is told of a community. -/
def statement (s : CommunitySummary) : String :=
  s.title ++ " idps " ++ s.idpList ++ " rps " ++ s.rpList

/-- The names in what is told of a community. -/
def names (s : CommunitySummary) : List Name := s.id :: (s.idps ++ s.rps)

theorem lineFeeds_title (s : CommunitySummary) : lineFeeds s.title = lineFeeds s.id.text := by
  have hlabel : lineFeeds s.kind.label = 0 := by
    cases s.kind with
    | apc minutes => exact (by decide : lineFeeds "apc" = 0)
    | coi governing => exact (by decide : lineFeeds "coi" = 0)
  rw [title]
  simp only [lineFeeds_append, hlabel]
  exact Nat.zero_add _

theorem lineFeeds_idpList (s : CommunitySummary) : lineFeeds s.idpList = Name.lineFeeds s.idps := by
  rw [idpList]
  simp only [lineFeeds_append, @Name.lineFeeds_intercalate ", " "@" rfl rfl]
  exact Nat.zero_add _

theorem lineFeeds_rpList (s : CommunitySummary) : lineFeeds s.rpList = Name.lineFeeds s.rps := by
  -- These names have no mark in front, which is to say an empty one.
  have hlist := @Name.lineFeeds_intercalate ", " "" rfl rfl s.rps
  simp only [String.empty_append] at hlist
  rw [rpList]
  simp only [lineFeeds_append, hlist]
  exact Nat.zero_add _

/-- What is told of a community has no other line feeds than those in its names. -/
theorem lineFeeds_statement (s : CommunitySummary) :
    lineFeeds s.statement = Name.lineFeeds s.names := by
  rw [names, Name.lineFeeds_cons, Name.lineFeeds_append, ← s.lineFeeds_title,
    ← s.lineFeeds_idpList, ← s.lineFeeds_rpList, ← Nat.add_assoc, statement]
  simp only [lineFeeds_append]
  rfl

/-- The line of a community ends in a bracket. -/
theorem exists_line_eq (s : CommunitySummary) : ∃ told, s.line = told ++ "]" ++ "\n" := by
  refine ⟨s.title ++ " idps " ++ s.idpList ++ " rps [" ++
    ", ".intercalate (s.rps.map Name.text), ?_⟩
  rw [line, rpList]
  simp only [String.append_assoc]
  rfl

end CommunitySummary

namespace Summary

/-- All that is told of a configuration, in order. -/
def statements (s : Summary) : List String :=
  s.settings.hostname.toList.map Name.hostStatement ++
    s.settings.servicesStatement :: s.communities.map CommunitySummary.statement

/-- All names in what is told. -/
def names (s : Summary) : List Name :=
  s.settings.hostname.toList ++ s.communities.flatMap CommunitySummary.names

/-- **A report is its statements**, with a line feed behind each. -/
theorem text_eq_join (s : Summary) : s.text = .join (s.statements.map (· ++ "\n")) := by
  have hhostname : s.settings.hostnameLine =
      .join ((s.settings.hostname.toList.map Name.hostStatement).map (· ++ "\n")) := by
    rw [Settings.hostnameLine]
    cases s.settings.hostname with
    | none => rfl
    | some hostname =>
      show _ = String.join [hostname.hostStatement ++ "\n"]
      rw [String.join_cons, String.join_nil, String.append_empty]
      rfl
  rw [text, statements, List.map_append, String.join_append, ← hhostname, List.map_cons,
    String.join_cons, List.map_map, String.append_assoc]
  rfl

/-- **Every line feed inside a statement is one in a name.** -/
theorem sum_lineFeeds_statements (s : Summary) :
    (s.statements.map lineFeeds).sum = Name.lineFeeds s.names := by
  have hhostname : ((s.settings.hostname.toList.map Name.hostStatement).map lineFeeds).sum =
      Name.lineFeeds s.settings.hostname.toList := by
    have hhost (name : Name) : lineFeeds name.hostStatement = lineFeeds name.text :=
      (lineFeeds_append _ _).trans (Nat.zero_add _)
    rw [List.map_map, Name.lineFeeds]
    simp only [Function.comp_def, hhost]
  have hcommunities : ((s.communities.map CommunitySummary.statement).map lineFeeds).sum =
      Name.lineFeeds (s.communities.flatMap CommunitySummary.names) := by
    induction s.communities with
    | nil => rfl
    | cons c communities ih =>
      rw [List.map_cons, List.map_cons, List.sum_cons, c.lineFeeds_statement, ih,
        List.flatMap_cons, Name.lineFeeds_append]
  rw [statements, List.map_append, List.sum_append_nat, hhostname, List.map_cons, List.sum_cons,
    Settings.lineFeeds_servicesStatement, hcommunities, Nat.zero_add, names, Name.lineFeeds_append]

/-! ### Lines -/

/-- A report has as many lines too many as there are line feeds in the names shown. -/
theorem length_lines_text (s : Summary) :
    (lines s.text).length = s.statements.length + Name.lineFeeds s.names := by
  rw [text_eq_join, length_lines_join, sum_lineFeeds_statements]

/-- Without line feeds in names, the lines of a report are its statements. -/
theorem lines_text {s : Summary} (h : Name.lineFeeds s.names = 0) :
    lines s.text = s.statements := by
  rw [← sum_lineFeeds_statements, List.sum_eq_zero_iff_forall_eq_nat, List.forall_mem_map] at h
  rw [text_eq_join, lines_join_of_lineFeeds h]

/-- **A report is printed as it is** if there is a community in it: what is told of the last one
ends in a bracket, so no line feed is dropped. -/
theorem printedReport_text {s : Summary} (h : s.communities ≠ []) :
    Command.printedReport s.text = s.text := by
  obtain ⟨communities, last, hlast⟩ := (List.eq_nil_or_concat s.communities).resolve_left h
  obtain ⟨told, htold⟩ := last.exists_line_eq
  have htext : s.text = s.settings.hostnameLine ++ s.settings.servicesLine ++
      String.join (communities.map CommunitySummary.line) ++ told ++ "]" ++ "\n" := by
    rw [text, hlast, List.map_concat, List.concat_eq_append, String.join_append, String.join_cons,
      String.join_nil, htold]
    simp only [String.append_assoc, String.append_empty]
  rw [htext, Command.printedReport_append_lineFeed, Command.printedReport_of_getLast?]
  rw [String.toList_append]
  show (_ ++ [']']).getLast? ≠ _
  rw [List.getLast?_concat]
  decide

end Summary

/-! ### A configuration line by line -/

namespace Configuration

/-- Lines that show a configuration: one for the hostname, one for the services and, in the order of
lookup, one for each community, which begins with its name. -/
structure LineByLine (c : Configuration) (lines : List String) : Prop where
  length : lines.length = 2 + c.communities.length
  hostname : ∃ name, c.settings.hostname = some name ∧ lines[0]? = some ("hostname " ++ name.text)
  services : lines[1]? = some s!"ports tids={c.settings.tidsPort} trps={c.settings.trpsPort}"
  community : ∀ (i : ℕ) (community : Community), c.communities[i]? = some community →
    ∃ rest, lines[i + 2]? = some ("community " ++ community.id.text ++ rest)

variable {c : Configuration}

theorem statements_summary {name : Name} (h : c.settings.hostname = some name) :
    c.summary.statements = name.hostStatement :: c.settings.servicesStatement ::
      c.communities.map fun community ↦ (c.summarize community).statement := by
  rw [Summary.statements, summary, h, List.map_map]
  rfl

/-- The statements of a configuration show it. -/
theorem lineByLine_statements {name : Name} (h : c.settings.hostname = some name) :
    c.LineByLine c.summary.statements := by
  rw [statements_summary h]
  constructor
  · rw [List.length_cons, List.length_cons, List.length_map, Nat.add_comm 2]
  · exact ⟨name, h, rfl⟩
  · rfl
  · intro i community hi
    refine ⟨" (" ++ community.kind.label ++ ")" ++ " idps " ++ (c.summarize community).idpList ++
      " rps " ++ (c.summarize community).rpList, ?_⟩
    rw [List.getElem?_cons_succ, List.getElem?_cons_succ, List.getElem?_map, hi, Option.map_some,
      CommunitySummary.statement, CommunitySummary.title]
    simp only [String.append_assoc]
    rfl

/-- As many lines as there are statements, and one more for each line feed in a name. -/
theorem length_lines_text (h : c.WithinLimits) :
    (lines c.summary.text).length =
      2 + c.communities.length + Name.lineFeeds c.summary.names := by
  obtain ⟨name, hname, -⟩ := h.hostname
  rw [Summary.length_lines_text, (lineByLine_statements hname).length]

/-- **Only a line feed in a name can break the lines.** -/
theorem lineByLine_iff (h : c.WithinLimits) :
    c.LineByLine (lines c.summary.text) ↔ ∀ name ∈ c.summary.names, '\n' ∉ name.text.toList := by
  rw [← Name.lineFeeds_eq_zero_iff]
  constructor
  · intro hlines
    -- The number of lines is right, so no line feed has made for one more.
    have hlength := hlines.length
    rw [length_lines_text h] at hlength
    omega
  · intro hnone
    obtain ⟨name, hname, -⟩ := h.hostname
    rw [Summary.lines_text hnone]
    exact lineByLine_statements hname

/-- What is loaded has a community, so its report is printed as it is. -/
theorem printedReport_summary (h : c.WithinLimits) :
    Command.printedReport (c.summary.render .text) = c.summary.text := by
  refine Summary.printedReport_text ?_
  rw [summary, ne_eq, List.map_eq_nil_iff]
  exact h.communities_ne_nil

end Configuration

namespace Command

/-- **A configuration is shown line by line unless a name has a line feed.** Let documents load, and
let a directory be shown in which they are what is read. The command succeeds and prints the same
whatever else is in the directory and whenever it is run. What it prints has two lines more than
there are communities, and one more for each line feed in the hostname, in the name of a community
or in the name of a member. These lines are one for the hostname, one for the services and one for
each community, in the order of lookup, exactly when no such name has a line feed. -/
theorem shown_line_by_line_iff [Json.Diagnosis] {docs : List Document} {c : Configuration}
    (h : (Configuration.load docs).result = .ok c) (dir : String) :
    let report := printedReport (c.summary.render .text)
    (dir ≠ "" → Invocation.isFlag dir = false →
      Invocation.plan ["config", "show", dir, "--format", "text"] = .inr (summary dir .text)) ∧
    (∀ listing now, readDocuments dir listing = .ok docs →
      ((summary dir .text).run listing now).exitCode = 0 ∧
      ((summary dir .text).run listing now).stdout = report) ∧
    (lines report).length = 2 + c.communities.length + Name.lineFeeds c.summary.names ∧
    (c.LineByLine (lines report) ↔ ∀ name ∈ c.summary.names, '\n' ∉ name.text.toList) := by
  intro report
  have hlimits := Configuration.withinLimits_of_load h
  have hreport : report = c.summary.text := c.printedReport_summary hlimits
  refine ⟨fun hne hflag ↦ Invocation.plan_text hne hflag, fun listing now hread ↦ ?_, ?_, ?_⟩
  · have hresult : ((summary dir .text).pass listing).result = .ok (c.summary.render .text) := by
      rw [pass, withDocuments_of_ok _ hread]
      exact result_summarizeDocuments_of_load_ok h _
    exact run_of_result hresult
  · rw [hreport, Configuration.length_lines_text hlimits]
  · rw [hreport, Configuration.lineByLine_iff hlimits]

theorem shown_line_by_line_iff_referring :
    ∃ c, (Configuration.load [.referring, .declaring]).result = .ok c ∧
      c.LineByLine (lines (printedReport (c.summary.render .text))) ∧
      (lines (printedReport (c.summary.render .text))).length = 3 := by
  have hload : (Configuration.load [.referring, .declaring]).result = .ok _ :=
    Draft.load_pair Document.fragment_referring Document.fragment_declaring rfl
  obtain ⟨-, -, -, hlines⟩ := shown_line_by_line_iff hload "conf"
  have hshown := hlines.2 (by decide +kernel)
  exact ⟨_, hload, hshown, hshown.length⟩

end Command

/-! ### A community that does not exist -/

/-- A document with one community. The name of its member ends the line of that community and goes
on with what reads as the line of another. -/
def Document.forging : Document :=
  ⟨"forging", "\x7b\"communities\": [\x7b\"community_id\": \"d\", \"type\": \"apc\",
    \"apcs\": [], \"idp_realms\": [\"q\"],
    \"rp_realms\": [\"rp]\\ncommunity e (apc) idps [@q] rps [rp\"]\x7d]\x7d"⟩

/-- What it declares. -/
def Fragment.forging : Fragment where
  serialNumber := none
  settings := none
  clients := []
  realms := []
  servers := []
  communities := [⟨.ofString "d", .apc Community.defaultExpiration, [.ofString "q"],
    [.ofString "rp]\ncommunity e (apc) idps [@q] rps [rp"]⟩]

theorem Document.fragment_forging [Json.Diagnosis] : forging.fragment = .ok .forging := by
  rw [forging, fragment_of_chars (.ok .forging) (by decide +kernel)
    (by decide +kernel)]

/-- Not every configuration that is loaded is shown line by line: here the name of a member makes
for one line too many. -/
theorem Command.shows_not_lineByLine :
    ¬∀ docs c, (Configuration.load docs).result = .ok c →
      c.LineByLine (lines (printedReport (c.summary.render .text))) := by
  intro h
  have hload : (Configuration.load [.referring, .declaring, .forging]).result = .ok _ :=
    Draft.load_eq_ok_iff.2 ⟨nofun, _, .cons Document.fragment_referring
      (.cons Document.fragment_declaring (.cons Document.fragment_forging .nil)), rfl⟩
  have hlimits := Configuration.withinLimits_of_load hload
  have hshown := h _ _ hload
  rw [Configuration.printedReport_summary hlimits, Configuration.lineByLine_iff hlimits] at hshown
  exact hshown (.ofString "rp]\ncommunity e (apc) idps [@q] rps [rp") (by decide +kernel)
    (by decide +kernel)

end TrustRouter
