import TrustRouter.Proofs.Document.Acceptance
import TrustRouter.Proofs.Policy.Decision

/-!
# The first line that passes decides

A filter is a trust boundary, so what decides a request has to be beyond doubt. Either one line
**decides** — it passes, and no line before it does — and the decision is that line's, or no line
passes and the request is rejected (`Decision.decides_or_silent`). Everything said here about
decisions follows from that alternative.

* **A filter fails closed.** A line passes only if the request supplies every field it tests, and it
  tests at least one: that is in the type of a line, `Bounded`, and without it a line without tests
  would accept whatever comes. So what is accepted has supplied something.
* **Lines that come later do not count**, once a line decides; lines that come earlier and do not
  pass only count for the number of the deciding line (`Decision.ofLines_append`).
* **Fields that are not read do not count.** Up to the deciding line, tests look at the fields they
  name and at nothing else. So two requests that agree there are decided alike
  (`Decision.ofLines_congr`), although which fields are read depends on the first of them.
-/

namespace TrustRouter

/-! ### When a line passes -/

/-- A request meets a test: it supplies the field, with a value that the matcher accepts. -/
def FieldTest.Met (t : FieldTest) (request : Request) (matcher : Matcher) : Prop :=
  ∃ value, request t.field = some value ∧ matcher value t.pattern = true

theorem FieldTest.holds_iff {t : FieldTest} {request : Request} {matcher : Matcher} :
    t.holds request matcher = true ↔ t.Met request matcher := by
  rw [holds, Met]
  rcases request t.field with - | value
  · simp
  · simp

namespace FilterLine

/-- A request passes a line: it meets each of its tests. -/
def Passes (l : FilterLine) (request : Request) (matcher : Matcher) : Prop :=
  ∀ t ∈ l.tests.toList, t.Met request matcher

variable {l : FilterLine} {request : Request} {matcher : Matcher}

theorem holds_iff : l.holds request matcher = true ↔ l.Passes request matcher := by
  rw [holds, List.all_eq_true]
  exact forall₂_congr fun _ _ ↦ FieldTest.holds_iff

theorem holds_eq_false_iff : l.holds request matcher = false ↔ ¬l.Passes request matcher := by
  rw [← holds_iff, Bool.not_eq_true]

/-- A request that lacks a field of a line does not pass it, whatever the matcher accepts. -/
theorem not_passes_of_lacks {t : FieldTest} (ht : t ∈ l.tests.toList)
    (hlacks : request t.field = none) : ¬l.Passes request matcher := by
  intro hpasses
  obtain ⟨value, hvalue, -⟩ := hpasses t ht
  rw [hlacks] at hvalue
  exact absurd hvalue nofun

/-- A line has a test, so something is asked of every request. -/
theorem exists_test (l : FilterLine) : ∃ t, t ∈ l.tests.toList :=
  List.exists_mem_of_ne_nil _ l.tests.ne_nil

end FilterLine

namespace Decision

variable {request : Request} {matcher : Matcher} {lines : List FilterLine} {i : ℕ} {l : FilterLine}

/-! ### Which line decides -/

/-- Line `i` decides, and it is `l`: a request passes it and none of the lines before. -/
structure Decides (lines : List FilterLine) (request : Request) (matcher : Matcher) (i : ℕ)
    (l : FilterLine) : Prop where
  line : lines[i]? = some l
  passes : l.Passes request matcher
  first : ∀ l' ∈ lines.take i, ¬l'.Passes request matcher

theorem Decides.lt_length (h : Decides lines request matcher i l) : i < lines.length :=
  (List.getElem?_eq_some_iff.1 h.line).1

theorem Decides.mem (h : Decides lines request matcher i l) : l ∈ lines :=
  List.mem_of_getElem? h.line

/-- Further lines after the deciding one change nothing. -/
theorem Decides.append (h : Decides lines request matcher i l) (rest : List FilterLine) :
    Decides (lines ++ rest) request matcher i l where
  line := by rw [List.getElem?_append_left h.lt_length, h.line]
  passes := h.passes
  first := by
    rw [List.take_append_of_le_length (Nat.le_of_lt h.lt_length)]
    exact h.first

/-- The deciding line is there already when only the lines up to it are looked at. -/
theorem Decides.take (h : Decides lines request matcher i l) :
    Decides (lines.take (i + 1)) request matcher i l where
  line := by rw [List.getElem?_take_of_lt (Nat.lt_succ_self i), h.line]
  passes := h.passes
  first := by
    rw [List.take_take, Nat.min_eq_left (Nat.le_succ i)]
    exact h.first

/-- **Some line decides, or no line passes.** The search for the first line that holds either finds
one, and splits the lines there, or has found all of them wanting. -/
theorem decides_or_silent (lines : List FilterLine) (request : Request) (matcher : Matcher) :
    (∃ i l, Decides lines request matcher i l) ∨ ∀ l ∈ lines, ¬l.Passes request matcher := by
  rcases hfind : lines.find? (·.holds request matcher) with - | l
  · refine .inr fun l hl ↦ FilterLine.holds_eq_false_iff.1 ?_
    exact Bool.not_eq_true _ ▸ List.find?_eq_none.1 hfind l hl
  · obtain ⟨hl, before, after, rfl, hbefore⟩ := List.find?_eq_some_iff_append.1 hfind
    refine .inl ⟨before.length, l, ?_, FilterLine.holds_iff.1 hl, fun l' hl' ↦ ?_⟩
    · rw [List.getElem?_append_right (Nat.le_refl _), Nat.sub_self, List.getElem?_cons_zero]
    · rw [List.take_left] at hl'
      exact FilterLine.holds_eq_false_iff.1 (by simpa using hbefore l' hl')

/-! ### The decision -/

/-- Lines that do not hold are counted and passed over. By induction on them, from any index on. -/
theorem ofLinesFrom_append {before : List FilterLine}
    (h : ∀ l ∈ before, ¬l.Passes request matcher) (index : ℕ) (rest : List FilterLine) :
    ofLinesFrom request matcher index (before ++ rest) =
      ofLinesFrom request matcher (index + before.length) rest := by
  induction before generalizing index with
  | nil => rfl
  | cons l before ih =>
    have hl : l.holds request matcher = false :=
      FilterLine.holds_eq_false_iff.2 (h l List.mem_cons_self)
    have hbefore := ih (fun l' hl' ↦ h l' (List.mem_cons_of_mem _ hl')) (index + 1)
    rw [List.cons_append, ofLinesFrom, hl, if_neg Bool.false_ne_true, hbefore, List.length_cons]
    congr 1
    omega

/-- **The decision is that of the deciding line.** -/
theorem Decides.ofLines_eq (h : Decides lines request matcher i l) :
    ofLines lines request matcher = ⟨l.action, some i, l.realms, l.domains⟩ := by
  obtain ⟨hlt, hget⟩ := List.getElem?_eq_some_iff.1 h.line
  have hsplit : lines = lines.take i ++ l :: lines.drop (i + 1) := by
    rw [← hget, List.getElem_cons_drop, List.take_append_drop]
  rw [Decision.ofLines_eq, hsplit, ofLinesFrom_append h.first, ofLinesFrom,
    FilterLine.holds_iff.2 h.passes, if_pos rfl, Nat.zero_add, List.length_take,
    Nat.min_eq_left (Nat.le_of_lt hlt)]
  rfl

theorem ofLines_of_silent (h : ∀ l ∈ lines, ¬l.Passes request matcher) :
    ofLines lines request matcher = ⟨.reject, none, none, none⟩ := by
  have happend := ofLinesFrom_append h 0 []
  rw [List.append_nil] at happend
  rw [ofLines_eq, happend]
  rfl

/-- The line of a decision is the one that decides. -/
theorem line_ofLines_eq_some_iff :
    (ofLines lines request matcher).line = some i ↔ ∃ l, Decides lines request matcher i l := by
  constructor
  · intro hline
    rcases decides_or_silent lines request matcher with ⟨j, l, h⟩ | h
    · rw [h.ofLines_eq] at hline
      obtain rfl : j = i := Option.some.inj hline
      exact ⟨l, h⟩
    · rw [ofLines_of_silent h] at hline
      exact absurd hline nofun
  · rintro ⟨l, h⟩
    rw [h.ofLines_eq]

/-- A request is rejected for want of a line exactly when it passes none. -/
theorem ofLines_eq_undecided_iff :
    ofLines lines request matcher = ⟨.reject, none, none, none⟩ ↔
      ∀ l ∈ lines, ¬l.Passes request matcher := by
  refine ⟨fun hundecided ↦ ?_, ofLines_of_silent⟩
  rcases decides_or_silent lines request matcher with ⟨i, l, h⟩ | h
  · rw [h.ofLines_eq] at hundecided
    exact absurd (congrArg Decision.line hundecided) nofun
  · exact h

/-- Where no line decides, there is nothing to the decision but that it rejects. -/
theorem ofLines_of_line_eq_none (h : (ofLines lines request matcher).line = none) :
    ofLines lines request matcher = ⟨.reject, none, none, none⟩ := by
  refine ofLines_of_silent ?_
  rcases decides_or_silent lines request matcher with ⟨i, l, hdecides⟩ | hsilent
  · rw [hdecides.ofLines_eq] at h
    exact absurd h nofun
  · exact hsilent

/-- What is accepted is accepted by the line that decides. -/
theorem exists_decides_of_accepts (h : (ofLines lines request matcher).accepts = true) :
    ∃ i l, Decides lines request matcher i l ∧ l.action = .accept := by
  rcases decides_or_silent lines request matcher with ⟨i, l, hdecides⟩ | hsilent
  · rw [hdecides.ofLines_eq] at h
    exact ⟨i, l, hdecides, of_decide_eq_true h⟩
  · rw [ofLines_of_silent hsilent] at h
    exact absurd h nofun

/-- A request that lacks a field of every accepting line is not accepted. -/
theorem accepts_eq_false_of_lacks
    (h : ∀ l ∈ lines, l.action = .accept → ∃ t ∈ l.tests.toList, request t.field = none) :
    (ofLines lines request matcher).accepts = false := by
  rw [← Bool.not_eq_true]
  intro haccepts
  obtain ⟨i, l, hdecides, haction⟩ := exists_decides_of_accepts haccepts
  obtain ⟨t, ht, hlacks⟩ := h l hdecides.mem haction
  exact FilterLine.not_passes_of_lacks ht hlacks hdecides.passes

/-! ### Lines before and after -/

/-- The decision when `n` lines come before: its line is that many further on. -/
def shift (n : ℕ) (d : Decision) : Decision := { d with line := d.line.map (· + n) }

/-- Counting from further on shifts the decision. By induction on the lines, from any index on. -/
theorem ofLinesFrom_add (n index : ℕ) (lines : List FilterLine) :
    ofLinesFrom request matcher (index + n) lines =
      (ofLinesFrom request matcher index lines).shift n := by
  induction lines generalizing index with
  | nil => rfl
  | cons l lines ih =>
    rw [ofLinesFrom, ofLinesFrom, apply_ite (shift n), ← ih (index + 1), Nat.add_right_comm]
    rfl

/-- **Lines one after the other**: the first lines decide if they can, and otherwise the lines after
them do, whose numbers go on from there. -/
theorem ofLines_append (lines rest : List FilterLine) (request : Request) (matcher : Matcher) :
    ofLines (lines ++ rest) request matcher =
      if (ofLines lines request matcher).line.isSome then ofLines lines request matcher
      else (ofLines rest request matcher).shift lines.length := by
  rcases decides_or_silent lines request matcher with ⟨i, l, h⟩ | h
  · rw [(h.append rest).ofLines_eq, h.ofLines_eq]
    exact (if_pos rfl).symm
  · rw [ofLines_of_silent h, Decision.ofLines_eq, ofLinesFrom_append h, ofLinesFrom_add,
      ← Decision.ofLines_eq]
    exact (if_neg Bool.false_ne_true).symm

/-! ### Fields that are read -/

/-- The fields that lines test. -/
def fieldsOf (lines : List FilterLine) : List Name :=
  lines.flatMap fun l ↦ l.tests.toList.map (·.field)

variable {request' : Request}

/-- A test looks at its own field only. -/
theorem met_congr {t : FieldTest} (h : request t.field = request' t.field) :
    t.Met request matcher ↔ t.Met request' matcher := by
  rw [FieldTest.Met, FieldTest.Met, h]

/-- Whether a request passes a line depends on the fields that the line tests. -/
theorem passes_congr (hl : l ∈ lines)
    (h : ∀ field ∈ fieldsOf lines, request field = request' field) :
    l.Passes request matcher ↔ l.Passes request' matcher := by
  refine forall₂_congr fun t ht ↦ met_congr (h t.field ?_)
  exact List.mem_flatMap.2 ⟨l, hl, List.mem_map_of_mem ht⟩

/-- The line that decides also decides a request that agrees on all fields. -/
theorem Decides.congr (hdecides : Decides lines request matcher i l)
    (h : ∀ field ∈ fieldsOf lines, request field = request' field) :
    Decides lines request' matcher i l where
  line := hdecides.line
  passes := (passes_congr hdecides.mem h).1 hdecides.passes
  first l' hl' := by
    rw [← passes_congr (List.mem_of_mem_take hl') h]
    exact hdecides.first l' hl'

/-- **A decision depends on what is read.** Requests that agree on the fields of the lines up to the
one that decides the first of them are decided alike: that line decides the second as well. The
lines after it may test what they like, since they are not reached. -/
theorem ofLines_congr (hline : (ofLines lines request matcher).line = some i)
    (h : ∀ field ∈ fieldsOf (lines.take (i + 1)), request field = request' field) :
    ofLines lines request' matcher = ofLines lines request matcher := by
  obtain ⟨l, hdecides⟩ := line_ofLines_eq_some_iff.1 hline
  have hread : Decides (lines.take (i + 1)) request' matcher i l := hdecides.take.congr h
  have hall := hread.append (lines.drop (i + 1))
  rw [List.take_append_drop] at hall
  rw [hall.ofLines_eq, hdecides.ofLines_eq]

/-- Where no line decides, all lines have been read, and agreement on all their fields is needed. -/
theorem ofLines_congr_of_silent (hline : (ofLines lines request matcher).line = none)
    (h : ∀ field ∈ fieldsOf lines, request field = request' field) :
    ofLines lines request' matcher = ⟨.reject, none, none, none⟩ := by
  have hsilent := ofLines_eq_undecided_iff.1 (ofLines_of_line_eq_none hline)
  refine ofLines_of_silent fun l hl ↦ ?_
  rw [← passes_congr hl h]
  exact hsilent l hl

/-- Giving a field another value, or none, is no change on the other fields. -/
theorem eq_update_of_notMem {fields : List Name} {field : Name} (h : field ∉ fields)
    (value : Option Name) :
    ∀ other ∈ fields, request other = Function.update request field value other := by
  intro other hother
  have hne : other ≠ field := fun heq ↦ h (heq ▸ hother)
  rw [Function.update_of_ne hne]

end Decision

namespace Filter

/-- A filter has the lines that it is made of. -/
theorem ofLines_eq_ok_iff {kind : FilterKind} {lines : List FilterLine} {f : Filter} :
    ofLines kind lines = .ok f ↔ f.kind = kind ∧ f.lines.toList = lines := by
  have hbounded (b : Bounded 8 FilterLine) :
      EntityError.bounded "filter_lines" 8 lines = .ok b ↔ b.toList = lines :=
    Except.mapError_eq_ok_iff.trans Bounded.ofList_eq_ok_iff
  rw [ofLines, Except.bind_eq_ok_iff]
  constructor
  · rintro ⟨b, hb, hf⟩
    obtain rfl := Except.ok.inj hf
    exact ⟨rfl, (hbounded b).1 hb⟩
  · rintro ⟨rfl, hlines⟩
    exact ⟨f.lines, (hbounded f.lines).2 hlines, rfl⟩

theorem decision_of_ofLines {kind : FilterKind} {lines : List FilterLine} {f : Filter}
    (h : ofLines kind lines = .ok f) : f.decision = Decision.ofLines lines := by
  funext request matcher
  rw [decision, (ofLines_eq_ok_iff.1 h).2]

/-- **The first line that passes decides, and a filter fails closed.** Of a filter made of some
lines, for every request and matcher:

* the decision names line `i` exactly when the request passes that line and none before it, and then
  it has the action of that line and both its constraints;
* it is to reject, with no line and no constraints, exactly when the request passes no line;
* what is accepted has passed an accepting line, which has tests, and has supplied each field that
  these test; so a request that lacks a field of every accepting line is accepted under no matcher,
  and neither is one without any fields;
* of lines in two parts the first part decides if it can, and otherwise the second, its numbers
  going on where those of the first end. -/
theorem first_line_decides {kind : FilterKind} {lines : List FilterLine} {f : Filter}
    (h : ofLines kind lines = .ok f) (request : Request) (matcher : Matcher) :
    (∀ i, (f.decision request matcher).line = some i ↔
      ∃ l, Decision.Decides lines request matcher i l) ∧
    (∀ i l, Decision.Decides lines request matcher i l →
      f.decision request matcher = ⟨l.action, some i, l.realms, l.domains⟩) ∧
    (f.decision request matcher = ⟨.reject, none, none, none⟩ ↔
      ∀ l ∈ lines, ¬l.Passes request matcher) ∧
    ((f.decision request matcher).accepts = true →
      ∃ i l, Decision.Decides lines request matcher i l ∧ l.action = .accept ∧
        (∃ t, t ∈ l.tests.toList) ∧ ∀ t ∈ l.tests.toList, ∃ value, request t.field = some value) ∧
    ((∀ l ∈ lines, l.action = .accept → ∃ t ∈ l.tests.toList, request t.field = none) →
      ∀ matcher', (f.decision request matcher').accepts = false) ∧
    (∀ matcher', (f.decision (fun _ ↦ none) matcher').accepts = false) ∧
    f.decision request matcher = .ofLines lines request matcher ∧
    ∀ before after : List FilterLine, Decision.ofLines (before ++ after) request matcher =
      if (Decision.ofLines before request matcher).line.isSome then
        Decision.ofLines before request matcher
      else (Decision.ofLines after request matcher).shift before.length := by
  rw [decision_of_ofLines h]
  refine ⟨fun i ↦ Decision.line_ofLines_eq_some_iff, fun i l hdecides ↦ hdecides.ofLines_eq,
    Decision.ofLines_eq_undecided_iff, fun haccepts ↦ ?_,
    fun hlacks matcher' ↦ Decision.accepts_eq_false_of_lacks hlacks,
    fun matcher' ↦ Decision.accepts_eq_false_of_lacks fun l _ _ ↦ ?_, rfl,
    fun before after ↦ Decision.ofLines_append before after request matcher⟩
  · obtain ⟨i, l, hdecides, haction⟩ := Decision.exists_decides_of_accepts haccepts
    refine ⟨i, l, hdecides, haction, l.exists_test, fun t ht ↦ ?_⟩
    obtain ⟨value, hvalue, -⟩ := hdecides.passes t ht
    exact ⟨value, hvalue⟩
  · -- The request without fields: any test of the line will do.
    obtain ⟨t, ht⟩ := l.exists_test
    exact ⟨t, ht, rfl⟩

end Filter

/-- A line with one test: that the realm asked for satisfies a pattern of one byte. -/
def FilterLine.onRealm (action : Action) (pattern : UInt8) : FilterLine where
  action
  tests := ⟨[⟨.ofString "realm", ⟨[pattern]⟩, by decide +kernel, by simp [Name.empty]⟩], nofun, by
    simp⟩
  realms := none
  domains := none

namespace Filter

/-- The first line, on `x`, does not pass, so the second decides, on whatever is asked for; but
nobody gets past it without asking for a realm. -/
theorem first_line_decides_second :
    ∃ f, ofLines .rpPermitted [.onRealm .reject 0x78, .onRealm .accept Pattern.star] =
        .ok f ∧
      f.decision (.ofPairs [(.ofString "realm", .ofString "y")]) Pattern.wildcard =
        ⟨.accept, some 1, none, none⟩ ∧
      ∀ matcher, (f.decision (.ofPairs [(.ofString "comm", .ofString "y")]) matcher).accepts =
        false := by
  have h : ofLines .rpPermitted [.onRealm .reject 0x78, .onRealm .accept Pattern.star] =
      .ok ⟨.rpPermitted, [.onRealm .reject 0x78, .onRealm .accept Pattern.star], nofun,
        by decide⟩ :=
    rfl
  refine ⟨_, h, ?_, ?_⟩
  · obtain ⟨-, hdecision, -⟩ := first_line_decides h
      (.ofPairs [(.ofString "realm", .ofString "y")]) Pattern.wildcard
    refine hdecision 1 (.onRealm .accept Pattern.star) ⟨rfl, ?_, fun l hl ↦ ?_⟩
    · exact FilterLine.holds_iff.1 (by decide +kernel)
    · obtain rfl := List.mem_singleton.1 hl
      exact FilterLine.holds_eq_false_iff.1 (by decide +kernel)
  · obtain ⟨-, -, -, -, hlacks, -⟩ := first_line_decides h
      (.ofPairs [(.ofString "comm", .ofString "y")]) Pattern.wildcard
    refine hlacks fun l hl _ ↦ ?_
    -- Both lines test the same field, and only that.
    rcases List.mem_pair.1 hl with rfl | rfl
    · exact ⟨_, List.mem_singleton_self _, by decide +kernel⟩
    · exact ⟨_, List.mem_singleton_self _, by decide +kernel⟩

/-- **A decision depends only on the fields read to reach it.** Take two requests, any filter and
any matcher. If line `k` decides the first and the second has the same value, or none as well, for
every field that the lines up to `k` test, then the second is decided in the same way. If no line
decides the first and the second agrees with it on every field that the filter tests, the second is
rejected for want of a line as well. So to give or take a field that is not among these, be it one
that only later lines test or one that the filter does not test at all, does not change the
decision. -/
theorem decision_depends_on_fields_read (f : Filter) (matcher : Matcher)
    (request request' : Request) :
    (∀ k, (f.decision request matcher).line = some k →
      (∀ field ∈ Decision.fieldsOf (f.lines.toList.take (k + 1)),
        request field = request' field) →
      f.decision request' matcher = f.decision request matcher) ∧
    ((f.decision request matcher).line = none →
      (∀ field ∈ Decision.fieldsOf f.lines.toList, request field = request' field) →
      f.decision request' matcher = ⟨.reject, none, none, none⟩) ∧
    (∀ k field value, (f.decision request matcher).line = some k →
      field ∉ Decision.fieldsOf (f.lines.toList.take (k + 1)) →
      f.decision (Function.update request field value) matcher = f.decision request matcher) ∧
    ∀ field value, field ∉ Decision.fieldsOf f.lines.toList →
      f.decision (Function.update request field value) matcher = f.decision request matcher := by
  refine ⟨fun k ↦ Decision.ofLines_congr, Decision.ofLines_congr_of_silent,
    fun k field value hline hfield ↦ ?_, fun field value hfield ↦ ?_⟩
  · exact Decision.ofLines_congr hline (Decision.eq_update_of_notMem hfield value)
  · rcases hline : (f.decision request matcher).line with - | k
    · rw [decision, Decision.ofLines_congr_of_silent hline
        (Decision.eq_update_of_notMem hfield value)]
      exact (Decision.ofLines_of_line_eq_none hline).symm
    · -- The fields up to the deciding line are among those of the filter.
      refine Decision.ofLines_congr hline
        (Decision.eq_update_of_notMem (fun hmem ↦ hfield ?_) value)
      obtain ⟨l, hl, ht⟩ := List.mem_flatMap.1 hmem
      exact List.mem_flatMap.2 ⟨l, List.mem_of_mem_take hl, ht⟩

end Filter

end TrustRouter
