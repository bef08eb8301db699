import Mathlib.Data.List.TakeWhile
import TrustRouter.CommandLine.Run
import TrustRouter.Proofs.Json.RoundTrip

/-!
# Reports are read back

A report in canonical JSON is printed as one line, whatever names are in it: nothing that is written
holds a line feed, so the one at the end is the only one (`Command.printedReport_text`). And it is
read as the value that was reported (`Command.ofText?_printedReport`), since no report is nested as
deep as readers follow.
-/

namespace TrustRouter

/-! ### Depth -/

namespace Json

variable {n : ℕ}

theorem depth_array_le {items : List Json} (h : ∀ v ∈ items, v.depth ≤ n) :
    (array items).depth ≤ n + 1 := by
  rw [depth]
  induction items with
  | nil => simp [itemDepth]
  | cons v items ih =>
    obtain ⟨hv, hrest⟩ := List.forall_mem_cons.1 h
    have := ih hrest
    rw [itemDepth]
    omega

theorem depth_object_le {members : Members} (h : ∀ m ∈ members, m.2.depth ≤ n) :
    (object members).depth ≤ n + 1 := by
  rw [depth]
  induction members with
  | nil => simp [memberDepth]
  | cons m members ih =>
    obtain ⟨hm, hrest⟩ := List.forall_mem_cons.1 h
    have := ih hrest
    rw [memberDepth]
    omega

/-- A value that may be absent is no container either way. -/
theorem depth_elim {α : Type} {f : α → Json} (h : ∀ a, (f a).depth = 0) (x : Option α) :
    (x.elim .null f).depth = 0 := by
  cases x with
  | none => rfl
  | some a => exact h a

theorem depth_count (n : UInt64) : (count n).depth = 0 :=
  rfl

end Json

theorem Name.depth_json (n : Name) : n.json.depth = 0 :=
  rfl

theorem Name.depth_jsonArray (names : List Name) : (jsonArray names).depth ≤ 1 :=
  Json.depth_array_le (List.forall_mem_map.2 fun n _ ↦ Nat.le_of_eq n.depth_json)

theorem Settings.depth_json (s : Settings) : s.json.depth ≤ 1 := by
  have hhostname := Json.depth_elim Name.depth_json s.hostname
  refine Json.depth_object_le ?_
  simp [hhostname, Json.depth_count, Json.depth]

theorem CommunitySummary.depth_json (s : CommunitySummary) : s.json.depth ≤ 2 := by
  have hapc := Json.depth_elim (fun apc : Apc ↦ apc.id.depth_json) s.kind.apc?
  have hexpiration := Json.depth_elim (fun minutes : UInt32 ↦ Json.depth_count minutes.toUInt64)
    s.kind.expiration?
  refine Json.depth_object_le ?_
  simp [hapc, hexpiration, Name.depth_json, Name.depth_jsonArray, Json.depth]

theorem Summary.depth_json (s : Summary) : s.json.depth ≤ 4 := by
  have hcommunities : (Json.array (s.communities.map CommunitySummary.json)).depth ≤ 3 :=
    Json.depth_array_le (List.forall_mem_map.2 fun c _ ↦ c.depth_json)
  have hnames : ∀ names, (Name.jsonArray names).depth ≤ 3 := fun names ↦
    Nat.le_trans (Name.depth_jsonArray names) (by decide)
  have hsettings : s.settings.json.depth ≤ 3 := Nat.le_trans s.settings.depth_json (by decide)
  refine Json.depth_object_le ?_
  simp [hcommunities, hnames, hsettings]

theorem Validation.depth_json (v : Validation) : v.json.depth ≤ 5 := by
  have hsummary := v.summary.depth_json
  refine Json.depth_object_le ?_
  simp [hsummary, Json.depth_count]

/-! ### Lines -/

namespace Command

/-- A report is printed with one line feed at its end. -/
theorem printedReport_of_getLast? {s : String} (h : s.toList.getLast? ≠ some '\n') :
    printedReport s = s ++ "\n" := by
  -- Turned around, the report does not begin with a line feed, so none is dropped.
  have hkept : s.toList.reverse.dropWhile (· = '\n') = s.toList.reverse := by
    rw [List.dropWhile_eq_self_iff]
    intro hne heq
    rw [List.getElem_zero_eq_head, List.head_reverse] at heq
    exact h ((List.getLast?_eq_some_getLast _).trans (congrArg some (of_decide_eq_true heq)))
  rw [printedReport, hkept, List.reverse_reverse, String.ofList_toList]

/-- A line feed that a report ends in already is not printed twice. -/
theorem printedReport_append_lineFeed (s : String) :
    printedReport (s ++ "\n") = printedReport s := by
  rw [printedReport, String.toList_append, List.reverse_append]
  rfl

/-- **A report in JSON is one line.** The line feed at its end is the only one that is dropped or
added. -/
theorem printedReport_text (v : Json) : printedReport v.text = v.text ++ "\n" := by
  refine printedReport_of_getLast? fun hlast ↦ ?_
  rw [Json.text, String.toList_ofList] at hlast
  exact absurd (v.unbroken_chars '\n' (List.mem_of_getLast? hlast)) (by decide)

/-- **What is printed is read.** -/
theorem ofText?_printedReport {v : Json} (h : v.depth ≤ Json.maxDepth) :
    Json.ofText? (printedReport v.text) = some v := by
  have hprinted : printedReport v.text = String.ofList (v.chars ++ ['\n']) := by
    rw [printedReport_text, String.ofList_append]
    rfl
  rw [hprinted]
  exact Json.Scans.ofText?_append v.scans (List.forall_mem_singleton.2 rfl) h

theorem ofText?_printedReport_summary (s : Summary) :
    Json.ofText? (printedReport (s.render .json)) = some s.json :=
  ofText?_printedReport (Nat.le_trans s.depth_json (by decide))

theorem ofText?_printedReport_validation (v : Validation) :
    Json.ofText? (printedReport (v.render .json)) = some v.json :=
  ofText?_printedReport (Nat.le_trans v.depth_json (by decide))

end Command

end TrustRouter
