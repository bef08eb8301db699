import Mathlib.Data.List.Basic
import TrustRouter.Proofs.Configuration.Merging
import TrustRouter.Proofs.Manager.Transaction

/-! # What the history of a manager says about it

A manager has four pieces of state, and seven operations change different ones of them or none. A
**run** does operations one after the other and writes down each with its answer. Everything the
manager holds can be read off that record: how often something was installed and what was installed
last (`installs`), and what the last operation on the staging slot left there (`slot`). That it can
is one invariant, `Follows`, kept by every single operation (`Follows.perform`) and therefore by
every run (`Follows.run`). For a manager that started with nothing, the record is all there is to
know (`RecordedBy`).

The record is made of operations and answers only. So the invariant cannot hold by accident of how
the manager stores something, and a piece of state that an operation forgets to update breaks it.
-/

namespace TrustRouter.Manager

/-! ### Runs -/

/-- Something asked of a manager, or of what works beside it. -/
inductive Operation where
  | startDraft
  | stage (c : Configuration)
  | discard
  | promote
  | reload (docs : List Document)
  /-- Documents are loaded on their own. -/
  | load (docs : List Document)
  /-- The communities of a configuration are reported. -/
  | report (c : Configuration)

/-- What an operation answers. -/
inductive Answer where
  | done
  | draft (d : Draft)
  | promoted (result : Except ManagerError Configuration)
  | reloaded (result : Except LoadError Configuration)
  | loaded (result : Except LoadError Configuration)
  | reported (events : List AuditEvent)

/-- An operation done, with its answer. -/
structure Step where
  operation : Operation
  answer : Answer

section Runs

variable [Json.Diagnosis]

/-- Does one operation. -/
def perform (m : Manager) : Operation → Answer × Manager
  | .startDraft => (.draft m.startDraft.1, m.startDraft.2)
  | .stage c => (.done, m.stage c)
  | .discard => (.done, m.discard)
  | .promote =>
    match m.promote with
    | .ok (c, m') => (.promoted (.ok c), m')
    | .error e => (.promoted (.error e), m)
  | .reload docs => (.reloaded (m.reload docs).result, (m.reload docs).manager)
  | .load docs => (.loaded (Configuration.load docs).result, m)
  | .report c => (.reported c.communityEvents, m)

/-- Does operations one after the other and records them. -/
def run (m : Manager) : List Operation → List Step × Manager
  | [] => ([], m)
  | op :: ops =>
    let rest := (m.perform op).2.run ops
    (⟨op, (m.perform op).1⟩ :: rest.1, rest.2)

@[simp]
theorem run_nil (m : Manager) : m.run [] = ([], m) :=
  rfl

theorem run_cons (m : Manager) (op : Operation) (ops : List Operation) :
    m.run (op :: ops) = (⟨op, (m.perform op).1⟩ :: ((m.perform op).2.run ops).1,
      ((m.perform op).2.run ops).2) :=
  rfl

/-- A prefix of a record is the record of a prefix. -/
theorem run_take (m : Manager) (ops : List Operation) (n : ℕ) :
    (m.run (ops.take n)).1 = (m.run ops).1.take n := by
  induction ops generalizing m n with
  | nil => simp
  | cons op ops ih =>
    cases n with
    | zero => rfl
    | succ n => rw [List.take_succ_cons, run_cons, run_cons, List.take_succ_cons, ih]

/-- An entry of a record is an operation with the answer of the manager at that time. -/
theorem answer_eq_of_getElem? {m : Manager} {ops : List Operation} {n : ℕ} {s : Step}
    (h : (m.run ops).1[n]? = some s) :
    s.answer = ((m.run (ops.take n)).2.perform s.operation).1 := by
  induction ops generalizing m n with
  | nil => cases h
  | cons op ops ih =>
    cases n with
    | zero =>
      cases h
      rfl
    | succ n => exact ih h

/-- The operations of a record are those that were done. -/
theorem map_operation_run (m : Manager) (ops : List Operation) :
    (m.run ops).1.map Step.operation = ops := by
  induction ops generalizing m with
  | nil => rfl
  | cons op ops ih => rw [run_cons, List.map_cons, ih]

theorem operation_of_getElem?_run {m : Manager} {ops : List Operation} {n : ℕ} {s : Step}
    (h : (m.run ops).1[n]? = some s) : ops[n]? = some s.operation := by
  rw [← map_operation_run m ops, List.getElem?_map, h, Option.map_some]

theorem exists_getElem?_run (m : Manager) {ops : List Operation} {n : ℕ} {op : Operation}
    (h : ops[n]? = some op) : ∃ answer, (m.run ops).1[n]? = some ⟨op, answer⟩ := by
  rw [← map_operation_run m ops, List.getElem?_map] at h
  obtain ⟨⟨_, answer⟩, hn, rfl⟩ := Option.map_eq_some_iff.1 h
  exact ⟨answer, hn⟩

end Runs

/-! ### What a record says -/

/-- The configuration that a step has made active, if any. -/
def Step.installed? (s : Step) : Option Configuration :=
  match s.answer with
  | .promoted (.ok c) => some c
  | .reloaded (.ok c) => some c
  | _ => none

/-- The configurations made active in the course of a record, in order. -/
def installs (record : List Step) : List Configuration := record.filterMap Step.installed?

/-- Whether an operation is on the staging slot, be it to fill it, to empty it or both. -/
def Operation.onSlot : Operation → Bool
  | .load _ => false
  | .report _ => false
  | _ => true

/-- The configuration that an operation leaves on the slot, if it leaves one. -/
def Operation.staged? : Operation → Option Configuration
  | .stage c => some c
  | _ => none

/-- What is staged according to a record: what the last operation on the slot left there. -/
def slot (record : List Step) : Option Configuration :=
  (record.filter (·.operation.onSlot)).getLast?.bind (·.operation.staged?)

theorem installs_append_of_none {record : List Step} {s : Step} (h : s.installed? = none) :
    installs (record ++ [s]) = installs record := by
  simp [installs, List.filterMap_append, h]

theorem installs_append_of_some {record : List Step} {s : Step} {c : Configuration}
    (h : s.installed? = some c) : installs (record ++ [s]) = installs record ++ [c] := by
  simp [installs, List.filterMap_append, h]

theorem filter_onSlot_append_of_not_onSlot {record : List Step} {s : Step}
    (h : s.operation.onSlot = false) :
    (record ++ [s]).filter (·.operation.onSlot) = record.filter (·.operation.onSlot) := by
  simp [List.filter_append, h]

theorem getLast?_onSlot_append_of_onSlot {record : List Step} {s : Step}
    (h : s.operation.onSlot = true) :
    ((record ++ [s]).filter (·.operation.onSlot)).getLast? = some s := by
  simp [List.filter_append, h]

/-! ### One operation -/

/-- Promotion takes what is staged, and without it nothing happens. -/
theorem perform_promote [Json.Diagnosis] (m : Manager) :
    m.perform .promote = m.staged.elim (.promoted (.error .nothingStaged), m)
      fun c ↦ (.promoted (.ok c), m.install c) := by
  cases hs : m.staged with
  | none => rw [perform, promote_of_not_staged hs, Option.elim_none]
  | some c => rw [perform, promote_of_staged hs, Option.elim_some]

/-- A reload installs what its documents load as, and without that it empties the slot. -/
theorem perform_reload [Json.Diagnosis] (m : Manager) (docs : List Document) :
    m.perform (.reload docs) =
      match (Configuration.load docs).result with
      | .error e => (.reloaded (.error e), m.discard)
      | .ok c => (.reloaded (.ok c), m.install c) := by
  cases hload : (Configuration.load docs).result with
  | error e =>
    obtain ⟨hresult, hmanager⟩ := m.reload_of_load_error hload
    rw [perform, hresult, hmanager]
  | ok c =>
    obtain ⟨hresult, hmanager⟩ := m.reload_of_load_ok hload
    rw [perform, hresult, hmanager]

/-- **What one operation can do.** It is not on the slot and changes nothing; it changes nothing but
the slot; or it installs a configuration, and then it is not one that stages. -/
theorem perform_cases [Json.Diagnosis] (m : Manager) (op : Operation) :
    (op.onSlot = false ∧ Step.installed? ⟨op, (m.perform op).1⟩ = none ∧ (m.perform op).2 = m) ∨
    (op.onSlot = true ∧ Step.installed? ⟨op, (m.perform op).1⟩ = none ∧
      (m.perform op).2 = { m with staged := op.staged? }) ∨
    (op.onSlot = true ∧ op.staged? = none ∧
      ∃ c, Step.installed? ⟨op, (m.perform op).1⟩ = some c ∧ (m.perform op).2 = m.install c) := by
  cases op with
  | startDraft => exact .inr (.inl ⟨rfl, rfl, rfl⟩)
  | stage c => exact .inr (.inl ⟨rfl, rfl, rfl⟩)
  | discard => exact .inr (.inl ⟨rfl, rfl, rfl⟩)
  | promote =>
    cases hs : m.staged with
    | none =>
      rw [perform_promote, hs]
      -- A promotion that fails is on the slot all the same: it leaves it as empty as it was.
      refine .inr (.inl ⟨rfl, rfl, ?_⟩)
      show m = { m with staged := none }
      rw [← hs]
    | some c =>
      rw [perform_promote, hs]
      exact .inr (.inr ⟨rfl, rfl, c, rfl, rfl⟩)
  | reload docs =>
    rw [perform_reload]
    cases (Configuration.load docs).result with
    | error e => exact .inr (.inl ⟨rfl, rfl, rfl⟩)
    | ok c => exact .inr (.inr ⟨rfl, rfl, c, rfl, rfl⟩)
  | load docs => exact .inl ⟨rfl, rfl, rfl⟩
  | report c => exact .inl ⟨rfl, rfl, rfl⟩

/-! ### The invariant -/

/-- What became of a manager in the course of a record: what the record does not speak of is as it
was before. -/
structure Follows (m m₀ : Manager) (record : List Step) : Prop where
  generation : m.generation = m₀.generation + .ofNat (installs record).length
  active : m.active = (installs record).getLast?.or m₀.active
  thresholds : m.thresholds =
    (installs record).getLast?.elim m₀.thresholds Configuration.thresholds
  staged : m.staged = (record.filter (·.operation.onSlot)).getLast?.elim m₀.staged
    (·.operation.staged?)

theorem Follows.refl (m : Manager) : m.Follows m [] where
  generation := (UInt64.add_zero _).symm
  active := rfl
  thresholds := rfl
  staged := rfl

variable {m m₀ : Manager} {initial : Thresholds} {record : List Step}

/-- **One operation keeps the invariant.** -/
theorem Follows.perform [Json.Diagnosis] (h : m.Follows m₀ record) (op : Operation) :
    (m.perform op).2.Follows m₀ (record ++ [⟨op, (m.perform op).1⟩]) := by
  rcases m.perform_cases op with ⟨hslot, hnone, hm⟩ | ⟨hslot, hnone, hm⟩ |
    ⟨hslot, hstaged, c, hsome, hm⟩
  · rw [hm]
    constructor
    · rw [installs_append_of_none hnone, h.generation]
    · rw [installs_append_of_none hnone, h.active]
    · rw [installs_append_of_none hnone, h.thresholds]
    · rw [filter_onSlot_append_of_not_onSlot hslot, h.staged]
  · rw [hm]
    constructor
    · rw [installs_append_of_none hnone, h.generation]
    · rw [installs_append_of_none hnone, h.active]
    · rw [installs_append_of_none hnone, h.thresholds]
    · rw [getLast?_onSlot_append_of_onSlot hslot]
      rfl
  · rw [hm]
    constructor
    · rw [installs_append_of_some hsome, List.length_append, List.length_singleton,
        UInt64.ofNat_add, ← UInt64.add_assoc, ← h.generation]
      rfl
    · rw [installs_append_of_some hsome, List.getLast?_concat]
      rfl
    · rw [installs_append_of_some hsome, List.getLast?_concat]
      rfl
    · rw [getLast?_onSlot_append_of_onSlot hslot, Option.elim_some, hstaged]
      rfl

/-- **A run keeps the invariant**, from any record on. -/
theorem Follows.run [Json.Diagnosis] (h : m.Follows m₀ record) (ops : List Operation) :
    (m.run ops).2.Follows m₀ (record ++ (m.run ops).1) := by
  induction ops generalizing m record with
  | nil => rwa [run_nil, List.append_nil]
  | cons op ops ih =>
    have hrest := ih (h.perform op)
    rwa [List.append_assoc, List.singleton_append] at hrest

theorem follows_run [Json.Diagnosis] (m : Manager) (ops : List Operation) :
    (m.run ops).2.Follows m (m.run ops).1 :=
  (Follows.refl m).run ops

/-- A manager that started with some thresholds holds what a record says. -/
structure RecordedBy (m : Manager) (initial : Thresholds) (record : List Step) : Prop where
  generation : m.generation = .ofNat (installs record).length
  active : m.active = (installs record).getLast?
  thresholds : m.thresholds = m.active.elim initial Configuration.thresholds
  staged : m.staged = slot record

/-- A manager that started with nothing holds what the record says and nothing else. -/
theorem Follows.recordedBy (h : m.Follows (ofThresholds initial) record) :
    m.RecordedBy initial record := by
  have hactive : m.active = (installs record).getLast? := by
    rw [h.active]
    exact Option.or_none
  constructor
  · rw [h.generation]
    exact UInt64.zero_add _
  · exact hactive
  · rw [h.thresholds, hactive]
    rfl
  · rw [h.staged, slot]
    cases (record.filter (·.operation.onSlot)).getLast? <;> rfl

/-- A manager is what the record of all its operations says. -/
theorem recordedBy_run [Json.Diagnosis] (initial : Thresholds) (ops : List Operation) :
    ((ofThresholds initial).run ops).2.RecordedBy initial ((ofThresholds initial).run ops).1 :=
  (follows_run _ ops).recordedBy

/-- Thresholds that started as severities stay those of severities. -/
theorem RecordedBy.thresholds_eq {log console : Severity}
    (h : m.RecordedBy (.ofSeverities log console) record) :
    m.thresholds = .ofSeverities (m.active.elim log (·.settings.logThreshold))
      (m.active.elim console (·.settings.consoleThreshold)) := by
  rw [h.thresholds]
  cases m.active <;> rfl

/-! ### Where a promoted configuration comes from -/

/-- The last element that passes a test is one that passes and has none that passes after it. -/
theorem getLast?_filter_eq_some_iff {α : Type} {p : α → Bool} {l : List α} {a : α} :
    (l.filter p).getLast? = some a ↔
      p a = true ∧ ∃ i : ℕ, l[i]? = some a ∧
        ∀ (k : ℕ) b, i < k → l[k]? = some b → p b = false := by
  rw [List.getLast?_filter, List.find?_eq_some_iff_append]
  refine and_congr_right fun ha ↦ ?_
  constructor
  · rintro ⟨after, before, hl, hafter⟩
    have hl : l = before.reverse ++ a :: after.reverse := by
      rw [← l.reverse_reverse, hl]
      simp
    subst hl
    refine ⟨before.reverse.length, by simp, fun k b hk hb ↦ ?_⟩
    obtain ⟨d, rfl⟩ := Nat.exists_eq_add_of_lt hk
    rw [List.getElem?_append_right (by omega), Nat.add_assoc, Nat.add_sub_cancel_left,
      List.getElem?_cons_succ] at hb
    simpa using hafter b (List.mem_reverse.1 (List.mem_of_getElem? hb))
  · rintro ⟨i, hi, hlater⟩
    obtain ⟨hlt, hi⟩ := List.getElem?_eq_some_iff.1 hi
    refine ⟨(l.drop (i + 1)).reverse, (l.take i).reverse, ?_, fun b hb ↦ ?_⟩
    · have hl : l = l.take i ++ a :: l.drop (i + 1) := by
        rw [← hi, List.getElem_cons_drop, List.take_append_drop]
      nth_rewrite 1 [hl]
      simp
    · obtain ⟨k, hk⟩ := List.mem_iff_getElem?.1 (List.mem_reverse.1 hb)
      rw [List.getElem?_drop] at hk
      rw [hlater _ b (by omega) hk]
      rfl

/-- Step `i` of a record stages `c`, and no step between it and step `j` is on the slot. -/
def HeldFrom (record : List Step) (i j : ℕ) (c : Configuration) : Prop :=
  i < j ∧ (record[i]?).map Step.operation = some (.stage c) ∧
    ∀ k s, i < k → k < j → record[k]? = some s → s.operation.onSlot = false

theorem slot_eq_some_iff {c : Configuration} :
    slot record = some c ↔
      ∃ answer, (record.filter (·.operation.onSlot)).getLast? = some ⟨.stage c, answer⟩ := by
  rw [slot, Option.bind_eq_some_iff]
  constructor
  · rintro ⟨⟨op, answer⟩, hlast, hstaged⟩
    cases op <;> cases hstaged
    exact ⟨answer, hlast⟩
  · rintro ⟨answer, hlast⟩
    exact ⟨_, hlast, rfl⟩

/-- A configuration is staged after a record exactly when some step has staged it and it has been
held since. -/
theorem slot_eq_some_iff_heldFrom {c : Configuration} :
    slot record = some c ↔ ∃ i, HeldFrom record i record.length c := by
  rw [slot_eq_some_iff]
  simp only [getLast?_filter_eq_some_iff]
  constructor
  · rintro ⟨answer, -, i, hi, hlater⟩
    have hlt := (List.getElem?_eq_some_iff.1 hi).1
    exact ⟨i, hlt, by rw [hi, Option.map_some], fun k s hik _ hs ↦ hlater k s hik hs⟩
  · rintro ⟨i, hlt, hstage, hbetween⟩
    obtain ⟨⟨_, answer⟩, hi, rfl⟩ := Option.map_eq_some_iff.1 hstage
    refine ⟨answer, rfl, i, hi, fun k s hik hs ↦ ?_⟩
    exact hbetween k s hik (List.getElem?_eq_some_iff.1 hs).1 hs

/-- What a step finds on the slot depends only on the steps before it. -/
theorem heldFrom_take {i j : ℕ} {c : Configuration} (hj : j ≤ record.length) :
    HeldFrom (record.take j) i (record.take j).length c ↔ HeldFrom record i j c := by
  rw [List.length_take, Nat.min_eq_left hj]
  refine and_congr_right fun hi ↦ and_congr ?_ ?_
  · rw [List.getElem?_take_of_lt hi]
  · refine forall_congr' fun k ↦ forall_congr' fun s ↦ forall_congr' fun _ ↦
      forall_congr' fun hk ↦ ?_
    rw [List.getElem?_take_of_lt hk]

/-- **One step feeds at most one other on the slot**: of two, the earlier would stand between the
step that staged and the later. -/
theorem HeldFrom.unique {i j j' : ℕ} {c c' : Configuration} {s s' : Step}
    (h : HeldFrom record i j c) (h' : HeldFrom record i j' c') (hj : record[j]? = some s)
    (hj' : record[j']? = some s') (hs : s.operation.onSlot = true)
    (hs' : s'.operation.onSlot = true) : j = j' := by
  rcases Nat.lt_trichotomy j j' with hlt | heq | hlt
  · rw [h'.2.2 j s h.1 hlt hj] at hs
    cases hs
  · exact heq
  · rw [h.2.2 j' s' h'.1 hlt hj'] at hs'
    cases hs'

/-- A step on the slot is fed by at most one other: of two, the earlier has been replaced by the
later. -/
theorem HeldFrom.unique_left {i i' j : ℕ} {c c' : Configuration} (h : HeldFrom record i j c)
    (h' : HeldFrom record i' j c') : i = i' := by
  obtain ⟨s, hs, hstage⟩ := Option.map_eq_some_iff.1 h.2.1
  obtain ⟨s', hs', hstage'⟩ := Option.map_eq_some_iff.1 h'.2.1
  rcases Nat.lt_trichotomy i i' with hlt | heq | hlt
  · have hslot := h.2.2 i' s' hlt h'.1 hs'
    rw [hstage'] at hslot
    cases hslot
  · exact heq
  · have hslot := h'.2.2 i s hlt h.1 hs
    rw [hstage] at hslot
    cases hslot

/-- What is staged after some of the steps of a record. -/
theorem slot_take_eq_some_iff {j : ℕ} {c : Configuration} (hj : j ≤ record.length) :
    slot (record.take j) = some c ↔ ∃ i, HeldFrom record i j c := by
  simp only [slot_eq_some_iff_heldFrom, heldFrom_take hj]

/-- A promotion answers with what is staged according to the record, where the record decides. -/
theorem answer_promote [Json.Diagnosis] {ops : List Operation} {j : ℕ} {answer : Answer}
    (h : (m.run ops).1[j]? = some ⟨.promote, answer⟩)
    (hstaged : (m.run (ops.take j)).2.staged = slot ((m.run ops).1.take j)) :
    answer = .promoted ((slot ((m.run ops).1.take j)).elim (.error .nothingStaged) .ok) := by
  have hanswer : answer = _ := answer_eq_of_getElem? h
  rw [perform_promote, hstaged] at hanswer
  rw [hanswer]
  cases slot ((m.run ops).1.take j) <;> rfl

/-- A promotion in the course of a run finds what a step has staged and nobody has touched since, or
it fails. -/
theorem promoted_iff_heldFrom [Json.Diagnosis] {initial : Thresholds} {ops : List Operation} {j : ℕ}
    {answer : Answer} {c : Configuration}
    (h : ((ofThresholds initial).run ops).1[j]? = some ⟨.promote, answer⟩) :
    answer = .promoted (.ok c) ↔ ∃ i, HeldFrom ((ofThresholds initial).run ops).1 i j c := by
  have hj : j < ((ofThresholds initial).run ops).1.length := (List.getElem?_eq_some_iff.1 h).1
  -- The manager that answers has done the operations before, and their record is a prefix.
  have hbefore := (recordedBy_run initial (ops.take j)).staged
  rw [run_take] at hbefore
  rw [answer_promote h hbefore, ← slot_take_eq_some_iff (Nat.le_of_lt hj)]
  cases slot (((ofThresholds initial).run ops).1.take j) <;> simp

/-- **A manager is determined by its history.** It starts empty with some thresholds, and any
operations are done on it in any order. The record is of these operations. The generation is the
number of configurations installed (in 64 bits), those of reloads included; the last of them is
active; the thresholds are those of the active configuration, or the initial ones, and what is
stored stands for a severity; a configuration is staged exactly when the last operation on the slot
has staged it. A promotion succeeds exactly when some step has staged a configuration and no
operation on the slot has come in between, and what is staged by one step is promoted by at most
one. The next promotion installs what is staged; where nothing is, it fails and changes nothing. -/
theorem run_determined_by_history [Json.Diagnosis] (log console : Severity) (ops : List Operation) :
    let record := ((ofThresholds (.ofSeverities log console)).run ops).1
    let m := ((ofThresholds (.ofSeverities log console)).run ops).2
    record.map Step.operation = ops ∧
    m.generation = .ofNat (installs record).length ∧
    m.active = (installs record).getLast? ∧
    Severity.ofLevel? m.thresholds.logLevel = some m.thresholds.log ∧
    m.thresholds.log = m.active.elim log (·.settings.logThreshold) ∧
    Severity.ofLevel? m.thresholds.consoleLevel = some m.thresholds.console ∧
    m.thresholds.console = m.active.elim console (·.settings.consoleThreshold) ∧
    (∀ c, m.staged = some c ↔
      ∃ answer, (record.filter (·.operation.onSlot)).getLast? = some ⟨.stage c, answer⟩) ∧
    (∀ j answer c, record[j]? = some ⟨.promote, answer⟩ →
      (answer = .promoted (.ok c) ↔ ∃ i, HeldFrom record i j c)) ∧
    (∀ i j j' c c' answer answer', HeldFrom record i j c → HeldFrom record i j' c' →
      record[j]? = some ⟨.promote, answer⟩ → record[j']? = some ⟨.promote, answer'⟩ → j = j') ∧
    m.perform .promote = m.staged.elim (.promoted (.error .nothingStaged), m)
      fun c ↦ (.promoted (.ok c), m.install c) := by
  intro record m
  have h : m.RecordedBy (.ofSeverities log console) record := recordedBy_run _ ops
  have ht := h.thresholds_eq
  refine ⟨map_operation_run _ ops, h.generation, h.active, ?_, ?_, ?_, ?_, ?_, ?_, ?_, ?_⟩
  · rw [ht, Thresholds.log_ofSeverities]
    exact Severity.ofLevel?_level _
  · rw [ht, Thresholds.log_ofSeverities]
  · rw [ht, Thresholds.console_ofSeverities]
    exact Severity.ofLevel?_level _
  · rw [ht, Thresholds.console_ofSeverities]
  · intro c
    rw [h.staged, slot_eq_some_iff]
  · intro j answer c hj
    exact promoted_iff_heldFrom hj
  · intro i j j' c c' answer answer' hi hi' hj hj'
    exact hi.unique hi' hj hj' rfl rfl
  · exact m.perform_promote

/-- One configuration is staged and promoted, a reload puts another in its place, and then nothing
is left to promote. -/
theorem run_determined_by_history_reloaded :
    ∃ c c', (Configuration.load [.declaring, .referring]).result = .ok c ∧
      (Configuration.load [.referring, .declaring]).result = .ok c' ∧
      ∃ record m, (ofThresholds (.ofSeverities .err .err)).run
          [.stage c, .promote, .reload [.referring, .declaring], .promote] = (record, m) ∧
        m.generation = 2 ∧ m.active = some c' ∧ m.thresholds.log = .notice ∧ m.staged = none ∧
        HeldFrom record 0 1 c ∧ record[1]? = some ⟨.promote, .promoted (.ok c)⟩ ∧
        (∀ i c, ¬HeldFrom record i 3 c) ∧
        record[3]? = some ⟨.promote, .promoted (.error .nothingStaged)⟩ := by
  obtain ⟨c, hload⟩ : ∃ c, (Configuration.load [.declaring, .referring]).result = .ok c :=
    ⟨_, Draft.load_pair Document.fragment_declaring Document.fragment_referring rfl⟩
  obtain ⟨c', hload', hnotice⟩ : ∃ c,
      (Configuration.load [.referring, .declaring]).result = .ok c ∧
        c.settings.logThreshold = .notice :=
    ⟨_, Draft.load_pair Document.fragment_referring Document.fragment_declaring rfl, rfl⟩
  refine ⟨c, c', hload, hload', ?_⟩
  generalize [Document.referring, .declaring] = docs at hload' ⊢
  let empty := ofThresholds (.ofSeverities .err .err)
  have hrun : empty.run [.stage c, .promote, .reload docs, .promote] =
      ([⟨.stage c, .done⟩, ⟨.promote, .promoted (.ok c)⟩, ⟨.reload docs, .reloaded (.ok c')⟩,
        ⟨.promote, .promoted (.error .nothingStaged)⟩], (empty.install c).install c') := by
    have hstage : empty.perform (.stage c) = (.done, empty.stage c) := rfl
    have hpromote : (empty.stage c).perform .promote = (.promoted (.ok c), empty.install c) := rfl
    have hreload : (empty.install c).perform (.reload docs) =
        (.reloaded (.ok c'), (empty.install c).install c') := by rw [perform_reload, hload']
    have hfail : ((empty.install c).install c').perform .promote =
        (.promoted (.error .nothingStaged), (empty.install c).install c') := rfl
    simp only [run_cons, run_nil, hstage, hpromote, hreload, hfail]
  have hhistory := run_determined_by_history .err .err [.stage c, .promote, .reload docs, .promote]
  rw [hrun] at hhistory
  obtain ⟨-, hgeneration, hactive, -, hlog, -, -, hstaged, hpromoted, -, -⟩ := hhistory
  obtain ⟨i, hheld⟩ := (hpromoted 1 _ c rfl).1 rfl
  obtain rfl : i = 0 := Nat.lt_one_iff.1 hheld.1
  refine ⟨_, _, hrun, hgeneration, hactive, hlog.trans hnotice, ?_, hheld, rfl, fun i c h ↦ ?_, rfl⟩
  · refine Option.eq_none_iff_forall_ne_some.2 fun c hc ↦ ?_
    obtain ⟨answer, hlast⟩ := (hstaged c).1 hc
    cases hlast
  · have hanswer := (hpromoted 3 _ c rfl).2 ⟨i, h⟩
    cases hanswer

end TrustRouter.Manager
