import TrustRouter.Proofs.Configuration.Merging
import TrustRouter.Proofs.Manager.History

/-!
# Reload passes that interleave

Nothing keeps several reload passes from sharing a manager. A pass is four operations (`pass`), and
operations of other passes may come between any two of them. There is one staging slot, so a pass
can find its configuration replaced, taken or dropped. What cannot happen is that configurations are
mixed, or that one is made active twice for having been staged once
(`interleaved_passes_never_mix`).

A schedule is a list of operations, each with the pass that does it. All that is asked of it is that
the operations of each pass are a beginning of that pass (`Interleaves`): there may be any number of
passes, and each may be anywhere between not begun and done.

## What it rests on

* A configuration that is promoted was staged by some step, and nobody has been on the slot since.
  This is true of any operations and comes from their record (`slot_eq_some_iff_heldFrom`).
* What a pass stages is what its own documents load as, because loading looks at nothing else. So
  it does not matter whose promotion it is that finds it there.
* A pass that promotes has staged before. So nothing of what the manager held before the first step
  is ever promoted, and a promotion that finds the slot empty has been preceded by somebody else who
  emptied it: between its two steps a pass does nothing itself.
-/

namespace TrustRouter.Manager

/-! ### Passes -/

section Passes

variable [Json.Diagnosis]

/-- The operations of a reload pass, in order. It ends early when its documents cannot be loaded. -/
def pass (docs : List Document) : List Operation :=
  .startDraft :: .load docs ::
    match (Configuration.load docs).result with
    | .error _ => []
    | .ok c => [.stage c, .promote]

theorem pass_of_load_error {docs : List Document} {e : LoadError}
    (h : (Configuration.load docs).result = .error e) : pass docs = [.startDraft, .load docs] := by
  rw [pass, h]

theorem pass_of_load_ok {docs : List Document} {c : Configuration}
    (h : (Configuration.load docs).result = .ok c) :
    pass docs = [.startDraft, .load docs, .stage c, .promote] := by
  rw [pass, h]

/-- A pass that nothing comes between is a reload. -/
theorem run_pass (m : Manager) (docs : List Document) :
    (m.run (pass docs)).2 = (m.reload docs).manager ∧
      installs (m.run (pass docs)).1 = (m.reload docs).result.toOption.toList := by
  cases hload : (Configuration.load docs).result with
  | error e =>
    obtain ⟨hresult, hmanager⟩ := m.reload_of_load_error hload
    rw [pass_of_load_error hload, hresult, hmanager]
    exact ⟨rfl, rfl⟩
  | ok c =>
    obtain ⟨hresult, hmanager⟩ := m.reload_of_load_ok hload
    rw [pass_of_load_ok hload, hresult, hmanager]
    exact ⟨rfl, rfl⟩

/-- What a pass stages is what its documents load as. -/
theorem load_of_stage_mem_pass {docs : List Document} {c : Configuration}
    (h : .stage c ∈ pass docs) : (Configuration.load docs).result = .ok c := by
  cases hload : (Configuration.load docs).result with
  | error e => simp [pass_of_load_error hload] at h
  | ok c' =>
    rw [pass_of_load_ok hload] at h
    simp only [List.mem_cons, reduceCtorEq, Operation.stage.injEq, List.not_mem_nil, or_false,
      false_or] at h
    rw [h]

/-- Of its operations on the slot, a pass begins with one that empties it and ends with one that
promotes. -/
theorem eq_of_mem_pass {docs : List Document} {op : Operation} (h : op ∈ pass docs)
    (hslot : op.onSlot = true) (hstaged : op.staged? = none) :
    op = .startDraft ∨ op = .promote := by
  cases hload : (Configuration.load docs).result with
  | error e =>
    rw [pass_of_load_error hload] at h
    cases op <;> simp_all [Operation.onSlot]
  | ok c =>
    rw [pass_of_load_ok hload] at h
    cases op <;> simp_all [Operation.onSlot, Operation.staged?]

/-- A pass promotes right after it has staged. -/
theorem eq_of_append_promote_prefix_pass {docs : List Document} {ops : List Operation}
    (h : ops ++ [.promote] <+: pass docs) : ∃ c, ops = [.startDraft, .load docs, .stage c] := by
  have hmem : .promote ∈ pass docs := h.subset (List.mem_append_right _ List.mem_cons_self)
  cases hload : (Configuration.load docs).result with
  | error e => simp [pass_of_load_error hload] at hmem
  | ok c =>
    obtain ⟨rest, hrest⟩ := h
    rw [pass_of_load_ok hload] at hrest
    refine ⟨c, ?_⟩
    rcases ops with _ | ⟨_, _ | ⟨_, _ | ⟨_, _ | ⟨_, ops⟩⟩⟩⟩ <;> simp_all

end Passes

/-! ### Schedules -/

variable {ι : Type} [DecidableEq ι]

/-- The operations that a schedule has for one pass. -/
def operationsOf (schedule : List (ι × Operation)) (i : ι) : List Operation :=
  (schedule.filter (·.1 = i)).map Prod.snd

/-- A schedule of passes over these documents. -/
def Interleaves [Json.Diagnosis] (docs : ι → List Document) (schedule : List (ι × Operation)) :
    Prop :=
  ∀ i, operationsOf schedule i <+: pass (docs i)

section Schedules

variable [Json.Diagnosis] {docs : ι → List Document} {schedule : List (ι × Operation)} {i : ι}

omit [Json.Diagnosis] in
theorem mem_operationsOf {op : Operation} (h : (i, op) ∈ schedule) :
    op ∈ operationsOf schedule i :=
  List.mem_map.2 ⟨(i, op), List.mem_filter.2 ⟨h, decide_eq_true rfl⟩, rfl⟩

/-- A schedule that is cut off is still one of the same passes. -/
theorem Interleaves.take (h : Interleaves docs schedule) (n : ℕ) :
    Interleaves docs (schedule.take n) := by
  intro i
  have hprefix : operationsOf (schedule.take n) i <+: operationsOf schedule i :=
    ((schedule.take_prefix n).filter _).map _
  exact hprefix.trans (h i)

theorem Interleaves.mem_pass (h : Interleaves docs schedule) {op : Operation}
    (hop : (i, op) ∈ schedule) : op ∈ pass (docs i) :=
  (h i).subset (mem_operationsOf hop)

/-- A pass that promotes has staged before, and in between it does nothing. -/
theorem Interleaves.staged_before_promote (h : Interleaves docs schedule) {j : ℕ}
    (hj : schedule[j]? = some (i, .promote)) :
    ∃ k c, k < j ∧ schedule[k]? = some (i, .stage c) ∧
      ∀ l entry, k < l → l < j → schedule[l]? = some entry → entry.1 ≠ i := by
  obtain ⟨hlt, hj⟩ := List.getElem?_eq_some_iff.1 hj
  -- Its operations up to its promotion are the beginning of a pass that ends there.
  have hprefix : operationsOf (schedule.take j) i ++ [.promote] <+: pass (docs i) := by
    have htake := h.take (j + 1) i
    rw [List.take_succ_eq_append_getElem hlt, hj, operationsOf, List.filter_append,
      List.map_append] at htake
    simpa [operationsOf] using htake
  obtain ⟨c, hops⟩ := eq_of_append_promote_prefix_pass hprefix
  have hlast : ((schedule.take j).filter (·.1 = i)).getLast? = some (i, .stage c) := by
    have hsnd := congrArg List.getLast? hops
    rw [operationsOf, List.getLast?_map] at hsnd
    obtain ⟨entry, hentry, hop⟩ := Option.map_eq_some_iff.1 hsnd
    have hi := List.of_mem_filter (List.mem_of_getLast? hentry)
    rw [hentry]
    exact congrArg some (Prod.ext (of_decide_eq_true hi) hop)
  obtain ⟨-, k, hk, hlater⟩ := getLast?_filter_eq_some_iff.1 hlast
  have hkj : k < j := by
    have hk := (List.getElem?_eq_some_iff.1 hk).1
    rw [List.length_take] at hk
    omega
  refine ⟨k, c, hkj, by rwa [List.getElem?_take_of_lt hkj] at hk, fun l entry hkl hlj hl ↦ ?_⟩
  rw [← List.getElem?_take_of_lt hlj] at hl
  exact of_decide_eq_false (hlater l entry hkl hl)

end Schedules

/-! ### Runs of schedules -/

/-- Once there has been an operation on the slot, what was there before does not matter. -/
theorem Follows.staged_eq_slot {m m₀ : Manager} {record : List Step} (h : m.Follows m₀ record)
    {s : Step} (hs : s ∈ record) (hslot : s.operation.onSlot = true) : m.staged = slot record := by
  have hmem : s ∈ record.filter (·.operation.onSlot) := List.mem_filter.2 ⟨hs, hslot⟩
  rw [h.staged, slot]
  cases hlast : (record.filter (·.operation.onSlot)).getLast? with
  | none =>
    rw [List.getLast?_eq_none_iff.1 hlast] at hmem
    cases hmem
  | some last => rfl

/-- The configurations that promotions have made active, in order. -/
def promotions (record : List Step) : List Configuration := record.filterMap fun s ↦
  match s.answer with
  | .promoted (.ok c) => some c
  | _ => none

/-- Does the operations of a schedule one after the other. -/
def play [Json.Diagnosis] (m : Manager) (schedule : List (ι × Operation)) : List Step × Manager :=
  m.run (schedule.map Prod.snd)

section Play

omit [DecidableEq ι]

variable [Json.Diagnosis] {m : Manager} {schedule : List (ι × Operation)} {n : ℕ}

theorem follows_play (m : Manager) (schedule : List (ι × Operation)) :
    (m.play schedule).2.Follows m (m.play schedule).1 :=
  follows_run m _

theorem play_take (m : Manager) (schedule : List (ι × Operation)) (n : ℕ) :
    (m.play (schedule.take n)).1 = (m.play schedule).1.take n := by
  rw [play, play, List.map_take, run_take]

theorem exists_getElem?_of_play {s : Step} (h : (m.play schedule).1[n]? = some s) :
    ∃ i, schedule[n]? = some (i, s.operation) := by
  have hop := operation_of_getElem?_run h
  rw [List.getElem?_map] at hop
  obtain ⟨⟨i, _⟩, hn, rfl⟩ := Option.map_eq_some_iff.1 hop
  exact ⟨i, hn⟩

theorem exists_getElem?_play (m : Manager) {i : ι} {op : Operation}
    (h : schedule[n]? = some (i, op)) : ∃ answer, (m.play schedule).1[n]? = some ⟨op, answer⟩ :=
  exists_getElem?_run m (by rw [List.getElem?_map, h, Option.map_some])

end Play

section Interleaves

variable [Json.Diagnosis] {m : Manager} {docs : ι → List Document}
  {schedule : List (ι × Operation)} {i : ι} {j : ℕ} {c : Configuration}

/-- What a promotion finds on the slot is what the last step on it has left there. That there is one
is due to the pass itself, which has staged before. -/
theorem Interleaves.slot_eq_toOption (h : Interleaves docs schedule)
    {result : Except ManagerError Configuration}
    (hj : (m.play schedule).1[j]? = some ⟨.promote, .promoted result⟩) :
    slot ((m.play schedule).1.take j) = result.toOption := by
  obtain ⟨i, hpromote⟩ := exists_getElem?_of_play hj
  obtain ⟨k, c, hkj, hk, -⟩ := h.staged_before_promote hpromote
  rw [← List.getElem?_take_of_lt hkj] at hk
  obtain ⟨answer, hk⟩ := exists_getElem?_play m hk
  have hstaged : (m.play (schedule.take j)).2.staged = slot ((m.play schedule).1.take j) := by
    rw [(follows_play m _).staged_eq_slot (List.mem_of_getElem? hk) rfl, play_take]
  rw [play, List.map_take] at hstaged
  have hresult := Answer.promoted.inj (answer_promote hj hstaged)
  rw [hresult, play]
  cases slot ((m.run (schedule.map Prod.snd)).1.take j) <;> rfl

/-- Only promotions install. -/
theorem Interleaves.eq_of_installed (h : Interleaves docs schedule) {s : Step}
    (hs : (m.play schedule).1[j]? = some s) (hc : s.installed? = some c) :
    s = ⟨.promote, .promoted (.ok c)⟩ := by
  obtain ⟨i, hj⟩ := exists_getElem?_of_play hs
  obtain ⟨op, answer⟩ := s
  have hmem : op ∈ pass (docs i) := h.mem_pass (List.mem_of_getElem? hj)
  have hanswer : answer = ((m.run ((schedule.map Prod.snd).take j)).2.perform op).1 :=
    answer_eq_of_getElem? hs
  subst hanswer
  rcases (m.run ((schedule.map Prod.snd).take j)).2.perform_cases op with ⟨-, hnone, -⟩ |
    ⟨-, hnone, -⟩ | ⟨hslot, hstaged, -⟩
  · rw [hc] at hnone
    cases hnone
  · rw [hc] at hnone
    cases hnone
  · rcases eq_of_mem_pass hmem hslot hstaged with rfl | rfl
    · cases hc
    · rw [perform_promote] at hc ⊢
      cases hheld : (m.run ((schedule.map Prod.snd).take j)).2.staged <;> rw [hheld] at hc <;>
        cases hc
      rfl

/-- What is promoted was staged by a pass whose documents load as it, and has been held since. -/
theorem Interleaves.exists_heldFrom (h : Interleaves docs schedule)
    (hj : (m.play schedule).1[j]? = some ⟨.promote, .promoted (.ok c)⟩) :
    ∃ k i, HeldFrom (m.play schedule).1 k j c ∧ schedule[k]? = some (i, .stage c) ∧
      (Configuration.load (docs i)).result = .ok c := by
  have hlt : j < (m.play schedule).1.length := (List.getElem?_eq_some_iff.1 hj).1
  obtain ⟨k, hheld⟩ := (slot_take_eq_some_iff (Nat.le_of_lt hlt)).1 (h.slot_eq_toOption hj)
  obtain ⟨s, hk, hstage⟩ := Option.map_eq_some_iff.1 hheld.2.1
  obtain ⟨i, hk⟩ := exists_getElem?_of_play hk
  rw [hstage] at hk
  exact ⟨k, i, hheld, hk, load_of_stage_mem_pass (h.mem_pass (List.mem_of_getElem? hk))⟩

/-- What is active was active before, or some pass has staged it. -/
theorem Interleaves.active (h : Interleaves docs schedule) (n : ℕ)
    (hactive : (m.play (schedule.take n)).2.active = some c) :
    m.active = some c ∨ ∃ k i, k < n ∧ schedule[k]? = some (i, .stage c) ∧
      (Configuration.load (docs i)).result = .ok c := by
  rw [(follows_play m _).active, Option.or_eq_some_iff] at hactive
  rcases hactive with hlast | ⟨-, hinitial⟩
  · obtain ⟨s, hs, hc⟩ := List.mem_filterMap.1 (List.mem_of_getLast? hlast)
    obtain ⟨j, hj⟩ := List.getElem?_of_mem hs
    have hpromoted := (h.take n).eq_of_installed hj hc
    subst hpromoted
    obtain ⟨k, i, -, hk, hload⟩ := (h.take n).exists_heldFrom hj
    have hkn : k < n := by
      have hlt := (List.getElem?_eq_some_iff.1 hk).1
      rw [List.length_take] at hlt
      omega
    rw [List.getElem?_take_of_lt hkn] at hk
    exact .inr ⟨k, i, hkn, hk, hload⟩
  · exact .inl hinitial

/-- A promotion that finds nothing has been preceded, since its own pass has staged, by an operation
of another pass that leaves nothing. -/
theorem Interleaves.emptied (h : Interleaves docs schedule) (hi : schedule[j]? = some (i, .promote))
    (hj : (m.play schedule).1[j]? = some ⟨.promote, .promoted (.error .nothingStaged)⟩) :
    ∃ k c, k < j ∧ schedule[k]? = some (i, .stage c) ∧ ∃ l i', k < l ∧ l < j ∧ i' ≠ i ∧
      (schedule[l]? = some (i', .startDraft) ∨ schedule[l]? = some (i', .promote)) := by
  obtain ⟨k, c, hkj, hk, hbetween⟩ := h.staged_before_promote hi
  refine ⟨k, c, hkj, hk, ?_⟩
  have hslot : slot ((m.play schedule).1.take j) = none := h.slot_eq_toOption hj
  obtain ⟨answer, hstage⟩ := exists_getElem?_play m hk
  rw [← List.getElem?_take_of_lt hkj] at hstage
  cases hlast : (((m.play schedule).1.take j).filter (·.operation.onSlot)).getLast? with
  | none =>
    have hmem := List.mem_of_getElem? hstage
    rw [List.getLast?_eq_none_iff, List.filter_eq_nil_iff] at hlast
    exact absurd rfl (hlast _ hmem)
  | some last =>
    have hstaged : last.operation.staged? = none := by
      rwa [slot, hlast, Option.bind_some] at hslot
    obtain ⟨honSlot, l, hl, hlater⟩ := getLast?_filter_eq_some_iff.1 hlast
    -- The last step on the slot is not the one with which the pass has staged, nor before it.
    have hkl : k < l := by
      rcases Nat.lt_trichotomy k l with hlt | rfl | hgt
      · exact hlt
      · rw [hstage] at hl
        cases hl
        cases hstaged
      · cases hlater k _ hgt hstage
    have hlj : l < j := by
      have hlt := (List.getElem?_eq_some_iff.1 hl).1
      rw [List.length_take] at hlt
      omega
    rw [List.getElem?_take_of_lt hlj] at hl
    obtain ⟨i', hl⟩ := exists_getElem?_of_play hl
    refine ⟨l, i', hkl, hlj, hbetween l _ hkl hlj hl, ?_⟩
    rcases eq_of_mem_pass (h.mem_pass (List.mem_of_getElem? hl)) honSlot hstaged with hop | hop
    · exact .inl (hop ▸ hl)
    · exact .inr (hop ▸ hl)

/-- In an interleaving, what is installed is what promotions have made active. -/
theorem Interleaves.installs_eq_promotions (h : Interleaves docs schedule) :
    installs (m.play schedule).1 = promotions (m.play schedule).1 := by
  refine List.filterMap_congr fun s hs ↦ ?_
  obtain ⟨j, hj⟩ := List.getElem?_of_mem hs
  obtain ⟨op, answer⟩ := s
  rcases answer with _ | _ | (_ | _) | (_ | c) | _ | _ <;> try rfl
  cases h.eq_of_installed hj rfl

/-- **Passes that interleave never mix configurations, and never use one twice.** For any number of
passes, each with its own documents, and any interleaving of their operations, from any manager on:

* what is active after any number of steps was active at the start, or is what the documents of one
  of the passes load as, and that pass has staged it by then;
* what a promotion makes active was staged by exactly one step, and that step by no other promotion
  is used again;
* the generation has grown by the number of promotions that have succeeded;
* the active configuration and the thresholds are those of the last promotion that has succeeded;
* where a promotion finds nothing staged, another pass has begun or promoted since the pass itself
  has staged. -/
theorem interleaved_passes_never_mix (m : Manager) (docs : ι → List Document)
    (schedule : List (ι × Operation)) (h : Interleaves docs schedule) :
    let record := (m.play schedule).1
    let m' := (m.play schedule).2
    (∀ n c, (m.play (schedule.take n)).2.active = some c → m.active = some c ∨
      ∃ k i, k < n ∧ schedule[k]? = some (i, .stage c) ∧
        (Configuration.load (docs i)).result = .ok c) ∧
    (∀ j c, record[j]? = some ⟨.promote, .promoted (.ok c)⟩ → ∃! k, HeldFrom record k j c) ∧
    (∀ k j j' c c', HeldFrom record k j c → HeldFrom record k j' c' →
      record[j]? = some ⟨.promote, .promoted (.ok c)⟩ →
      record[j']? = some ⟨.promote, .promoted (.ok c')⟩ → j = j') ∧
    m'.generation = m.generation + .ofNat (promotions record).length ∧
    m'.active = (promotions record).getLast?.or m.active ∧
    m'.thresholds = (promotions record).getLast?.elim m.thresholds Configuration.thresholds ∧
    (∀ (i : ι) (j : ℕ), schedule[j]? = some (i, .promote) →
      record[j]? = some ⟨.promote, .promoted (.error .nothingStaged)⟩ →
      ∃ k c, k < j ∧ schedule[k]? = some (i, .stage c) ∧
        ∃ (l : ℕ) (i' : ι), k < l ∧ l < j ∧ i' ≠ i ∧
          (schedule[l]? = some (i', .startDraft) ∨ schedule[l]? = some (i', .promote))) := by
  intro record m'
  have hfollows : m'.Follows m record := follows_play m schedule
  have hinstalls : installs record = promotions record := h.installs_eq_promotions
  refine ⟨fun n c hactive ↦ ?_, fun j c hj ↦ ?_, fun k j j' c c' hk hk' hj hj' ↦ ?_, ?_, ?_, ?_,
    fun i j hi hj ↦ h.emptied hi hj⟩
  · exact h.active n hactive
  · obtain ⟨k, i, hheld, -, -⟩ := h.exists_heldFrom hj
    exact ⟨k, hheld, fun k' hheld' ↦ hheld'.unique_left hheld⟩
  · exact hk.unique hk' hj hj' rfl rfl
  · rw [hfollows.generation, hinstalls]
  · rw [hfollows.active, hinstalls]
  · rw [hfollows.thresholds, hinstalls]

end Interleaves

/-- Two passes in step with each other. The second stages before the first promotes. -/
def overtaking (docs docs' : List Document) (c c' : Configuration) : List (Bool × Operation) := [
  (false, .startDraft), (true, .startDraft), (false, .load docs), (true, .load docs'),
  (false, .stage c), (true, .stage c'), (false, .promote), (true, .promote)]

theorem interleaves_overtaking [Json.Diagnosis] {docs docs' : List Document} {c c' : Configuration}
    (h : (Configuration.load docs).result = .ok c)
    (h' : (Configuration.load docs').result = .ok c') :
    Interleaves (fun second ↦ bif second then docs' else docs) (overtaking docs docs' c c') := by
  intro i
  cases i with
  | false =>
    show _ <+: pass docs
    rw [pass_of_load_ok h]
    exact List.prefix_rfl
  | true =>
    show _ <+: pass docs'
    rw [pass_of_load_ok h']
    exact List.prefix_rfl

/-- The first pass makes active what the second has staged, and the second finds nothing left. -/
theorem interleaved_passes_never_mix_overtaking :
    ∃ c c' : Configuration,
      let m := ofThresholds (.ofSeverities .notice .notice)
      let schedule := overtaking [.referring, .declaring] [.declaring, .referring] c c'
      Interleaves (fun second ↦
        bif second then [.declaring, .referring] else [.referring, .declaring]) schedule ∧
      (m.play schedule).2.generation = 1 ∧
      (m.play schedule).2.active = some c' ∧
      ∃ k c'', k < 7 ∧ schedule[k]? = some (true, .stage c'') ∧
        ∃ (l : ℕ) (i : Bool), k < l ∧ l < 7 ∧ i ≠ true ∧
          (schedule[l]? = some (i, .startDraft) ∨ schedule[l]? = some (i, .promote)) := by
  obtain ⟨c, hload⟩ : ∃ c, (Configuration.load [.referring, .declaring]).result = .ok c :=
    ⟨_, Draft.load_pair Document.fragment_referring Document.fragment_declaring rfl⟩
  obtain ⟨c', hload'⟩ : ∃ c, (Configuration.load [.declaring, .referring]).result = .ok c :=
    ⟨_, Draft.load_pair Document.fragment_declaring Document.fragment_referring rfl⟩
  refine ⟨c, c', ?_⟩
  generalize [Document.referring, .declaring] = docs at hload ⊢
  generalize [Document.declaring, .referring] = docs' at hload' ⊢
  intro m schedule
  have h := interleaves_overtaking hload hload'
  obtain ⟨-, -, -, hgeneration, hactive, -, hemptied⟩ :=
    interleaved_passes_never_mix m _ schedule h
  exact ⟨h, hgeneration, hactive, hemptied true 7 rfl rfl⟩

end TrustRouter.Manager
