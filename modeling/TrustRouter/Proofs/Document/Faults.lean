import TrustRouter.Proofs.Document.Entities

/-!
# What faults claim

A fault names a place and a reason, and the two are put together by hand: a decoder knows the value
that it refuses, and whoever called it the step to that value. `Fault.TrueOf` says what a fault
claims about a value, reason by reason, by following its path from the root and looking at what is
found there. No decoder occurs in it.

* A member that is missing is the one reason whose path leads nowhere: the path without its last
  step leads to an object, and that object has no such member.
* What is out of bounds is told with the bound for arrays of that name (`Fault.limits`), an unknown
  word is none of those that are known at that place (`Fault.vocabulary`), and an integer is out of
  the range of that setting (`Fault.settings`).
* Two reasons are about more than the value at the end of the path: an array is empty that may be
  empty elsewhere, but not in a realm that is configured here or in a community of interest.

A decoder is `Truthful` when every fault that it reports is true of the value it is given. That
passes from the decoders of parts to the decoder of the whole because a fault that is true of a part
is true of the whole one step further (`Fault.TrueOf.within`). Where the truth of a fault depends on
the member that the value stands in, only the decoder together with that member can be judged, and
it is then `TruthfulAt` that member.
-/

namespace TrustRouter

namespace Json

/-- The end of a path of one step. -/
theorem at?_singleton (v : Json) (step : Step) : v.at? [step] = v.step? step := by
  rw [at?_cons]
  cases v.step? step <;> rfl

/-- The last step of a path is made from where the others lead. -/
theorem at?_concat (v : Json) (q : Path) (step : Step) :
    v.at? (q ++ [step]) = (v.at? q).bind (·.step? step) := by
  induction q generalizing v with
  | nil => exact v.at?_singleton step
  | cons first q ih =>
    rw [List.cons_append, at?_cons, at?_cons]
    cases v.step? first with
    | none => rfl
    | some w => exact ih w

end Json

/-! ### What a fault claims -/

/-- What the error says of a number of elements and the greatest number allowed. -/
def BoundError.Describes (e : BoundError) (size max : ℕ) : Prop :=
  match e with
  | .empty => size = 0
  | .tooMany actual max' => actual = size ∧ max' = max ∧ max < size

namespace Fault

open Json (Path Members)

/-- The arrays that have at least one element and at most so many. -/
def limits : List (String × ℕ) := [("gss_names", 5), ("filter_lines", 8), ("filter_specs", 8),
  ("realm_constraints", 24), ("domain_constraints", 24)]

/-- The fields that hold one of several words, with what the word is called. -/
def vocabulary : List (String × String × List String) := [
  ("type", "filter type", ["rp_permitted"]),
  ("action", "filter action", ["accept", "reject"]),
  ("type", "community type", ["apc", "coi"])]

/-- The settings that are integers, with what they are below. -/
def settings : List (String × ℕ) := [("max_tree_depth", UInt32.size), ("tids_port", UInt16.size),
  ("trps_port", UInt16.size), ("cfg_poll_interval", UInt32.size),
  ("cfg_settling_time", UInt32.size), ("trp_connect_interval", UInt32.size),
  ("trp_sweep_interval", UInt32.size), ("trp_update_interval", UInt32.size)]

/-- What a fault claims about a value is so. -/
inductive TrueOf (v : Json) : Fault → Prop where
  | missingField {q : Path} {key : String} {o : Members} :
    v.at? q = some (.object o) → o.lookup key = none → TrueOf v ⟨q ++ [.key key], .missingField⟩
  | notObject {q : Path} {w : Json} :
    v.at? q = some w → (∀ o, w ≠ .object o) → TrueOf v ⟨q, .notObject⟩
  | notArray {q : Path} {w : Json} :
    v.at? q = some w → (∀ items, w ≠ .array items) → TrueOf v ⟨q, .notArray⟩
  | notString {q : Path} {w : Json} :
    v.at? q = some w → (∀ s, w ≠ .string s) → TrueOf v ⟨q, .notString⟩
  | notNumber {q : Path} {w : Json} :
    v.at? q = some w → (∀ n, w ≠ .number n) → TrueOf v ⟨q, .notNumber⟩
  | notInteger {q : Path} {w : Json} :
    v.at? (q ++ [.key "expiration_interval"]) = some w → w.integer? = none →
      TrueOf v ⟨q ++ [.key "expiration_interval"], .notInteger⟩
  | notSetting {q : Path} {w : Json} {key : String} {bound : ℕ} :
    (key, bound) ∈ settings → v.at? (q ++ [.key key]) = some w →
      (∀ n : ℕ, w.integer? = some (n : Int) → bound ≤ n) → TrueOf v ⟨q ++ [.key key], .notSetting⟩
  | bound {q : Path} {items : List Json} {key : String} {max : ℕ} {e : BoundError} :
    (key, max) ∈ limits → v.at? (q ++ [.key key]) = some (.array items) →
      e.Describes items.length max → TrueOf v ⟨q ++ [.key key], .bound e⟩
  | unknownWord {q : Path} {key what word : String} {words : List String} :
    (key, what, words) ∈ vocabulary → v.at? (q ++ [.key key]) = some (.string word) →
      word ∉ words → TrueOf v ⟨q ++ [.key key], .unknownWord what word⟩
  | emptyName {q : Path} {key : String} :
    key ∈ ["field", "match"] → v.at? (q ++ [.key key]) = some (.string "") →
      TrueOf v ⟨q ++ [.key key], .entity (.bound key .empty)⟩
  /-- A realm without servers, which no number other than zero says is remote. -/
  | noServers {q : Path} {o : Members} :
    v.at? q = some (.object o) → o.lookup "aaa_servers" = some (.array []) →
      (∀ n, o.lookup "remote" = some (.number n) → n.isZero = true) →
      TrueOf v ⟨q ++ [.key "aaa_servers"], .entity (.bound "aaa_servers" .empty)⟩
  /-- A community of interest without a governing community, told with its name. -/
  | missingApc {q : Path} {o : Members} {id : String} :
    v.at? q = some (.object o) → o.lookup "type" = some (.string "coi") →
      o.lookup "community_id" = some (.string id) → o.lookup "apcs" = some (.array []) →
      TrueOf v ⟨q ++ [.key "apcs"], .entity (.missingApc (.ofString id))⟩

/-- **One step further.** What is true of a part is true of the whole, with the step to the part in
front of the path. -/
theorem TrueOf.within {v w : Json} {step : Json.Step} {fault : Fault}
    (hw : v.step? step = some w) (h : TrueOf w fault) :
    TrueOf v ⟨step :: fault.path, fault.reason⟩ := by
  have hat : ∀ q, v.at? (step :: q) = w.at? q := by
    intro q
    rw [Json.at?_cons, hw, Option.bind_some]
  cases h with
  | @missingField q _ _ ho hkey => exact .missingField (q := step :: q) ((hat q).trans ho) hkey
  | @notObject q _ hq hne => exact .notObject ((hat q).trans hq) hne
  | @notArray q _ hq hne => exact .notArray ((hat q).trans hq) hne
  | @notString q _ hq hne => exact .notString ((hat q).trans hq) hne
  | @notNumber q _ hq hne => exact .notNumber ((hat q).trans hq) hne
  | @notInteger q _ hq hne => exact .notInteger (q := step :: q) ((hat _).trans hq) hne
  | @notSetting q _ _ _ hkey hq hn => exact .notSetting (q := step :: q) hkey ((hat _).trans hq) hn
  | @bound q _ _ _ _ hkey hq he => exact .bound (q := step :: q) hkey ((hat _).trans hq) he
  | @unknownWord q _ _ _ _ hkey hq hword =>
    exact .unknownWord (q := step :: q) hkey ((hat _).trans hq) hword
  | @emptyName q _ hkey hq => exact .emptyName (q := step :: q) hkey ((hat _).trans hq)
  | @noServers q _ ho hservers hlocal =>
    exact .noServers (q := step :: q) ((hat q).trans ho) hservers hlocal
  | @missingApc q _ _ ho htype hid hapcs =>
    exact .missingApc (q := step :: q) ((hat q).trans ho) htype hid hapcs

/-- Only what is missing is at no value. -/
theorem TrueOf.exists_at? {v : Json} {fault : Fault} (h : fault.TrueOf v) :
    fault.reason = .missingField ∨ ∃ w, v.at? fault.path = some w := by
  cases h with
  | missingField => exact .inl rfl
  | notObject hq => exact .inr ⟨_, hq⟩
  | notArray hq => exact .inr ⟨_, hq⟩
  | notString hq => exact .inr ⟨_, hq⟩
  | notNumber hq => exact .inr ⟨_, hq⟩
  | notInteger hq => exact .inr ⟨_, hq⟩
  | notSetting _ hq => exact .inr ⟨_, hq⟩
  | bound _ hq => exact .inr ⟨_, hq⟩
  | unknownWord _ hq => exact .inr ⟨_, hq⟩
  | emptyName _ hq => exact .inr ⟨_, hq⟩
  | noServers ho hservers =>
    refine .inr ⟨.array [], ?_⟩
    rw [Json.at?_concat, ho]
    exact hservers
  | missingApc ho _ _ hapcs =>
    refine .inr ⟨.array [], ?_⟩
    rw [Json.at?_concat, ho]
    exact hapcs

end Fault

/-! ### Truthful decoders -/

theorem Bounded.describes_of_ofList_eq_error {α : Type} {max : ℕ} {l : List α} {e : BoundError}
    (h : ofList max l = .error e) : e.Describes l.length max := by
  unfold ofList at h
  split at h
  · next hnil =>
    cases h
    exact List.length_eq_zero_iff.2 hnil
  · split at h
    · cases h
    · next hlength =>
      cases h
      exact ⟨rfl, rfl, Nat.lt_of_not_le hlength⟩

namespace Decoded

variable {α β : Type} {o : Json.Members} {key : String} {v w : Json} {max : ℕ}

/-- Every fault that is reported is true of the value. -/
def Truthful (v : Json) (x : Decoded α) : Prop := ∀ fault, x = .error fault → fault.TrueOf v

namespace Truthful

variable {x : Decoded α} {decode : Json → Decoded α}

/-! ### Steps -/

theorem ok (a : α) : Truthful v (.ok a) := by
  rintro fault ⟨⟩

theorem refuse {reason : Reason} (h : Fault.TrueOf v ⟨[], reason⟩) :
    Truthful v (refuse reason : Decoded α) := by
  rintro fault ⟨⟩
  exact h

/-- What comes after a step may rely on the step having succeeded. -/
theorem bind {f : α → Decoded β} (hx : Truthful v x) (hf : ∀ a, x = .ok a → Truthful v (f a)) :
    Truthful v (x >>= f) := by
  intro fault h
  cases x with
  | error =>
    cases h
    exact hx _ rfl
  | ok a => exact hf a rfl fault h

theorem map {f : α → β} (hx : Truthful v x) : Truthful v (f <$> x) := by
  rw [← bind_pure_comp]
  exact hx.bind fun a _ ↦ ok (f a)

theorem within {step : Json.Step} (hw : v.step? step = some w) (hx : Truthful w x) :
    Truthful v (within step x) := by
  intro fault h
  obtain ⟨fault', h', rfl⟩ := Except.mapError_eq_error_iff.1 h
  exact (hx fault' h').within hw

theorem orRefuse {result : Option α} {reason : Reason}
    (h : result = none → Fault.TrueOf v ⟨[], reason⟩) : Truthful v (orRefuse result reason) := by
  cases result with
  | none => exact refuse (h rfl)
  | some a => exact ok a

/-- A view of a part that is reported one step further. -/
theorem within_orRefuse {step : Json.Step} {result : Option α} {reason : Reason}
    (h : result = none → Fault.TrueOf v ⟨[step], reason⟩) :
    Truthful v (Decoded.within step (Decoded.orRefuse result reason)) := by
  cases result with
  | none =>
    rintro fault ⟨⟩
    exact h rfl
  | some a => exact ok a

/-! ### Values -/

theorem object : Truthful v (object v) :=
  orRefuse fun h ↦ .notObject (Json.at?_nil v) fun o ho ↦ by
    rw [ho] at h
    cases h

theorem elements : Truthful v (elements v) :=
  orRefuse fun h ↦ .notArray (Json.at?_nil v) fun items hitems ↦ by
    rw [hitems] at h
    cases h

theorem string : Truthful v (string v) :=
  orRefuse fun h ↦ .notString (Json.at?_nil v) fun s hs ↦ by
    rw [hs] at h
    cases h

theorem number : Truthful v (number v) :=
  orRefuse fun h ↦ .notNumber (Json.at?_nil v) fun n hn ↦ by
    rw [hn] at h
    cases h

theorem name : Truthful v (name v) :=
  string.bind fun _ _ ↦ ok _

/-! ### Arrays -/

theorem element {items : List Json} (h : ∀ v, Truthful v (decode v)) {entry : Json × ℕ}
    (hentry : entry ∈ items.zipIdx) : Truthful (.array items) (element decode entry) :=
  (h entry.1).within (List.mem_zipIdx_iff_getElem?.1 hentry)

theorem each {items : List Json} (h : ∀ v, Truthful v (decode v)) :
    Truthful (.array items) (each decode items) := by
  intro fault hfault
  obtain ⟨entry, hmem, hentry⟩ := Except.exists_of_mapM_eq_error hfault
  exact element h hmem fault hentry

theorem boundedEach {items : Bounded max Json} (h : ∀ v, Truthful v (decode v)) :
    Truthful (.array items.toList) (boundedEach decode items) := by
  intro fault hfault
  obtain ⟨entry, hmem, hentry⟩ :=
    Except.exists_of_mapM_eq_error (Bounded.mapM_eq_error_iff.1 hfault)
  exact element h hmem fault hentry

/-! ### Fields -/

theorem required : Truthful (.object o) (required o key) :=
  within_orRefuse fun h ↦ .missingField (q := []) (Json.at?_nil _) h

/-- A part that stands in a member. -/
theorem member (hw : o.lookup key = some w) (hx : Truthful w x) :
    Truthful (.object o) (Decoded.within (.key key) x) :=
  hx.within hw

end Truthful

/-- Every fault that is reported of the member with that key is true of the object. Where the fault
depends on the key, this is more than that the decoder is truthful. -/
def TruthfulAt (key : String) (decode : Json → Decoded α) : Prop :=
  ∀ (o : Json.Members) (w : Json), o.lookup key = some w →
    Truthful (.object o) (within (.key key) (decode w))

theorem Truthful.at {decode : Json → Decoded α} (h : ∀ v, Truthful v (decode v)) :
    TruthfulAt key decode :=
  fun _ w hw ↦ (h w).member hw

theorem within_bind {step : Json.Step} {x : Decoded α} {f : α → Decoded β} :
    within step (x >>= f) = within step x >>= fun a ↦ within step (f a) := by
  cases x <;> rfl

namespace TruthfulAt

variable {decode : Json → Decoded α}

/-- What comes after a step may rely on what the step has made of the member. -/
theorem bind {f : Json → α → Decoded β} (h : TruthfulAt key decode)
    (hf : ∀ (o : Json.Members) w a, o.lookup key = some w → decode w = .ok a →
      Truthful (.object o) (within (.key key) (f w a))) :
    TruthfulAt key fun v ↦ decode v >>= f v := by
  intro o w hw
  rw [within_bind]
  exact (h o w hw).bind fun a ha ↦ hf o w a hw (within_eq_ok_iff.1 ha)

/-- What is made of the outcome does not matter. -/
theorem map (h : TruthfulAt key decode) (f : α → β) :
    TruthfulAt key fun v ↦ do return f (← decode v) :=
  h.bind fun _ _ _ _ _ ↦ .ok _

theorem field (h : TruthfulAt key decode) : Truthful (.object o) (field o key decode) :=
  Truthful.required.bind fun v hv ↦ h o v (required_eq_ok_iff.1 hv)

theorem optional (h : TruthfulAt key decode) : Truthful (.object o) (optional o key decode) := by
  unfold Decoded.optional
  split
  · exact .ok none
  · next w hw =>
    have hmap : within (.key key) (some <$> decode w) = some <$> within (.key key) (decode w) := by
      cases decode w <;> rfl
    rw [hmap]
    exact (h o w hw).map

theorem fieldD {default : α} (h : TruthfulAt key decode) :
    Truthful (.object o) (fieldD o key decode default) :=
  h.optional.bind fun _ _ ↦ .ok _

end TruthfulAt

theorem Truthful.elementsEach {decode : Json → Decoded α} (h : ∀ v, Truthful v (decode v)) :
    Truthful v (do Decoded.each decode (← Decoded.elements v)) := by
  refine Truthful.elements.bind fun items hitems ↦ ?_
  rw [elements_eq_ok_iff.1 hitems]
  exact .each h

theorem Truthful.list {decode : Json → Decoded α} (h : ∀ v, Truthful v (decode v)) :
    Truthful (.object o) (list o key decode) :=
  (Truthful.at fun _ ↦ .elementsEach h).fieldD

/-! ### Faults that depend on the key -/

/-- The bound that is reported is the one for arrays of that name. -/
theorem truthful_bounded (hkey : (key, max) ∈ Fault.limits) {items : List Json}
    (hitems : o.lookup key = some (.array items)) :
    Truthful (.object o) (within (.key key) (bounded max items)) := by
  intro fault h
  obtain ⟨_, h', rfl⟩ := Except.mapError_eq_error_iff.1 h
  obtain ⟨e, he, rfl⟩ := Except.mapError_eq_error_iff.1 h'
  have hat : (Json.object o).at? [.key key] = some (.array items) := by
    rwa [Json.at?_singleton]
  exact .bound (q := []) hkey hat (Bounded.describes_of_ofList_eq_error he)

theorem truthfulAt_boundedElements (hkey : (key, max) ∈ Fault.limits) :
    TruthfulAt key (boundedElements max) := by
  refine TruthfulAt.bind (Truthful.at fun _ ↦ .elements) fun o w items hw hitems ↦ ?_
  rw [elements_eq_ok_iff.1 hitems] at hw
  exact truthful_bounded hkey hw

/-- A word that is reported as unknown is none of those that are known at that place. -/
theorem truthful_word {what : String} {words : List String} {label : String}
    {ofLabel? : String → Option α} (hkey : (key, what, words) ∈ Fault.vocabulary)
    (hwords : ofLabel? label = none → label ∉ words)
    (hlabel : o.lookup key = some (.string label)) :
    Truthful (.object o) (within (.key key) (word what ofLabel? label)) := by
  have hat : (Json.object o).at? [.key key] = some (.string label) := by
    rwa [Json.at?_singleton]
  exact .within_orRefuse fun h ↦ .unknownWord (q := []) hkey hat (hwords h)

/-- An integer that is reported is out of the range of that setting. -/
theorem truthfulAt_below {bound : ℕ} (hkey : (key, bound) ∈ Fault.settings) :
    TruthfulAt key (below bound) := by
  intro o w hw
  have hat : (Json.object o).at? [.key key] = some w := by
    rwa [Json.at?_singleton]
  refine .within_orRefuse fun h ↦ .notSetting (q := []) hkey hat fun n hn ↦ ?_
  by_contra hlt
  have hrange : 0 ≤ (n : Int) ∧ (n : Int) < bound := by omega
  rw [hn, Option.bind_some, if_pos hrange] at h
  cases h

theorem truthfulAt_uint16 (hkey : (key, UInt16.size) ∈ Fault.settings) : TruthfulAt key uint16 :=
  (truthfulAt_below hkey).map UInt16.ofNat

theorem truthfulAt_uint32 (hkey : (key, UInt32.size) ∈ Fault.settings) : TruthfulAt key uint32 :=
  (truthfulAt_below hkey).map UInt32.ofNat

end Decoded

end TrustRouter
