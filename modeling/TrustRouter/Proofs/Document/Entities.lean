import TrustRouter.Document.Basic
import TrustRouter.Proofs.Document.Acceptance

/-! # Which entities are accepted

For the decoder of each entity, the values that it accepts, with what it makes of them. Bounds do
not appear among the conditions, for a decoded array is bounded by its type and as long as the one
it was decoded from.
-/

namespace TrustRouter

open Decoded

variable {v : Json}

/-! ### Words -/

theorem Action.ofLabel?_eq_some_iff {word : String} {action : Action} :
    ofLabel? word = some action ↔ word = action.label := by
  unfold ofLabel?
  split
  · next h => cases action <;> simp [h, label]
  · next h =>
    split
    · next h' => cases action <;> simp [h', label]
    · next h' => cases action <;> simp [h, h', label]

theorem Action.label_injective : Function.Injective label := fun _ _ h ↦
  Option.some.inj ((ofLabel?_eq_some_iff.2 rfl).symm.trans (ofLabel?_eq_some_iff.2 h))

theorem FilterKind.ofLabel?_eq_some_iff {word : String} {kind : FilterKind} :
    ofLabel? word = some kind ↔ word = kind.label := by
  cases kind
  simp [ofLabel?, label]

/-! ### Constraints -/

theorem Constraint.ofJson_eq_ok_iff {kind : ConstraintKind} {c : Constraint} :
    ofJson kind v = .ok c ↔ c.kind = kind ∧ ∃ items, v = .array items ∧
      List.Forall₂ (fun v n ↦ name v = .ok n) items c.patterns.toList := by
  obtain ⟨kind', patterns⟩ := c
  simp only [ofJson, Except.bind_eq_ok_iff, boundedElements_eq_ok_iff, boundedEach_eq_ok_iff,
    Except.pure_eq_ok_iff, Constraint.mk.injEq]
  constructor
  · rintro ⟨items, rfl, patterns, hpatterns, rfl, rfl⟩
    exact ⟨rfl, items.toList, rfl, hpatterns⟩
  · rintro ⟨rfl, items, rfl, hpatterns⟩
    obtain ⟨items, rfl⟩ := Bounded.exists_toList_eq hpatterns
    exact ⟨items, rfl, patterns, hpatterns, rfl, rfl⟩

/-- There is no constraint exactly when the field is absent or an empty array. -/
theorem Constraint.ofField_eq_ok_iff {o : Json.Members} {kind : ConstraintKind}
    {c : Option Constraint} :
    ofField o kind = .ok c ↔ (o.lookup kind.field = none ∧ c = none) ∨
      ∃ items, o.lookup kind.field = some (.array items) ∧
        if items = [] then c = none
        else ∃ c', c = some c' ∧ ofJson kind (.array items) = .ok c' := by
  simp only [ofField, Except.bind_eq_ok_iff, optional_eq_ok_iff, elements_eq_ok_iff,
    List.isEmpty_iff, Except.pure_eq_ok_iff]
  constructor
  · rintro ⟨_, ⟨hnone, rfl⟩ | ⟨v, c', hsome, ⟨items, rfl, hc⟩, rfl⟩, rfl⟩
    · exact .inl ⟨hnone, rfl⟩
    · refine .inr ⟨items, hsome, ?_⟩
      split at hc
      · next h =>
        rw [if_pos h]
        exact (Except.pure_eq_ok_iff.1 hc).symm
      · next h =>
        obtain ⟨c, hdecode, hpure⟩ := Except.bind_eq_ok_iff.1 hc
        obtain rfl := Except.pure_eq_ok_iff.1 hpure
        rw [if_neg h]
        exact ⟨c, rfl, hdecode⟩
  · rintro (⟨hnone, rfl⟩ | ⟨items, hsome, hc⟩)
    · exact ⟨none, .inl ⟨hnone, rfl⟩, rfl⟩
    · refine ⟨some c, .inr ⟨_, c, hsome, ⟨items, rfl, ?_⟩, rfl⟩, rfl⟩
      split at hc
      · next h => simp [h, hc]
      · next h =>
        obtain ⟨c', rfl, hc'⟩ := hc
        simp [h, hc']

/-! ### Filters -/

theorem FieldTest.ofNames_eq_ok_iff {field pattern : Name} {t : FieldTest} :
    ofNames field pattern = .ok t ↔ field = t.field ∧ pattern = t.pattern := by
  obtain ⟨field', pattern', hfield, hpattern⟩ := t
  unfold ofNames
  split
  · next h =>
    simp only [reduceCtorEq, false_iff, not_and]
    rintro rfl
    exact absurd h hfield
  · split
    · next h =>
      simp only [reduceCtorEq, false_iff, not_and]
      rintro - rfl
      exact absurd h hpattern
    · simp

theorem FieldTest.ofJson_eq_ok_iff {t : FieldTest} :
    ofJson v = .ok t ↔ ∃ (o : Json.Members) (field pattern : String), v = .object o ∧
      o.lookup "field" = some (.string field) ∧ .ofString field = t.field ∧
      o.lookup "match" = some (.string pattern) ∧ .ofString pattern = t.pattern := by
  simp only [ofJson, Except.bind_eq_ok_iff, object_eq_ok_iff, field_eq_ok_iff, name_eq_ok_iff,
    Except.mapError_eq_ok_iff, ofNames_eq_ok_iff]
  constructor
  · rintro ⟨o, rfl, _, ⟨_, hfield, field, rfl, rfl⟩, _, ⟨_, hpattern, pattern, rfl, rfl⟩, hf, hp⟩
    exact ⟨o, field, pattern, rfl, hfield, hf, hpattern, hp⟩
  · rintro ⟨o, field, pattern, rfl, hfield, hf, hpattern, hp⟩
    exact ⟨o, rfl, _, ⟨_, hfield, field, rfl, rfl⟩, _, ⟨_, hpattern, pattern, rfl, rfl⟩, hf, hp⟩

theorem FilterLine.ofJson_eq_ok_iff {l : FilterLine} :
    ofJson v = .ok l ↔ ∃ (o : Json.Members) (tests : List Json), v = .object o ∧
      o.lookup "action" = some (.string l.action.label) ∧
      o.lookup "filter_specs" = some (.array tests) ∧
      List.Forall₂ (fun v t ↦ FieldTest.ofJson v = .ok t) tests l.tests.toList ∧
      Constraint.ofField o .realm = .ok l.realms ∧
      Constraint.ofField o .domain = .ok l.domains := by
  obtain ⟨action, tests, realms, domains⟩ := l
  simp only [ofJson, Except.bind_eq_ok_iff, object_eq_ok_iff, field_eq_ok_iff, string_eq_ok_iff,
    within_eq_ok_iff, word_eq_ok_iff, Action.ofLabel?_eq_some_iff, boundedElements_eq_ok_iff,
    boundedEach_eq_ok_iff, Except.pure_eq_ok_iff, FilterLine.mk.injEq]
  constructor
  · rintro ⟨o, rfl, _, ⟨_, hlabel, rfl⟩, _, rfl, items, ⟨_, hitems, rfl⟩, _, hrealms, _, hdomains,
      _, htests, rfl, rfl, rfl, rfl⟩
    exact ⟨o, items.toList, rfl, hlabel, hitems, htests, hrealms, hdomains⟩
  · rintro ⟨o, items, rfl, hlabel, hitems, htests, hrealms, hdomains⟩
    obtain ⟨items, rfl⟩ := Bounded.exists_toList_eq htests
    exact ⟨o, rfl, _, ⟨_, hlabel, rfl⟩, action, rfl, items, ⟨_, hitems, rfl⟩, realms, hrealms,
      domains, hdomains, tests, htests, rfl, rfl, rfl, rfl⟩

theorem Filter.ofJson_eq_ok_iff {f : Filter} :
    ofJson v = .ok f ↔ ∃ (o : Json.Members) (lines : List Json), v = .object o ∧
      o.lookup "type" = some (.string f.kind.label) ∧
      o.lookup "filter_lines" = some (.array lines) ∧
      List.Forall₂ (fun v l ↦ FilterLine.ofJson v = .ok l) lines f.lines.toList := by
  obtain ⟨kind, lines⟩ := f
  simp only [ofJson, Except.bind_eq_ok_iff, object_eq_ok_iff, field_eq_ok_iff, string_eq_ok_iff,
    within_eq_ok_iff, word_eq_ok_iff, FilterKind.ofLabel?_eq_some_iff, boundedElements_eq_ok_iff,
    boundedEach_eq_ok_iff, Except.pure_eq_ok_iff, Filter.mk.injEq]
  constructor
  · rintro ⟨o, rfl, _, ⟨_, hlabel, rfl⟩, items, ⟨_, hitems, rfl⟩, _, rfl, _, hlines, -, rfl⟩
    exact ⟨o, items.toList, rfl, hlabel, hitems, hlines⟩
  · rintro ⟨o, items, rfl, hlabel, hitems, hlines⟩
    obtain ⟨items, rfl⟩ := Bounded.exists_toList_eq hlines
    exact ⟨o, rfl, _, ⟨_, hlabel, rfl⟩, items, ⟨_, hitems, rfl⟩, kind, rfl, lines, hlines, trivial,
      rfl⟩

/-! ### Clients -/

theorem RpClient.ofJson_eq_ok_iff {c : RpClient} :
    ofJson v = .ok c ↔ ∃ (o : Json.Members) (names : List Json) (filter : Json), v = .object o ∧
      o.lookup "gss_names" = some (.array names) ∧
      List.Forall₂ (fun v n ↦ name v = .ok n) names c.names.toList ∧
      o.lookup "filter" = some filter ∧ Filter.ofJson filter = .ok c.filter := by
  obtain ⟨names, filter⟩ := c
  simp only [ofJson, Except.bind_eq_ok_iff, object_eq_ok_iff, field_eq_ok_iff, elements_eq_ok_iff,
    required_eq_ok_iff, within_eq_ok_iff, bounded_eq_ok_iff, boundedEach_eq_ok_iff,
    Except.pure_eq_ok_iff, RpClient.mk.injEq]
  constructor
  · rintro ⟨o, rfl, _, ⟨_, hitems, rfl⟩, value, hvalue, items, rfl, _, hfilter, _, hnames, rfl, rfl⟩
    exact ⟨o, items.toList, value, rfl, hitems, hnames, hvalue, hfilter⟩
  · rintro ⟨o, items, value, rfl, hitems, hnames, hvalue, hfilter⟩
    obtain ⟨items, rfl⟩ := Bounded.exists_toList_eq hnames
    exact ⟨o, rfl, _, ⟨_, hitems, rfl⟩, value, hvalue, items, rfl, filter, hfilter, names, hnames,
      rfl, rfl⟩

/-! ### Servers and governing communities -/

theorem AaaServer.ofJson_eq_ok_iff {s : AaaServer} :
    ofJson v = .ok s ↔ name v = .ok s.hostname := by
  obtain ⟨hostname⟩ := s
  simp [ofJson]

theorem AaaServer.listOfJson_eq_ok_iff {l : List AaaServer} :
    listOfJson v = .ok l ↔ ∃ items, v = .array items ∧
      List.Forall₂ (fun v s ↦ ofJson v = .ok s) items l := by
  simp [listOfJson]

/-- Of the elements only the first counts. -/
theorem Apc.ofElements_eq_ok_iff {items : List Json} {apc : Option Apc} :
    ofElements items = .ok apc ↔
      Option.Rel (fun v (a : Apc) ↦ name v = .ok a.id) items.head? apc := by
  cases items with
  | nil =>
    rw [ofElements, Except.ok.injEq, List.head?_nil]
    constructor
    · rintro rfl
      exact .none
    · rintro ⟨⟩
      rfl
  | cons first rest =>
    simp only [ofElements, within_eq_ok_iff, Except.bind_eq_ok_iff, Except.pure_eq_ok_iff,
      List.head?_cons]
    constructor
    · rintro ⟨id, hid, rfl⟩
      exact .some hid
    · rintro (hid | -)
      exact ⟨_, hid, rfl⟩

theorem Apc.ofJson_eq_ok_iff {apc : Option Apc} :
    ofJson v = .ok apc ↔ ∃ items, v = .array items ∧
      Option.Rel (fun v (a : Apc) ↦ name v = .ok a.id) items.head? apc := by
  simp only [ofJson, Except.bind_eq_ok_iff, elements_eq_ok_iff, ofElements_eq_ok_iff]

/-! ### Realms -/

theorem Origin.ofServers_eq_ok_iff {shared : Bool} {servers : List AaaServer} {origin : Origin} :
    ofServers shared servers = .ok origin ↔
      ∃ ne_nil : servers ≠ [], origin = .configured shared servers ne_nil := by
  unfold ofServers
  split
  · next h => simp [h]
  · next h => simp [h, eq_comm]

/-- A remote realm is accepted whatever its servers are. -/
theorem IdpRealm.ofJson_eq_ok_iff {r : IdpRealm} :
    ofJson v = .ok r ↔ ∃ (o : Json.Members) (remote : Bool), v = .object o ∧
      fieldD o "remote" (fun v ↦ return !(← number v).isZero) false = .ok remote ∧
      field o "realm_id" name = .ok r.id ∧
      fieldD o "apcs" Apc.ofJson none = .ok r.apc ∧
      if remote then r.origin = .remote
      else ∃ shared servers ne_nil, field o "shared_config" string = .ok shared ∧
        field o "aaa_servers" AaaServer.listOfJson = .ok servers ∧
        r.origin = .configured (shared != "no") servers ne_nil := by
  obtain ⟨id, apc, origin⟩ := r
  rw [ofJson, Except.bind_eq_ok_iff]
  simp only [object_eq_ok_iff]
  refine exists_congr fun o ↦ ?_
  rw [exists_and_left, and_congr_right_iff, Except.bind_eq_ok_iff]
  rintro rfl
  refine exists_congr fun remote ↦ and_congr_right fun _ ↦ ?_
  cases remote with
  | true =>
    simp only [if_true, Except.bind_eq_ok_iff, Except.pure_eq_ok_iff, IdpRealm.mk.injEq]
    constructor
    · rintro ⟨_, hid, _, hapc, rfl, rfl, rfl⟩
      exact ⟨hid, hapc, rfl⟩
    · rintro ⟨hid, hapc, rfl⟩
      exact ⟨_, hid, _, hapc, rfl, rfl, rfl⟩
  | false =>
    simp only [Bool.false_eq_true, if_false, Except.bind_eq_ok_iff, Except.pure_eq_ok_iff,
      Except.mapError_eq_ok_iff, Origin.ofServers_eq_ok_iff, IdpRealm.mk.injEq]
    constructor
    · rintro ⟨_, hid, _, hapc, shared, hshared, servers, hservers, _, ⟨ne_nil, rfl⟩, rfl, rfl, rfl⟩
      exact ⟨hid, hapc, shared, servers, ne_nil, hshared, hservers, rfl⟩
    · rintro ⟨hid, hapc, shared, servers, ne_nil, hshared, hservers, rfl⟩
      exact ⟨_, hid, _, hapc, shared, hshared, servers, hservers, _, ⟨ne_nil, rfl⟩, rfl, rfl, rfl⟩

/-! ### Communities -/

namespace Community

/-- Bringing a number of minutes into range leaves it a word of 32 bits. -/
theorem toNat_clampExpiration (minutes : Int) :
    ((clampExpiration minutes).toNat : Int) = max 11 (min 129600 minutes) := by
  have hclamped : (if minutes < leastExpiration.toNat then (leastExpiration.toNat : Int)
      else if greatestExpiration.toNat < minutes then greatestExpiration.toNat else minutes) =
        max 11 (min 129600 minutes) := by
    show (if minutes < 11 then (11 : Int) else if 129600 < minutes then 129600 else minutes) = _
    omega
  have hword : 0 ≤ max 11 (min 129600 minutes) ∧ max 11 (min 129600 minutes) < UInt32.size := by
    show _ ∧ _ < (4294967296 : Int)
    omega
  rw [clampExpiration, hclamped, narrow?, if_pos hword, Option.getD_some,
    UInt32.toNat_ofNat_of_lt' (by omega), Int.toNat_of_nonneg hword.1]

/-- What is beyond the range of signed words is beyond the accepted range. -/
theorem clampExpiration_of_le {minutes : Int} (h : 129600 ≤ minutes) :
    clampExpiration minutes = greatestExpiration := by
  have hmax : max 11 (min 129600 minutes) = (greatestExpiration.toNat : Int) := by
    show _ = (129600 : Int)
    omega
  have htoNat := (toNat_clampExpiration minutes).trans hmax
  exact UInt32.toNat_inj.1 (Int.ofNat_inj.1 htoNat)

/-- **One function on all integers.** Whether an integer is taken as a signed or as an unsigned word
makes no difference. -/
theorem expirationOfJson_eq :
    expirationOfJson = fun v ↦ do return clampExpiration (← orRefuse v.integer? .notInteger) := by
  funext v
  rw [expirationOfJson, Json.int64?, Json.isUInt64, Json.integer?]
  rcases v.number? with - | ⟨n, hleast, hbound⟩ | d
  · rfl
  · unfold Json.Number.least at hleast
    by_cases hsigned : n < 0x8000000000000000
    · have hword : (Int64.ofInt n).toInt = n := Int64.toInt_ofInt_of_le hleast (by omega)
      rw [Option.bind_some, Json.Number.int64?, if_pos hsigned]
      show Except.ok (clampExpiration (Int64.ofInt n).toInt) = .ok (clampExpiration n)
      rw [hword]
    · have hunsigned : decide (0 ≤ n) = true := decide_eq_true (by omega)
      rw [Option.bind_some, Json.Number.int64?, if_neg hsigned, Option.any_some,
        Json.Number.isUInt64, hunsigned]
      show Except.ok greatestExpiration = .ok (clampExpiration n)
      rw [clampExpiration_of_le (by omega)]
  · rfl

theorem expirationOfJson_eq_ok_iff {minutes : UInt32} :
    expirationOfJson v = .ok minutes ↔ ∃ n, v.integer? = some n ∧ clampExpiration n = minutes := by
  simp [expirationOfJson_eq]

/-- What the kind of a community takes from its fields: a governing community its interval, a
community of interest the first of its governing communities. -/
def Kind.TakenFrom (o : Json.Members) (apcs : List Json) : Kind → Prop
  | .apc minutes => fieldD o "expiration_interval" expirationOfJson defaultExpiration = .ok minutes
  | .coi governing => ∃ first, apcs.head? = some first ∧ name first = .ok governing.id

/-- The kind of a community, decoded by itself. -/
def Kind.ofFields (o : Json.Members) (id : Name) (label : String) (apcs : List Json) :
    Decoded Kind :=
  if label = "apc" then
    .apc <$> fieldD o "expiration_interval" expirationOfJson defaultExpiration
  else if label = "coi" then
    within (.key "apcs") do
      let some governing ← Apc.ofElements apcs | refuse (.entity (.missingApc id))
      return .coi governing
  else
    within (.key "type") (refuse (.unknownWord "community type" label))

/-- Decoding a community with the kind as one step among the others. -/
theorem Declaration.ofJson_eq_bind_ofFields :
    ofJson v = (do
      let o ← object v
      let id ← field o "community_id" name
      let label ← field o "type" string
      let apcs ← field o "apcs" elements
      let idps ← field o "idp_realms" elements
      let rps ← field o "rp_realms" elements
      let kind ← Kind.ofFields o id label apcs
      let idps ← within (.key "idp_realms") (each name idps)
      let rps ← within (.key "rp_realms") (each name rps)
      return ⟨id, kind, idps, rps⟩) := by
  refine bind_congr fun o ↦ bind_congr fun id ↦ bind_congr fun label ↦ bind_congr fun apcs ↦
    bind_congr fun idps ↦ bind_congr fun rps ↦ ?_
  unfold Kind.ofFields
  split
  · rfl
  · split <;> rfl

theorem Kind.ofFields_eq_ok_iff {o : Json.Members} {id : Name} {label : String} {apcs : List Json}
    {kind : Kind} : ofFields o id label apcs = .ok kind ↔
      label = kind.label ∧ kind.TakenFrom o apcs := by
  unfold ofFields
  split
  · next h =>
    subst h
    rw [Except.map_eq_ok_iff]
    cases kind <;> simp [Kind.label, TakenFrom]
  · next hapc =>
    split
    · next h =>
      subst h
      rw [within_eq_ok_iff, Except.bind_eq_ok_iff]
      cases apcs with
      | nil => cases kind <;> simp [Apc.ofElements, Kind.label, TakenFrom, refuse]
      | cons first rest =>
        obtain minutes | ⟨⟨governing⟩⟩ := kind <;> simp [Apc.ofElements, Kind.label, TakenFrom]
    · next hcoi =>
      cases kind <;> simp [Kind.label, refuse, hapc, hcoi]

theorem Declaration.ofJson_eq_ok_iff {d : Declaration} :
    ofJson v = .ok d ↔ ∃ (o : Json.Members) (apcs idps rps : List Json), v = .object o ∧
      field o "community_id" name = .ok d.id ∧
      o.lookup "type" = some (.string d.kind.label) ∧
      o.lookup "apcs" = some (.array apcs) ∧
      o.lookup "idp_realms" = some (.array idps) ∧
      o.lookup "rp_realms" = some (.array rps) ∧
      d.kind.TakenFrom o apcs ∧
      List.Forall₂ (fun v n ↦ name v = .ok n) idps d.idps ∧
      List.Forall₂ (fun v n ↦ name v = .ok n) rps d.rps := by
  obtain ⟨id, kind, idps, rps⟩ := d
  rw [ofJson_eq_bind_ofFields]
  simp only [Except.bind_eq_ok_iff, object_eq_ok_iff, @field_eq_ok_iff _ _ _ string,
    @field_eq_ok_iff _ _ _ elements, string_eq_ok_iff, elements_eq_ok_iff, within_eq_ok_iff,
    each_eq_ok_iff, Kind.ofFields_eq_ok_iff, Except.pure_eq_ok_iff, Declaration.mk.injEq]
  constructor
  · rintro ⟨o, rfl, _, hid, _, ⟨_, hlabel, rfl⟩, apcs, ⟨_, hapcs, rfl⟩, idpItems,
      ⟨_, hidpItems, rfl⟩, rpItems, ⟨_, hrpItems, rfl⟩, _, ⟨rfl, hkind⟩, _, hidps, _, hrps, rfl,
      rfl, rfl, rfl⟩
    exact ⟨o, apcs, idpItems, rpItems, rfl, hid, hlabel, hapcs, hidpItems, hrpItems, hkind, hidps,
      hrps⟩
  · rintro ⟨o, apcs, idpItems, rpItems, rfl, hid, hlabel, hapcs, hidpItems, hrpItems, hkind, hidps,
      hrps⟩
    exact ⟨o, rfl, _, hid, _, ⟨_, hlabel, rfl⟩, apcs, ⟨_, hapcs, rfl⟩, idpItems,
      ⟨_, hidpItems, rfl⟩, rpItems, ⟨_, hrpItems, rfl⟩, kind, ⟨rfl, hkind⟩, _, hidps, _, hrps, rfl,
      rfl, rfl, rfl⟩

end Community

/-! ### Settings -/

theorem Decoded.below_eq_ok_iff {bound n : ℕ} :
    below bound v = .ok n ↔ v.integer? = some (n : Int) ∧ n < bound := by
  simp only [below, orRefuse_eq_ok_iff, Option.bind_eq_some_iff]
  constructor
  · rintro ⟨i, hi, hn⟩
    split at hn
    · next hrange =>
      obtain rfl := Option.some.inj hn
      rw [Int.toNat_of_nonneg hrange.1]
      exact ⟨hi, by omega⟩
    · cases hn
  · rintro ⟨hi, hn⟩
    exact ⟨n, hi, by rw [if_pos (by omega), Int.toNat_natCast]⟩

/-- A word of sixteen bits is decoded from the integer that it stands for. -/
theorem Decoded.uint16_eq_ok_iff {x : UInt16} :
    uint16 v = .ok x ↔ v.integer? = some (x.toNat : Int) := by
  simp only [uint16, Except.bind_eq_ok_iff, below_eq_ok_iff, Except.pure_eq_ok_iff]
  constructor
  · rintro ⟨n, ⟨hi, hn⟩, rfl⟩
    rwa [UInt16.toNat_ofNat_of_lt' hn]
  · intro hi
    exact ⟨x.toNat, ⟨hi, x.toNat_lt⟩, UInt16.ofNat_toNat⟩

/-- A word of thirty-two bits is decoded from the integer that it stands for. -/
theorem Decoded.uint32_eq_ok_iff {x : UInt32} :
    uint32 v = .ok x ↔ v.integer? = some (x.toNat : Int) := by
  simp only [uint32, Except.bind_eq_ok_iff, below_eq_ok_iff, Except.pure_eq_ok_iff]
  constructor
  · rintro ⟨n, ⟨hi, hn⟩, rfl⟩
    rwa [UInt32.toNat_ofNat_of_lt' hn]
  · intro hi
    exact ⟨x.toNat, ⟨hi, x.toNat_lt⟩, UInt32.ofNat_toNat⟩

theorem Severity.ofJson_eq_ok_iff {s : Severity} :
    ofJson v = .ok s ↔ ∃ word, v = .string word ∧ ofLabel word = s := by
  simp [ofJson]

theorem Decoded.logging_eq_ok_iff {defaults : Settings} {thresholds : Severity × Severity} :
    logging defaults v = .ok thresholds ↔ ∃ o : Json.Members, v = .object o ∧
      fieldD o "log_threshold" Severity.ofJson defaults.logThreshold = .ok thresholds.1 ∧
      fieldD o "console_threshold" Severity.ofJson defaults.consoleThreshold =
        .ok thresholds.2 := by
  obtain ⟨log, console⟩ := thresholds
  simp only [logging, Except.bind_eq_ok_iff, object_eq_ok_iff, Except.pure_eq_ok_iff, Prod.mk.injEq]
  constructor
  · rintro ⟨o, rfl, _, hlog, _, hconsole, rfl, rfl⟩
    exact ⟨o, rfl, hlog, hconsole⟩
  · rintro ⟨o, rfl, hlog, hconsole⟩
    exact ⟨o, rfl, _, hlog, _, hconsole, rfl, rfl⟩

theorem Settings.ofJson_eq_ok_iff {s : Settings} :
    ofJson v = .ok s ↔ ∃ o : Json.Members, v = .object o ∧
      optional o "hostname" name = .ok s.hostname ∧
      fieldD o "logging" (logging {}) (.notice, .notice) =
        .ok (s.logThreshold, s.consoleThreshold) ∧
      fieldD o "max_tree_depth" uint32 12 = .ok s.maxTreeDepth ∧
      fieldD o "tids_port" uint16 12309 = .ok s.tidsPort ∧
      fieldD o "trps_port" uint16 12308 = .ok s.trpsPort ∧
      fieldD o "cfg_poll_interval" uint32 1 = .ok s.cfgPollInterval ∧
      fieldD o "cfg_settling_time" uint32 5 = .ok s.cfgSettlingTime ∧
      fieldD o "trp_connect_interval" uint32 10 = .ok s.trpConnectInterval ∧
      fieldD o "trp_sweep_interval" uint32 30 = .ok s.trpSweepInterval ∧
      fieldD o "trp_update_interval" uint32 30 = .ok s.trpUpdateInterval := by
  obtain ⟨hostname, depth, tids, trps, poll, settling, connect, sweep, update, log, console⟩ := s
  simp only [ofJson, Except.bind_eq_ok_iff, object_eq_ok_iff, Except.pure_eq_ok_iff,
    Settings.mk.injEq]
  constructor
  · rintro ⟨o, rfl, _, hhostname, ⟨_, _⟩, hlogging, _, hdepth, _, htids, _, htrps, _, hpoll, _,
      hsettling, _, hconnect, _, hsweep, _, hupdate, rfl, rfl, rfl, rfl, rfl, rfl, rfl, rfl, rfl,
      rfl, rfl⟩
    exact ⟨o, rfl, hhostname, hlogging, hdepth, htids, htrps, hpoll, hsettling, hconnect, hsweep,
      hupdate⟩
  · rintro ⟨o, rfl, hhostname, hlogging, hdepth, htids, htrps, hpoll, hsettling, hconnect, hsweep,
      hupdate⟩
    exact ⟨o, rfl, _, hhostname, _, hlogging, _, hdepth, _, htids, _, htrps, _, hpoll, _, hsettling,
      _, hconnect, _, hsweep, _, hupdate, rfl, rfl, rfl, rfl, rfl, rfl, rfl, rfl, rfl, rfl, rfl⟩

/-! ### Fragments -/

theorem Fragment.ofJson_eq_ok_iff {f : Fragment} :
    ofJson v = .ok f ↔ ∃ o : Json.Members, v = .object o ∧
      f.serialNumber = (o.lookup "serial_number").bind Json.number? ∧
      optional o "tr_internal" Settings.ofJson = .ok f.settings ∧
      list o "rp_clients" RpClient.ofJson = .ok f.clients ∧
      list o "idp_realms" IdpRealm.ofJson = .ok f.realms ∧
      list o "default_servers" AaaServer.ofJson = .ok f.servers ∧
      list o "communities" Community.Declaration.ofJson = .ok f.communities := by
  obtain ⟨serialNumber, settings, clients, realms, servers, communities⟩ := f
  simp only [ofJson, Except.bind_eq_ok_iff, object_eq_ok_iff, Except.pure_eq_ok_iff,
    Fragment.mk.injEq]
  constructor
  · rintro ⟨o, rfl, _, hsettings, _, hclients, _, hrealms, _, hservers, _, hcommunities, rfl, rfl,
      rfl, rfl, rfl, rfl⟩
    exact ⟨o, rfl, rfl, hsettings, hclients, hrealms, hservers, hcommunities⟩
  · rintro ⟨o, rfl, rfl, hsettings, hclients, hrealms, hservers, hcommunities⟩
    exact ⟨o, rfl, _, hsettings, _, hclients, _, hrealms, _, hservers, _, hcommunities, rfl, rfl,
      rfl, rfl, rfl, rfl⟩

theorem Document.fragment_eq_ok_iff [Json.Diagnosis] {doc : Document} {f : Fragment} :
    doc.fragment = .ok f ↔ doc.text.utf8ByteSize ≤ maxBytes ∧
      ∃ v, Json.ofText? doc.text = some v ∧ Fragment.ofJson v = .ok f := by
  unfold fragment
  split
  · next h => simp [Nat.not_le_of_lt h]
  · next h => cases Json.ofText? doc.text <;> simp [Nat.le_of_not_lt h]

end TrustRouter
