import TrustRouter.Proofs.Configuration.Sections
import TrustRouter.Proofs.Json.Integers

/-!
# Expiration intervals

The interval that a governing community declares is one function of the integer it gives, over all
integers there are: the integer itself, or the end of the accepted range that is nearer to it
(`Community.expiration_over_all_integers`).

* With everything else in a governing community in order, its interval alone decides
  (`Community.Declaration.ofJson_eq_map_fieldD`).
* What becomes of an integer follows from `Community.toNat_clampExpiration` alone: that it makes no
  smaller interval than a smaller integer, and that an interval given back is kept.
* Neither merging nor resolving nor summarizing looks at an interval, so every community that is
  loaded and every line of the summary has that of its entry (`Document.communities_of_load`).
-/

namespace TrustRouter

open Decoded

/-! ### The range -/

namespace Community

/-- A greater integer makes no smaller interval. -/
theorem clampExpiration_mono {n n' : Int} (h : n ≤ n') :
    clampExpiration n ≤ clampExpiration n' := by
  have hn := toNat_clampExpiration n
  have hn' := toNat_clampExpiration n'
  rw [UInt32.le_iff_toNat_le]
  omega

/-- What is in range is left as it is. -/
theorem clampExpiration_toNat (n : Int) :
    clampExpiration (clampExpiration n).toNat = clampExpiration n := by
  have hn := toNat_clampExpiration n
  have hagain := toNat_clampExpiration (clampExpiration n).toNat
  exact UInt32.toNat_inj.1 (by omega)

end Community

/-! ### One community -/

/-- Two objects that have the same members, those of one key aside. -/
def Json.Members.SameBut (key : String) (o o' : Members) : Prop :=
  ∀ key' ≠ key, o.lookup key' = o'.lookup key'

/-- A member that is put behind all others counts. -/
theorem Json.Members.lookup_concat (o : Members) (key : String) (x : Json) :
    lookup (o ++ [(key, x)]) key = some x := by
  rw [lookup, List.reverse_concat, List.lookup_cons_self]

theorem Json.Members.sameBut_concat (o : Members) (key : String) (x : Json) :
    SameBut key (o ++ [(key, x)]) o := by
  intro key' hne
  rw [lookup, List.reverse_concat, List.lookup_cons, beq_eq_false_iff_ne.2 hne, lookup]

namespace Community

/-- **With everything else in order, the interval decides** whether a governing community is
accepted, and it changes nothing but the interval. -/
theorem Declaration.ofJson_eq_map_fieldD {o o' : Json.Members} {d : Declaration}
    (hsame : o.SameBut "expiration_interval" o') (h : ofJson (.object o') = .ok d)
    (hlabel : d.kind.label = "apc") :
    ofJson (.object o) = (fun minutes ↦ { d with kind := .apc minutes }) <$>
      fieldD o "expiration_interval" expirationOfJson defaultExpiration := by
  obtain ⟨_, apcs, idps, rps, ⟨⟩, hid, htype, hapcs, hidps, hrps, -, hidpNames, hrpNames⟩ :=
    ofJson_eq_ok_iff.1 h
  obtain ⟨v, hlookup, hname⟩ := field_eq_ok_iff.1 hid
  rw [hlabel] at htype
  rw [← hsame _ (by decide)] at hlookup htype hapcs hidps hrps
  have hid : field o "community_id" name = .ok d.id := field_eq_ok_iff.2 ⟨v, hlookup, hname⟩
  have htype : field o "type" string = .ok "apc" :=
    field_eq_ok_iff.2 ⟨_, htype, string_eq_ok_iff.2 rfl⟩
  have helements : ∀ {key items}, o.lookup key = some (.array items) →
      field o key elements = .ok items :=
    fun hitems ↦ field_eq_ok_iff.2 ⟨_, hitems, elements_eq_ok_iff.2 rfl⟩
  have hidpNames : each name idps = .ok d.idps := each_eq_ok_iff.2 hidpNames
  have hrpNames : each name rps = .ok d.rps := each_eq_ok_iff.2 hrpNames
  rw [ofJson_eq_bind_ofFields]
  simp only [object_eq_ok_iff.2 rfl, hid, htype, helements hapcs, helements hidps, helements hrps,
    hidpNames, hrpNames, within_ok, Kind.ofFields, if_true, bind, Except.bind]
  cases fieldD o "expiration_interval" expirationOfJson defaultExpiration <;> rfl

/-- The interval of a governing community: thirty days if it gives none, and otherwise the integer
it gives, brought into range. -/
theorem fieldD_expirationOfJson (o : Json.Members) :
    fieldD o "expiration_interval" expirationOfJson defaultExpiration =
      (o.lookup "expiration_interval").elim (.ok 43200) fun x ↦
        x.integer?.elim (.error ⟨[.key "expiration_interval"], .notInteger⟩) fun n ↦
          .ok (clampExpiration n) := by
  rw [fieldD, Decoded.optional, expirationOfJson_eq]
  cases o.lookup "expiration_interval" with
  | none => rfl
  | some x =>
    simp only [Option.elim_some]
    cases x.integer? <;> rfl

/-- What an accepted community has for an interval is in range. -/
theorem clampExpiration_of_fieldD {o : Json.Members} {minutes : UInt32}
    (h : fieldD o "expiration_interval" expirationOfJson defaultExpiration = .ok minutes) :
    clampExpiration minutes.toNat = minutes := by
  rcases fieldD_eq_ok_iff.1 h with ⟨-, rfl⟩ | ⟨x, -, hx⟩
  · decide
  · obtain ⟨n, -, rfl⟩ := expirationOfJson_eq_ok_iff.1 hx
    exact clampExpiration_toNat n

end Community

/-! ### Entries -/

/-- The entries of communities in a document, in the order written. -/
def Document.communityEntries (doc : Document) : List Json :=
  (Json.ofText? doc.text).elim [] (·.listAt "communities")

namespace Community

/-- The interval, in minutes, that the entry of a community stands for. Only governing communities
have one. -/
def intervalOf? (entry : Json) : Option Int :=
  if entry.stringAt? "type" = some "apc" then
    (entry.member? "expiration_interval").elim (some 43200) fun x ↦
      x.integer?.map fun n ↦ max 11 (min 129600 n)
  else none

/-- What is called `id` and has the interval of `kind` is what an entry stands for. -/
def Kind.GivenBy (kind : Kind) (id : Name) (entry : Json) : Prop :=
  entry.nameAt? "community_id" = some id ∧
    intervalOf? entry = kind.expiration?.map fun minutes ↦ (minutes.toNat : Int)

/-- A declaration has the name and the interval of its entry. -/
theorem Declaration.givenBy_of_ofJson {entry : Json} {d : Declaration}
    (h : ofJson entry = .ok d) : d.kind.GivenBy d.id entry := by
  obtain ⟨o, _, _, _, rfl, hid, htype, -, -, -, hkind, -, -⟩ := ofJson_eq_ok_iff.1 h
  constructor
  · obtain ⟨v, hlookup, hname⟩ := field_eq_ok_iff.1 hid
    exact Json.nameAt?_of_optional (optional_eq_ok_iff.2 (.inr ⟨v, _, hlookup, hname, rfl⟩))
  · rw [intervalOf?, Json.stringAt?_of_lookup htype]
    cases hd : d.kind with
    | apc minutes =>
      rw [hd] at hkind
      rw [Kind.label, if_pos rfl, Json.member?_object]
      rcases fieldD_eq_ok_iff.1 hkind with ⟨hnone, rfl⟩ | ⟨x, hx, hinterval⟩
      · rw [hnone]
        rfl
      · obtain ⟨n, hn, rfl⟩ := expirationOfJson_eq_ok_iff.1 hinterval
        rw [hx, Option.elim_some, hn]
        exact congrArg some (toNat_clampExpiration n).symm
    | coi apc => rfl

end Community

namespace Document

theorem communities_of_fragment [Json.Diagnosis] {doc : Document} {f : Fragment}
    (h : doc.fragment = .ok f) :
    List.Forall₂ (fun v d ↦ Community.Declaration.ofJson v = .ok d) doc.communityEntries
      f.communities := by
  obtain ⟨-, v, htext, hv⟩ := fragment_eq_ok_iff.1 h
  obtain ⟨o, rfl, -, -, -, -, -, hcommunities⟩ := Fragment.ofJson_eq_ok_iff.1 hv
  rw [communityEntries, htext, Option.elim_some]
  exact Json.forall₂_listAt hcommunities

/-- The communities of a configuration are the entries of its documents, decoded and resolved one
for one; the configuration lists them the other way round. -/
theorem communities_of_load [Json.Diagnosis] {docs : List Document} {c : Configuration}
    (h : (Configuration.load docs).result = .ok c) :
    List.Forall₂ (fun entry community ↦ ∃ d, Community.Declaration.ofJson entry = .ok d ∧
        d.resolve c.realms = .ok community)
      (docs.flatMap communityEntries).reverse c.communities := by
  obtain ⟨-, fragments, hfragments, hbuild⟩ := Draft.load_eq_ok_iff.1 h
  rw [Draft.foldl_merge_eq_extend] at hbuild
  have hdecoded := List.forall₂_reverse_iff.2
    (List.rel_flatMap hfragments fun _ _ hf ↦ communities_of_fragment hf)
  exact hdecoded.flip.join (Draft.communities_of_build hbuild)

end Document

namespace Community

/-- **An interval is one function of the integer given, over all integers.** Let an object be that
of a governing community in which everything but the interval is in order. Without an interval it
stands for the community with thirty days. With one that is an integer, it stands for the community
with that integer, or with the end of the range from 11 to 129600 that is nearer to it. With one
that is anything else, it is refused, at that field.

A text is read as an integer exactly when it is an integer of 64 bits, signed or unsigned, in
decimal and between blanks. So a greater integer makes no smaller interval, an interval given back
is kept, and what is loaded and what is shown of it has the intervals of the entries. -/
theorem expiration_over_all_integers [Json.Diagnosis] :
    (∀ (o o' : Json.Members) (d : Declaration), o.SameBut "expiration_interval" o' →
      Declaration.ofJson (.object o') = .ok d → d.kind.label = "apc" →
      (o.lookup "expiration_interval" = none →
        Declaration.ofJson (.object o) = .ok { d with kind := .apc 43200 }) ∧
      ∀ x, o.lookup "expiration_interval" = some x →
        (∀ n, x.integer? = some n → ∃ minutes,
          Declaration.ofJson (.object o) = .ok { d with kind := .apc minutes } ∧
          (minutes.toNat : Int) = max 11 (min 129600 n)) ∧
        (x.integer? = none → ∃ fault, Declaration.ofJson (.object o) = .error fault ∧
          fault = ⟨[.key "expiration_interval"], .notInteger⟩ ∧
          ∀ document, (LoadError.ofFault document fault).kind = "no_parse")) ∧
    (∀ text n, (Json.ofText? text).bind Json.integer? = some n ↔ (-2 ^ 63 ≤ n ∧ n < 2 ^ 64) ∧
      ∃ before after, (∀ c ∈ before, Json.isBlank c = true) ∧
        (∀ c ∈ after, Json.isBlank c = true) ∧
        text.toList = before ++ Json.decimal n ++ after) ∧
    (∀ x x' n n' minutes minutes', x.integer? = some n → x'.integer? = some n' → n ≤ n' →
      expirationOfJson x = .ok minutes → expirationOfJson x' = .ok minutes' →
      minutes ≤ minutes') ∧
    (∀ (o : Json.Members) (d : Declaration) (minutes : UInt32),
      Declaration.ofJson (.object o) = .ok d → d.kind = .apc minutes →
      Declaration.ofJson (.object
        (o ++ [("expiration_interval", .number (.ofUInt64 minutes.toUInt64))])) = .ok d) ∧
    ∀ docs c, (Configuration.load docs).result = .ok c →
      List.Forall₂ (fun entry community ↦ community.kind.GivenBy community.id entry)
        (docs.flatMap Document.communityEntries).reverse c.communities ∧
      List.Forall₂ (fun entry shown ↦ shown.kind.GivenBy shown.id entry)
        (docs.flatMap Document.communityEntries).reverse c.summary.communities := by
  refine ⟨fun o o' d hsame h hlabel ↦ ?_, fun text n ↦ Json.integer?_ofText?_iff, ?_, ?_, ?_⟩
  · rw [Declaration.ofJson_eq_map_fieldD hsame h hlabel, fieldD_expirationOfJson]
    refine ⟨fun hnone ↦ by rw [hnone]; rfl, fun x hx ↦ ⟨fun n hn ↦ ?_, fun hnone ↦ ?_⟩⟩
    · refine ⟨clampExpiration n, ?_, toNat_clampExpiration n⟩
      rw [hx, Option.elim_some, hn]
      rfl
    · refine ⟨_, ?_, rfl, fun _ ↦ rfl⟩
      rw [hx, Option.elim_some, hnone]
      rfl
  · intro x x' n n' minutes minutes' hn hn' hle h h'
    obtain ⟨k, hk, rfl⟩ := expirationOfJson_eq_ok_iff.1 h
    obtain ⟨k', hk', rfl⟩ := expirationOfJson_eq_ok_iff.1 h'
    cases hn.symm.trans hk
    cases hn'.symm.trans hk'
    exact clampExpiration_mono hle
  · rintro o ⟨id, kind, idps, rps⟩ minutes h rfl
    obtain ⟨_, _, _, _, ⟨⟩, -, -, -, -, -, hinterval, -, -⟩ := Declaration.ofJson_eq_ok_iff.1 h
    rw [Declaration.ofJson_eq_map_fieldD (o.sameBut_concat _ _) h rfl, fieldD_expirationOfJson,
      o.lookup_concat]
    show Except.ok (⟨id, .apc (clampExpiration minutes.toNat), idps, rps⟩ : Declaration) = _
    rw [clampExpiration_of_fieldD hinterval]
  · intro docs c hc
    have hcommunities := Document.communities_of_load hc
    refine ⟨hcommunities.imp ?_, List.forall₂_map_right_iff.2 (hcommunities.imp ?_)⟩
    · rintro entry community ⟨d, hd, hresolve⟩
      obtain ⟨hid, hkind, -, -⟩ := Declaration.resolve_eq_ok_iff.1 hresolve
      rw [hid, hkind]
      exact Declaration.givenBy_of_ofJson hd
    · rintro entry community ⟨d, hd, hresolve⟩
      rw [Configuration.summarize_of_resolve hresolve]
      exact Declaration.givenBy_of_ofJson hd

/-- The members of a governing community, but for its interval. -/
def Declaration.untimed : Json.Members := [
  ("community_id", .string "apc.example"),
  ("type", .string "apc"),
  ("apcs", .array []),
  ("idp_realms", .array []),
  ("rp_realms", .array [])]

theorem expiration_over_all_integers_untimed :
    ∃ minutes : UInt32, Declaration.ofJson (.object (Declaration.untimed ++
        [("expiration_interval", .number (.ofUInt64 0x8000000000000000))])) =
      .ok ⟨.ofString "apc.example", .apc minutes, [], []⟩ ∧ minutes.toNat = 129600 := by
  obtain ⟨-, hinterval⟩ := expiration_over_all_integers.1 _ _
    ⟨.ofString "apc.example", .apc 43200, [], []⟩
    (Declaration.untimed.sameBut_concat "expiration_interval"
      (.number (.ofUInt64 0x8000000000000000)))
    rfl rfl
  obtain ⟨minutes, hd, hminutes⟩ := (hinterval _ (Json.Members.lookup_concat ..)).1 _ rfl
  exact ⟨minutes, hd, Int.ofNat_inj.1 hminutes⟩

end Community

end TrustRouter
