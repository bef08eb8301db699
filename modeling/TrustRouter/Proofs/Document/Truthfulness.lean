import TrustRouter.LoadError
import TrustRouter.Proofs.Document.Faults
import TrustRouter.Proofs.Document.Reading
import TrustRouter.Proofs.Text.Lossless

/-!
# Faults tell the truth

The decoder of every entity is truthful, and so is that of a document: where it refuses a value, the
error leads to the offending place, and what it says of that place is so (`Document.fault_trueOf`).
The proofs follow the decoders step by step. What a later step reports may depend on what an earlier
one has found, such as that an array is in a member before it is found to be too long, so each step
hands on that it has succeeded (`Truthful.bind`).

Two rules of the model concern a configuration as a whole: that the members of its communities are
realms and that it is complete. They are true of no value, so a decoder never reports them
(`Fragment.isLocal_ofJson`), and a fault in a value is reported as such, as malformed, and never as
a reference that is not found or as something missing.
-/

namespace TrustRouter

open Decoded

variable {v : Json} {o : Json.Members}

/-! ### Clients and filters -/

theorem Constraint.truthfulAt_ofJson {kind : ConstraintKind}
    (hkey : (kind.field, 24) ∈ Fault.limits) : TruthfulAt kind.field (ofJson kind) := by
  refine (truthfulAt_boundedElements hkey).bind fun o w items hw hitems ↦ ?_
  rw [boundedElements_eq_ok_iff.1 hitems] at hw
  exact .member hw ((Truthful.boundedEach fun _ ↦ .name).bind fun _ _ ↦ .ok _)

theorem Constraint.truthful_ofField {kind : ConstraintKind}
    (hkey : (kind.field, 24) ∈ Fault.limits) : Truthful (.object o) (ofField o kind) := by
  refine (TruthfulAt.optional ?_).bind fun _ _ ↦ .ok _
  refine (Truthful.at fun _ ↦ .elements).bind fun o w items hw _ ↦ ?_
  split
  · exact .ok none
  · exact (truthfulAt_ofJson hkey).map some o w hw

/-- A name that is empty is the empty string in the document. -/
theorem at?_of_field_name_empty {key : String} (h : field o key name = .ok .empty) :
    (Json.object o).at? [.key key] = some (.string "") := by
  obtain ⟨_, hlookup, hname⟩ := field_eq_ok_iff.1 h
  obtain ⟨s, rfl, hs⟩ := name_eq_ok_iff.1 hname
  rw [Json.at?_singleton, ← Name.ofString_eq_empty_iff.1 hs]
  exact hlookup

/-- Why there is no test: the field is looked at first. -/
theorem FieldTest.ofNames_error_cases {field pattern : Name} {e : EntityError}
    (h : ofNames field pattern = .error e) :
    (field = .empty ∧ e = .bound "field" .empty) ∨
      (field ≠ .empty ∧ pattern = .empty ∧ e = .bound "match" .empty) := by
  unfold ofNames at h
  split at h
  · next hf =>
    cases h
    exact .inl ⟨hf, rfl⟩
  · next hf =>
    split at h
    · next hp =>
      cases h
      exact .inr ⟨hf, hp, rfl⟩
    · cases h

theorem FieldTest.truthful_ofJson : Truthful v (ofJson v) := by
  refine Truthful.object.bind fun o ho ↦ ?_
  rw [object_eq_ok_iff.1 ho]
  refine (Truthful.at fun _ ↦ .name).field.bind fun field hfield ↦
    (Truthful.at fun _ ↦ .name).field.bind fun pattern hpattern fault h ↦ ?_
  obtain ⟨e, he, rfl⟩ := Except.mapError_eq_error_iff.1 h
  rcases ofNames_error_cases he with ⟨rfl, rfl⟩ | ⟨hne, rfl, rfl⟩
  · exact .emptyName (q := []) (by decide) (at?_of_field_name_empty hfield)
  · have hisEmpty : ¬field.isEmpty := by rwa [Name.isEmpty_iff]
    rw [if_neg hisEmpty]
    exact .emptyName (q := []) (by decide) (at?_of_field_name_empty hpattern)

theorem FilterLine.truthful_ofJson : Truthful v (ofJson v) := by
  refine Truthful.object.bind fun o ho ↦ ?_
  rw [object_eq_ok_iff.1 ho]
  refine (Truthful.at fun _ ↦ .string).field.bind fun label hlabel ↦ ?_
  obtain ⟨_, hlabel, hstring⟩ := field_eq_ok_iff.1 hlabel
  rw [string_eq_ok_iff.1 hstring] at hlabel
  have hword : Action.ofLabel? label = none → label ∉ ["accept", "reject"] := by
    intro hnone hmem
    rcases List.mem_pair.1 hmem with rfl | rfl <;> cases hnone
  refine (truthful_word (by decide) hword hlabel).bind fun action _ ↦
    (truthfulAt_boundedElements (by decide)).field.bind fun tests htests ↦
    (Constraint.truthful_ofField (by decide)).bind fun realms _ ↦
    (Constraint.truthful_ofField (by decide)).bind fun domains _ ↦ ?_
  obtain ⟨_, htests, hitems⟩ := field_eq_ok_iff.1 htests
  rw [boundedElements_eq_ok_iff.1 hitems] at htests
  exact (Truthful.member htests (.boundedEach fun _ ↦ FieldTest.truthful_ofJson)).bind
    fun _ _ ↦ .ok _

theorem Filter.truthful_ofJson : Truthful v (ofJson v) := by
  refine Truthful.object.bind fun o ho ↦ ?_
  rw [object_eq_ok_iff.1 ho]
  refine (Truthful.at fun _ ↦ .string).field.bind fun label hlabel ↦
    (truthfulAt_boundedElements (by decide)).field.bind fun lines hlines ↦ ?_
  obtain ⟨_, hlabel, hstring⟩ := field_eq_ok_iff.1 hlabel
  rw [string_eq_ok_iff.1 hstring] at hlabel
  obtain ⟨_, hlines, hitems⟩ := field_eq_ok_iff.1 hlines
  rw [boundedElements_eq_ok_iff.1 hitems] at hlines
  have hword : FilterKind.ofLabel? label = none → label ∉ ["rp_permitted"] := by
    intro hnone hmem
    rw [List.mem_singleton.1 hmem] at hnone
    cases hnone
  exact (truthful_word (by decide) hword hlabel).bind fun kind _ ↦
    (Truthful.member hlines (.boundedEach fun _ ↦ FilterLine.truthful_ofJson)).bind fun _ _ ↦ .ok _

theorem RpClient.truthful_ofJson : Truthful v (ofJson v) := by
  refine Truthful.object.bind fun o ho ↦ ?_
  rw [object_eq_ok_iff.1 ho]
  refine (Truthful.at fun _ ↦ .elements).field.bind fun names hnames ↦
    Truthful.required.bind fun filter hfilter ↦ ?_
  obtain ⟨_, hnames, hitems⟩ := field_eq_ok_iff.1 hnames
  rw [elements_eq_ok_iff.1 hitems] at hnames
  refine (truthful_bounded (by decide) hnames).bind fun bounded hbounded ↦
    (Truthful.member (required_eq_ok_iff.1 hfilter) Filter.truthful_ofJson).bind fun _ _ ↦ ?_
  rw [← bounded_eq_ok_iff.1 (within_eq_ok_iff.1 hbounded)] at hnames
  exact (Truthful.member hnames (.boundedEach fun _ ↦ .name)).bind fun _ _ ↦ .ok _

/-! ### Realms -/

theorem AaaServer.truthful_ofJson : Truthful v (ofJson v) :=
  Truthful.name.bind fun _ _ ↦ .ok _

theorem Apc.truthful_ofElements {items : List Json} :
    Truthful (.array items) (ofElements items) := by
  cases items with
  | nil => exact .ok none
  | cons first rest => exact (Truthful.name.bind fun _ _ ↦ .ok _).within rfl

theorem Apc.truthful_ofJson : Truthful v (ofJson v) := by
  refine Truthful.elements.bind fun items hitems ↦ ?_
  rw [elements_eq_ok_iff.1 hitems]
  exact truthful_ofElements

/-- A realm that is configured here has a server; nothing else is asked of its origin. -/
theorem Origin.of_ofServers_eq_error {shared : Bool} {servers : List AaaServer} {e : EntityError}
    (h : ofServers shared servers = .error e) : servers = [] ∧ e = .bound "aaa_servers" .empty := by
  unfold ofServers at h
  split at h
  · next hnil =>
    cases h
    exact ⟨hnil, rfl⟩
  · cases h

/-- A realm is local when no number other than zero says that it is remote. -/
theorem IdpRealm.isZero_of_local
    (h : fieldD o "remote" (fun v ↦ return !(← number v).isZero) false = .ok false)
    {n : Json.Number} (hn : o.lookup "remote" = some (.number n)) : n.isZero = true := by
  rcases fieldD_eq_ok_iff.1 h with ⟨hnone, -⟩ | ⟨w, hw, hzero⟩
  · rw [hnone] at hn
    cases hn
  · rw [hw] at hn
    cases hn
    simpa using Except.ok.inj hzero

theorem IdpRealm.truthful_ofJson : Truthful v (ofJson v) := by
  refine Truthful.object.bind fun o ho ↦ ?_
  rw [object_eq_ok_iff.1 ho]
  refine (TruthfulAt.map (Truthful.at fun _ ↦ .number) _).fieldD.bind fun remote hremote ↦
    (Truthful.at fun _ ↦ .name).field.bind fun id _ ↦
    (Truthful.at fun _ ↦ Apc.truthful_ofJson).fieldD.bind fun apc _ ↦ ?_
  cases remote with
  | true => exact .ok _
  | false =>
    refine (Truthful.at fun _ ↦ .string).field.bind fun shared _ ↦
      (Truthful.at fun _ ↦ .elementsEach fun _ ↦ AaaServer.truthful_ofJson).field.bind
        fun servers hservers ↦ Truthful.bind (fun fault h ↦ ?_) fun _ _ ↦ .ok _
    obtain ⟨e, he, rfl⟩ := Except.mapError_eq_error_iff.1 h
    obtain ⟨rfl, rfl⟩ := Origin.of_ofServers_eq_error he
    -- No servers have been decoded, so the array has no elements.
    obtain ⟨_, hlookup, hlist⟩ := field_eq_ok_iff.1 hservers
    obtain ⟨items, rfl, hitems⟩ := AaaServer.listOfJson_eq_ok_iff.1 hlist
    rw [List.forall₂_nil_right_iff.1 hitems] at hlookup
    exact .noServers (q := []) (Json.at?_nil _) hlookup fun _ ↦ isZero_of_local hremote

/-! ### Communities -/

namespace Community

theorem truthfulAt_expirationOfJson : TruthfulAt "expiration_interval" expirationOfJson := by
  rw [expirationOfJson_eq]
  refine TruthfulAt.map (fun o w hw ↦ ?_) clampExpiration
  have hat : (Json.object o).at? [.key "expiration_interval"] = some w := by
    rwa [Json.at?_singleton]
  exact .within_orRefuse fun h ↦ .notInteger (q := []) hat h

/-- What is reported of the kind of a community is true when its fields are those of the object. -/
theorem Kind.truthful_ofFields {id label : String} {apcs : List Json}
    (hid : o.lookup "community_id" = some (.string id))
    (hlabel : o.lookup "type" = some (.string label))
    (hapcs : o.lookup "apcs" = some (.array apcs)) :
    Truthful (.object o) (ofFields o (.ofString id) label apcs) := by
  unfold ofFields
  split
  · exact truthfulAt_expirationOfJson.fieldD.map
  · next hapc =>
    split
    · next hcoi =>
      rw [within_bind]
      refine (Truthful.member hapcs Apc.truthful_ofElements).bind fun governing hgoverning ↦ ?_
      cases governing with
      | some governing => exact .ok _
      | none =>
        have hnil : apcs = [] := by
          have hhead := Apc.ofElements_eq_ok_iff.1 (within_eq_ok_iff.1 hgoverning)
          rw [← List.head?_eq_none_iff]
          generalize apcs.head? = head at hhead ⊢
          cases hhead
          rfl
        rw [hcoi] at hlabel
        rw [hnil] at hapcs
        rintro fault ⟨⟩
        exact .missingApc (q := []) (Json.at?_nil _) hlabel hid hapcs
    · next hcoi =>
      have hat : (Json.object o).at? [.key "type"] = some (.string label) := by
        rwa [Json.at?_singleton]
      have hword : label ∉ ["apc", "coi"] := by
        simp [hapc, hcoi]
      rintro fault ⟨⟩
      exact .unknownWord (q := []) (by decide) hat hword

theorem Declaration.truthful_ofJson : Truthful v (ofJson v) := by
  rw [ofJson_eq_bind_ofFields]
  refine Truthful.object.bind fun o ho ↦ ?_
  rw [object_eq_ok_iff.1 ho]
  refine (Truthful.at fun _ ↦ .name).field.bind fun id hid ↦
    (Truthful.at fun _ ↦ .string).field.bind fun label hlabel ↦
    (Truthful.at fun _ ↦ .elements).field.bind fun apcs hapcs ↦
    (Truthful.at fun _ ↦ .elements).field.bind fun idps hidps ↦
    (Truthful.at fun _ ↦ .elements).field.bind fun rps hrps ↦ ?_
  simp only [field_eq_ok_iff, name_eq_ok_iff, string_eq_ok_iff, elements_eq_ok_iff] at *
  obtain ⟨_, hid, s, rfl, rfl⟩ := hid
  obtain ⟨_, hlabel, rfl⟩ := hlabel
  obtain ⟨_, hapcs, rfl⟩ := hapcs
  obtain ⟨_, hidps, rfl⟩ := hidps
  obtain ⟨_, hrps, rfl⟩ := hrps
  exact (Kind.truthful_ofFields hid hlabel hapcs).bind fun kind _ ↦
    (Truthful.member hidps (.each fun _ ↦ .name)).bind fun _ _ ↦
    (Truthful.member hrps (.each fun _ ↦ .name)).bind fun _ _ ↦ .ok _

end Community

/-! ### Settings -/

theorem Severity.truthful_ofJson : Truthful v (ofJson v) :=
  Truthful.string.bind fun _ _ ↦ .ok _

theorem Decoded.truthful_logging {defaults : Settings} : Truthful v (logging defaults v) := by
  refine Truthful.object.bind fun o ho ↦ ?_
  rw [object_eq_ok_iff.1 ho]
  exact (Truthful.at fun _ ↦ Severity.truthful_ofJson).fieldD.bind fun _ _ ↦
    (Truthful.at fun _ ↦ Severity.truthful_ofJson).fieldD.bind fun _ _ ↦ .ok _

theorem Settings.truthful_ofJson : Truthful v (ofJson v) := by
  refine Truthful.object.bind fun o ho ↦ ?_
  rw [object_eq_ok_iff.1 ho]
  exact (Truthful.at fun _ ↦ .name).optional.bind fun _ _ ↦
    (Truthful.at fun _ ↦ truthful_logging).fieldD.bind fun ⟨_, _⟩ _ ↦
    (truthfulAt_uint32 (by decide)).fieldD.bind fun _ _ ↦
    (truthfulAt_uint16 (by decide)).fieldD.bind fun _ _ ↦
    (truthfulAt_uint16 (by decide)).fieldD.bind fun _ _ ↦
    (truthfulAt_uint32 (by decide)).fieldD.bind fun _ _ ↦
    (truthfulAt_uint32 (by decide)).fieldD.bind fun _ _ ↦
    (truthfulAt_uint32 (by decide)).fieldD.bind fun _ _ ↦
    (truthfulAt_uint32 (by decide)).fieldD.bind fun _ _ ↦
    (truthfulAt_uint32 (by decide)).fieldD.bind fun _ _ ↦ .ok _

/-! ### Documents -/

theorem Fragment.truthful_ofJson : Truthful v (ofJson v) := by
  refine Truthful.object.bind fun o ho ↦ ?_
  rw [object_eq_ok_iff.1 ho]
  exact (Truthful.at fun _ ↦ Settings.truthful_ofJson).optional.bind fun _ _ ↦
    (Truthful.list fun _ ↦ RpClient.truthful_ofJson).bind fun _ _ ↦
    (Truthful.list fun _ ↦ IdpRealm.truthful_ofJson).bind fun _ _ ↦
    (Truthful.list fun _ ↦ AaaServer.truthful_ofJson).bind fun _ _ ↦
    (Truthful.list fun _ ↦ Community.Declaration.truthful_ofJson).bind fun _ _ ↦ .ok _

/-! ### Local reasons -/

/-- The rule concerns one entity and not a whole configuration. -/
def EntityError.IsLocal : EntityError → Prop
  | .bound _ _ => True
  | .missingApc _ => True
  | .unknownRealm _ _ => False
  | .incomplete _ => False

/-- The reason concerns the value at which it is reported. -/
def Reason.IsLocal : Reason → Prop
  | .entity e => e.IsLocal
  | _ => True

/-- A local rule that is broken makes a value malformed. -/
theorem LoadError.ofEntityError_of_isLocal {e : EntityError} (h : e.IsLocal) {location : Location} :
    ofEntityError location e = .malformed location (.entity e) := by
  cases e with
  | bound | missingApc => rfl
  | unknownRealm | incomplete => cases h

/-- Nothing is claimed of a value that concerns a whole configuration. -/
theorem Fault.TrueOf.isLocal {fault : Fault} (h : fault.TrueOf v) : fault.reason.IsLocal := by
  cases h <;> trivial

theorem Fragment.isLocal_ofJson (fault : Fault) (h : ofJson v = .error fault) :
    fault.reason.IsLocal :=
  (truthful_ofJson fault h).isLocal

/-! ### The error of a document -/

/-- **Faults tell the truth.** When a document is not too long and is JSON, but is not accepted, the
error is at a place in its value, shown behind its name. Either a member is missing there and the
object around it lacks it, or there is a value at that place; and what the error says of it is
so. -/
theorem Document.fault_trueOf [Json.Diagnosis] {doc : Document} {v : Json} {e : LoadError}
    (hsize : doc.text.utf8ByteSize ≤ maxBytes) (hv : Json.ofText? doc.text = some v)
    (he : doc.fragment = .error e) :
    ∃ fault : Fault, e = .malformed ⟨some doc.name, some fault.path⟩ fault.reason ∧
      e.message = "config parse error at " ++ (doc.name ++ ":" ++ fault.path.text) ++ ": " ++
        fault.reason.message ∧
      (fault.reason = .missingField ∨ ∃ w, v.at? fault.path = some w) ∧
      fault.TrueOf v := by
  rw [fragment, if_neg (Nat.not_lt_of_le hsize), hv] at he
  obtain ⟨fault, hfault, rfl⟩ := Except.mapError_eq_error_iff.1 he
  have htrue : fault.TrueOf v := Fragment.truthful_ofJson fault hfault
  exact ⟨fault, rfl, rfl, htrue.exists_at?, htrue⟩

/-- A document with a community of interest that nothing governs. -/
def Document.ungoverned : Document :=
  ⟨"ungoverned", "\x7b\"communities\": [\x7b\"community_id\": \"c\", \"type\": \"coi\",
    \"apcs\": [], \"idp_realms\": [], \"rp_realms\": []\x7d]\x7d"⟩

theorem Document.fragment_ungoverned [Json.Diagnosis] : ungoverned.fragment = .error (.malformed
    ⟨some "ungoverned", some [.key "communities", .index 0, .key "apcs"]⟩
    (.entity (.missingApc (.ofString "c")))) := by
  rw [ungoverned]
  exact fragment_of_chars _ (by decide +kernel) (by decide +kernel)

/-- The value at the place that is reported, three steps deep, is the empty array. -/
theorem Document.fault_trueOf_ungoverned :
    ungoverned.text.utf8ByteSize ≤ maxBytes ∧
    ∃ v, Json.ofText? ungoverned.text = some v ∧
      Fault.TrueOf v ⟨[.key "communities", .index 0, .key "apcs"],
        .entity (.missingApc (.ofString "c"))⟩ ∧
      v.at? [.key "communities", .index 0, .key "apcs"] = some (.array []) := by
  have hsize : ungoverned.text.utf8ByteSize ≤ maxBytes := by decide +kernel
  have hv : Json.ofText? ungoverned.text = some (.object [("communities", .array [.object [
      ("community_id", .string "c"), ("type", .string "coi"), ("apcs", .array []),
      ("idp_realms", .array []), ("rp_realms", .array [])]])]) := by
    rw [ungoverned, Json.ofText?_ofList]
    cbv
  obtain ⟨⟨path, reason⟩, he, -, -, htrue⟩ := fault_trueOf hsize hv fragment_ungoverned
  cases he
  exact ⟨hsize, _, hv, htrue, rfl⟩

end TrustRouter
