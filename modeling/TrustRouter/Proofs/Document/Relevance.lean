import TrustRouter.Proofs.Document.Grammar
import TrustRouter.Proofs.Document.Likeness

/-!
# What of a document matters

Two documents that are alike in everything that is looked at are decoded alike, be they accepted or
refused (`Fragment.ofJson_eq_of_alike`). What is looked at is written down here, entity by entity,
as a likeness. What does not occur in it has no influence:

* members with any other key, in any object;
* a revision that is no number, which is as good as none;
* of governing communities all but the first, and all of them in a governing community, which need
  only be an array;
* the interval of a community of interest;
* the servers of a remote realm, and whether its configuration is shared.

The last three depend on another member of the same object. That member is looked at itself, so two
objects that are alike are exempt together.
-/

namespace TrustRouter

/-! ### What is looked at -/

section Likenesses

open Json Json.Likeness

/-- What is looked at in a test. -/
def FieldTest.Alike : Likeness := object [member "field" string, member "match" string]

/-- What is looked at in a filter line. -/
def FilterLine.Alike : Likeness := object [
  member "action" string,
  member "filter_specs" (list FieldTest.Alike),
  member "realm_constraints" (list string),
  member "domain_constraints" (list string)]

/-- What is looked at in a filter. -/
def Filter.Alike : Likeness := object [
  member "type" string,
  member "filter_lines" (list FilterLine.Alike)]

/-- What is looked at in a client. -/
def RpClient.Alike : Likeness := object [
  member "gss_names" (list string),
  member "filter" Filter.Alike]

/-- What is looked at in a realm. The servers of a remote realm are not. -/
def IdpRealm.Alike : Likeness := object [
  member "remote" number,
  member "realm_id" string,
  member "apcs" (headed string),
  exempting (Form.required "remote" Form.nonzero) (member "shared_config" string),
  exempting (Form.required "remote" Form.nonzero) (member "aaa_servers" (list string))]

/-- What is looked at in a community. The governing communities of a governing community and the
interval of a community of interest are not. -/
def Community.Declaration.Alike : Likeness := object [
  member "community_id" string,
  member "type" string,
  member "apcs" array,
  member "idp_realms" (list string),
  member "rp_realms" (list string),
  exempting (Form.required "type" (Form.oneOf ["apc"])) (member "apcs" (headed string)),
  exempting (Form.required "type" (Form.oneOf ["coi"])) (member "expiration_interval" integer)]

/-- What is looked at in a logging section. -/
def Settings.LoggingAlike : Likeness := object [
  member "log_threshold" string,
  member "console_threshold" string]

/-- What is looked at in settings. -/
def Settings.Alike : Likeness := object [
  member "hostname" string,
  member "logging" LoggingAlike,
  member "max_tree_depth" integer,
  member "tids_port" integer,
  member "trps_port" integer,
  member "cfg_poll_interval" integer,
  member "cfg_settling_time" integer,
  member "trp_connect_interval" integer,
  member "trp_sweep_interval" integer,
  member "trp_update_interval" integer]

/-- What is looked at in a document. -/
def Fragment.Alike : Likeness := object [
  reading "serial_number" number?,
  member "tr_internal" Settings.Alike,
  member "rp_clients" (list RpClient.Alike),
  member "idp_realms" (list IdpRealm.Alike),
  member "default_servers" (list string),
  member "communities" (list Community.Declaration.Alike)]

end Likenesses

/-! ### A value is like itself -/

section Refl

open Json.Likeness

@[simp]
theorem FieldTest.alike_refl (v : Json) : Alike v v :=
  object_refl (by simp) v

@[simp]
theorem FilterLine.alike_refl (v : Json) : Alike v v :=
  object_refl (by simp) v

@[simp]
theorem Filter.alike_refl (v : Json) : Alike v v :=
  object_refl (by simp) v

@[simp]
theorem RpClient.alike_refl (v : Json) : Alike v v :=
  object_refl (by simp) v

@[simp]
theorem IdpRealm.alike_refl (v : Json) : Alike v v :=
  object_refl (by simp) v

@[simp]
theorem Community.Declaration.alike_refl (v : Json) : Alike v v :=
  object_refl (by simp) v

@[simp]
theorem Settings.loggingAlike_refl (v : Json) : LoggingAlike v v :=
  object_refl (by simp) v

@[simp]
theorem Settings.alike_refl (v : Json) : Alike v v :=
  object_refl (by simp) v

theorem Fragment.alike_refl (v : Json) : Alike v v :=
  object_refl (by simp) v

end Refl

open Decoded
open Json (Form Likeness Members)

variable {o o' : Members}

/-! ### Clients and filters -/

theorem FieldTest.respects_ofJson : Respects ofJson Alike := by
  intro v v' h
  refine ((agree_object h).bind fun o o' ho ↦ ?_).eq
  simp only [Likeness.all_cons, Likeness.all_nil, and_true] at ho
  obtain ⟨hfield, hpattern⟩ := ho
  exact .bindEq (field_eq hfield respects_name) fun field _ ↦
    .bindEq (field_eq hpattern respects_name) fun pattern _ ↦ .refl _

theorem Constraint.respects_ofJson (kind : ConstraintKind) :
    Respects (ofJson kind) (Likeness.list .string) := by
  intro v v' h
  refine ((agree_boundedElements h).bind fun items items' hitems ↦ ?_).eq
  exact .bindEq (boundedEach_eq respects_name hitems) fun patterns _ ↦ .refl _

/-- Arrays that are alike are empty together, so they are no constraint together. -/
theorem Constraint.ofField_eq {kind : ConstraintKind}
    (h : Likeness.member kind.field (Likeness.list .string) o o') :
    ofField o kind = ofField o' kind := by
  have hdecode : Respects (fun v ↦ do
      if (← elements v).isEmpty then return none else return some (← Constraint.ofJson kind v))
      (Likeness.list .string) := by
    intro v v' h
    refine ((agree_elements h).bind fun items items' hitems ↦ ?_).eq
    have hempty : items.isEmpty = items'.isEmpty := by cases hitems <;> rfl
    rw [hempty, Constraint.respects_ofJson kind v v' h]
    exact .refl _
  rw [ofField, ofField, optional_eq h hdecode]

theorem FilterLine.respects_ofJson : Respects ofJson Alike := by
  intro v v' h
  refine ((agree_object h).bind fun o o' ho ↦ ?_).eq
  simp only [Likeness.all_cons, Likeness.all_nil, and_true] at ho
  obtain ⟨haction, htests, hrealms, hdomains⟩ := ho
  exact .bindEq (field_eq haction respects_string) fun label _ ↦
    .bindEq rfl fun action _ ↦
    (agree_field htests fun _ _ ↦ agree_boundedElements).bind fun tests tests' htests ↦
    .bindEq (Constraint.ofField_eq hrealms) fun realms _ ↦
    .bindEq (Constraint.ofField_eq hdomains) fun domains _ ↦
    .bindEq (by rw [boundedEach_eq FieldTest.respects_ofJson htests]) fun tests _ ↦ .refl _

theorem Filter.respects_ofJson : Respects ofJson Alike := by
  intro v v' h
  refine ((agree_object h).bind fun o o' ho ↦ ?_).eq
  simp only [Likeness.all_cons, Likeness.all_nil, and_true] at ho
  obtain ⟨htype, hlines⟩ := ho
  exact .bindEq (field_eq htype respects_string) fun label _ ↦
    (agree_field hlines fun _ _ ↦ agree_boundedElements).bind fun lines lines' hlines ↦
    .bindEq rfl fun kind _ ↦
    .bindEq (by rw [boundedEach_eq FilterLine.respects_ofJson hlines]) fun lines _ ↦ .refl _

theorem RpClient.respects_ofJson : Respects ofJson Alike := by
  intro v v' h
  refine ((agree_object h).bind fun o o' ho ↦ ?_).eq
  simp only [Likeness.all_cons, Likeness.all_nil, and_true] at ho
  obtain ⟨hnames, hfilter⟩ := ho
  exact (agree_field hnames fun _ _ ↦ agree_elements).bind fun names names' hnames ↦
    (agree_required hfilter).bind fun filter filter' hfilter ↦
    (agree_bounded hnames).within.bind fun names names' hnames ↦
    .bindEq (by rw [Filter.respects_ofJson _ _ hfilter]) fun filter _ ↦
    .bindEq (by rw [boundedEach_eq respects_name hnames]) fun names _ ↦ .refl _

/-! ### Realms -/

theorem AaaServer.respects_ofJson : Respects ofJson Likeness.string :=
  respects_name.map AaaServer.mk

theorem Apc.ofElements_eq {items items' : List Json}
    (h : Option.Rel Likeness.string items.head? items'.head?) :
    ofElements items = ofElements items' := by
  cases items with
  | nil =>
    cases items' with
    | nil => rfl
    | cons first' rest' => cases h
  | cons first rest =>
    cases items' with
    | nil => cases h
    | cons first' rest' =>
      have hfirst := Option.rel_some_some.1 h
      rw [ofElements, ofElements, respects_name _ _ hfirst]

theorem Apc.respects_ofJson : Respects ofJson (Likeness.headed .string) := by
  intro v v' h
  have hitems : Agree (fun items items' ↦ Option.Rel Likeness.string items.head? items'.head?)
      (elements v) (elements v') := .orRefuse h
  refine (hitems.bind fun items items' hhead ↦ ?_).eq
  rw [ofElements_eq hhead]
  exact .refl _

/-- The servers of a remote realm and whether it is shared are not looked at. -/
theorem IdpRealm.respects_ofJson : Respects ofJson Alike := by
  intro v v' h
  refine ((agree_object h).bind fun o o' ho ↦ ?_).eq
  simp only [Likeness.all_cons, Likeness.all_nil, and_true] at ho
  obtain ⟨hremote, hid, hapc, hshared, hservers⟩ := ho
  have hnumber : Respects (fun v ↦ return !(← number v).isZero) Likeness.number :=
    respects_number.map fun n ↦ !n.isZero
  refine .bindEq (fieldD_eq hremote hnumber) fun remote hlocal ↦
    .bindEq (field_eq hid respects_name) fun id _ ↦
    .bindEq (fieldD_eq hapc Apc.respects_ofJson) fun apc _ ↦ ?_
  cases remote with
  | true => exact .refl _
  | false =>
    have hexempt : ¬ Form.required "remote" Form.nonzero o = true := fun hnonzero ↦ by
      rw [remote_iff.2 hnonzero] at hlocal
      cases hlocal
    have hshared := hshared.resolve_left fun hexempt' ↦ hexempt hexempt'.1
    have hservers := hservers.resolve_left fun hexempt' ↦ hexempt hexempt'.1
    exact .bindEq (field_eq hshared respects_string) fun shared _ ↦
      .bindEq (field_eq hservers AaaServer.respects_ofJson.elementsEach) fun servers _ ↦ .refl _

/-! ### Communities -/

namespace Community

theorem respects_expirationOfJson : Respects expirationOfJson Likeness.integer := by
  rw [expirationOfJson_eq]
  exact (respects_orRefuse Json.integer? .notInteger).map clampExpiration

theorem Kind.label_eq {label word : String} (hlabel : field o "type" string = .ok label)
    (hword : Form.required "type" (Form.oneOf [word]) o = true) : label = word := by
  obtain ⟨_, hlookup, hlabel⟩ := field_eq_ok_iff.1 hlabel
  obtain rfl := string_eq_ok_iff.1 hlabel
  obtain ⟨_, hlookup', hword⟩ := Form.required_iff.1 hword
  obtain ⟨_, hmem, rfl⟩ := Form.oneOf_iff.1 hword
  obtain rfl := List.mem_singleton.1 hmem
  cases hlookup.symm.trans hlookup'
  rfl

/-- A governing community looks at its interval only, a community of interest at the first of its
governing communities only. -/
theorem Kind.ofFields_eq {id : Name} {label : String} {apcs apcs' : List Json}
    (hapcs : label = "apc" ∨ Option.Rel Likeness.string apcs.head? apcs'.head?)
    (hinterval : label = "coi" ∨ Likeness.member "expiration_interval" .integer o o') :
    ofFields o id label apcs = ofFields o' id label apcs' := by
  unfold ofFields
  by_cases hapc : label = "apc"
  · have hcoi : label ≠ "coi" := by
      rw [hapc]
      decide
    rw [if_pos hapc, if_pos hapc,
      fieldD_eq (hinterval.resolve_left hcoi) respects_expirationOfJson]
  · rw [if_neg hapc, if_neg hapc, Apc.ofElements_eq (hapcs.resolve_left hapc)]

/-- The governing communities of a governing community need only be an array. -/
theorem Declaration.agree_apcs (harray : Likeness.member "apcs" .array o o')
    (hhead : Likeness.exempting (Form.required "type" (Form.oneOf ["apc"]))
      (Likeness.member "apcs" (.headed .string)) o o') :
    Agree (fun apcs apcs' ↦ Form.required "type" (Form.oneOf ["apc"]) o = true ∨
        Option.Rel Likeness.string apcs.head? apcs'.head?)
      (field o "apcs" elements) (field o' "apcs" elements) := by
  rcases hhead with ⟨hexempt, -⟩ | hhead
  · refine agree_field harray fun v v' hv ↦ .orRefuse ?_
    have hsome : v.array?.isSome = v'.array?.isSome := hv
    cases hitems : v.array? <;> cases hitems' : v'.array? <;> rw [hitems, hitems'] at hsome
    · exact .none
    · cases hsome
    · cases hsome
    · exact .some (.inl hexempt)
  · refine agree_field hhead fun v v' hv ↦ ?_
    have hagree : Agree (fun items items' ↦ Option.Rel Likeness.string items.head? items'.head?)
        (elements v) (elements v') := .orRefuse hv
    exact hagree.mono fun _ _ ↦ .inr

theorem Declaration.respects_ofJson : Respects ofJson Alike := by
  intro v v' h
  rw [ofJson_eq_bind_ofFields, ofJson_eq_bind_ofFields]
  refine ((agree_object h).bind fun o o' ho ↦ ?_).eq
  simp only [Likeness.all_cons, Likeness.all_nil, and_true] at ho
  obtain ⟨hid, htype, harray, hidps, hrps, hhead, hinterval⟩ := ho
  refine .bindEq (field_eq hid respects_name) fun id _ ↦
    .bindEq (field_eq htype respects_string) fun label hlabel ↦
    (agree_apcs harray hhead).bind fun apcs apcs' hapcs ↦
    (agree_field hidps fun _ _ ↦ agree_elements).bind fun idps idps' hidps ↦
    (agree_field hrps fun _ _ ↦ agree_elements).bind fun rps rps' hrps ↦ ?_
  have hapcs := hapcs.imp_left (Kind.label_eq hlabel)
  have hinterval := hinterval.imp_left fun hexempt ↦ Kind.label_eq hlabel hexempt.1
  exact .bindEq (Kind.ofFields_eq hapcs hinterval) fun kind _ ↦
    .bindEq (by rw [each_eq respects_name hidps]) fun idps _ ↦
    .bindEq (by rw [each_eq respects_name hrps]) fun rps _ ↦ .refl _

end Community

/-! ### Settings -/

theorem Decoded.respects_below (bound : ℕ) : Respects (below bound) Likeness.integer := by
  intro v v' h
  have hinteger : v.integer? = v'.integer? := h
  rw [below, below, hinteger]

theorem Decoded.respects_uint16 : Respects uint16 Likeness.integer :=
  (respects_below UInt16.size).map UInt16.ofNat

theorem Decoded.respects_uint32 : Respects uint32 Likeness.integer :=
  (respects_below UInt32.size).map UInt32.ofNat

theorem Severity.respects_ofJson : Respects ofJson Likeness.string :=
  respects_string.map Severity.ofLabel

theorem Decoded.respects_logging (defaults : Settings) :
    Respects (logging defaults) Settings.LoggingAlike := by
  intro v v' h
  refine ((agree_object h).bind fun o o' ho ↦ ?_).eq
  simp only [Likeness.all_cons, Likeness.all_nil, and_true] at ho
  obtain ⟨hlog, hconsole⟩ := ho
  exact .bindEq (fieldD_eq hlog Severity.respects_ofJson) fun log _ ↦
    .bindEq (fieldD_eq hconsole Severity.respects_ofJson) fun console _ ↦ .refl _

theorem Settings.respects_ofJson : Respects ofJson Alike := by
  intro v v' h
  refine ((agree_object h).bind fun o o' ho ↦ ?_).eq
  simp only [Likeness.all_cons, Likeness.all_nil, and_true] at ho
  obtain ⟨hhostname, hlogging, hdepth, htids, htrps, hpoll, hsettling, hconnect, hsweep,
    hupdate⟩ := ho
  exact .bindEq (optional_eq hhostname respects_name) fun hostname _ ↦
    .bindEq (fieldD_eq hlogging (respects_logging _)) fun thresholds _ ↦
    .bindEq (fieldD_eq hdepth respects_uint32) fun depth _ ↦
    .bindEq (fieldD_eq htids respects_uint16) fun tids _ ↦
    .bindEq (fieldD_eq htrps respects_uint16) fun trps _ ↦
    .bindEq (fieldD_eq hpoll respects_uint32) fun poll _ ↦
    .bindEq (fieldD_eq hsettling respects_uint32) fun settling _ ↦
    .bindEq (fieldD_eq hconnect respects_uint32) fun connect _ ↦
    .bindEq (fieldD_eq hsweep respects_uint32) fun sweep _ ↦
    .bindEq (fieldD_eq hupdate respects_uint32) fun update _ ↦ .refl _

/-! ### Documents -/

/-- **What is not looked at has no influence.** Documents that are alike are decoded to the same
fragment, or refused for the same reason at the same place. -/
theorem Fragment.ofJson_eq_of_alike {v v' : Json} (h : Alike v v') : ofJson v = ofJson v' := by
  refine ((agree_object h).bind fun o o' ho ↦ ?_).eq
  simp only [Likeness.all_cons, Likeness.all_nil, and_true] at ho
  obtain ⟨hserial, hsettings, hclients, hrealms, hservers, hcommunities⟩ := ho
  have hserial : (o.lookup "serial_number").bind Json.number? =
      (o'.lookup "serial_number").bind Json.number? := hserial
  rw [hserial]
  exact .bindEq (optional_eq hsettings Settings.respects_ofJson) fun settings _ ↦
    .bindEq (list_eq hclients RpClient.respects_ofJson) fun clients _ ↦
    .bindEq (list_eq hrealms IdpRealm.respects_ofJson) fun realms _ ↦
    .bindEq (list_eq hservers AaaServer.respects_ofJson) fun servers _ ↦
    .bindEq (list_eq hcommunities Community.Declaration.respects_ofJson) fun communities _ ↦
      .refl _

namespace Fragment

/-- A realm and two communities, with little that is not looked at. -/
def plain : Json := .object [
  ("idp_realms", .array [.object [("remote", .number (.ofUInt64 1)),
    ("realm_id", .string "a.test")]]),
  ("communities", .array [
    .object [("community_id", .string "governing"), ("type", .string "apc"), ("apcs", .array []),
      ("idp_realms", .array [.string "a.test"]), ("rp_realms", .array [])],
    .object [("community_id", .string "governed"), ("type", .string "coi"),
      ("apcs", .array [.string "governing"]), ("idp_realms", .array []), ("rp_realms", .null)]])]

/-- The same with something odd wherever nothing is looked at. -/
def littered : Json := .object [
  ("serial_number", .string "seven"), ("comment", .null),
  ("idp_realms", .array [.object [("remote", .number (.ofUInt64 1)), ("realm_id", .string "a.test"),
    ("shared_config", .null), ("aaa_servers", .number (.ofUInt64 0))]]),
  ("communities", .array [
    .object [("community_id", .string "governing"), ("type", .string "apc"),
      ("apcs", .array [.null, .bool true]), ("idp_realms", .array [.string "a.test"]),
      ("rp_realms", .array [])],
    .object [("community_id", .string "governed"), ("type", .string "coi"),
      ("apcs", .array [.string "governing", .null]), ("idp_realms", .array []),
      ("rp_realms", .null), ("expiration_interval", .string "never")]])]

/-- What is wrong where something is looked at, the relying-party realms of the second community,
is reported for both. -/
theorem ofJson_plain_eq_littered : Alike plain littered ∧ ofJson plain = ofJson littered := by
  have h : Alike plain littered := by
    refine .some ?_
    simp only [Likeness.all_cons, Likeness.all_nil, and_true]
    refine ⟨rfl, .none, .none, .some (.some (.cons ?realm .nil)), .none,
      .some (.some (.cons ?governing (.cons ?governed .nil)))⟩
    case realm =>
      refine .some ?_
      simp only [Likeness.all_cons, Likeness.all_nil, and_true]
      exact ⟨.some rfl, .some rfl, .none, .inl ⟨rfl, rfl⟩, .inl ⟨rfl, rfl⟩⟩
    case governing =>
      refine .some ?_
      simp only [Likeness.all_cons, Likeness.all_nil, and_true]
      exact ⟨.some rfl, .some rfl, .some rfl, .some (by simp), .some (by simp), .inl ⟨rfl, rfl⟩,
        .inr .none⟩
    case governed =>
      refine .some ?_
      simp only [Likeness.all_cons, Likeness.all_nil, and_true]
      exact ⟨.some rfl, .some rfl, .some rfl, .some (by simp), .some (by simp),
        .inr (.some (.some (.some rfl))), .inl ⟨rfl, rfl⟩⟩
  exact ⟨h, ofJson_eq_of_alike h⟩

end Fragment

end TrustRouter
