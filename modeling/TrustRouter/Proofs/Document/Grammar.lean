import TrustRouter.Proofs.Document.Form
import TrustRouter.Proofs.Document.Truthfulness

/-!
# The form of a document

What a document's author has to write, as forms of values, and the proof that the decoders accept
exactly that (`Fragment.ofJson_accepts_exactly_form`).

* Where what an entity is decides which of its members are read, its form has two alternatives, and
  nothing is asked of the members that the alternative taken does not read: the servers of a remote
  realm, the interval of a community of interest.
* A constraint alone has at least one pattern. In a filter line an empty array stands for no
  constraint, so there the form is the wider one (`Constraint.form`).
* A threshold is any word, for no word is wrong.

Each decoder is compared with its form once, from what its `ofJson_eq_ok_iff` says. A decoder of
steps that do not depend on each other opens into one condition for each step.
-/

namespace TrustRouter

/-! ### Forms of entities -/

section Forms

open Json Json.Form

/-- The form of a test. -/
def FieldTest.form : Form := object [required "field" nonempty, required "match" nonempty]

/-- The form of a constraint. -/
def Constraint.form : Form := array (between 0 24) string

/-- The form of a filter line. -/
def FilterLine.form : Form := object [
  required "action" (oneOf ["accept", "reject"]),
  required "filter_specs" (array (between 1 8) FieldTest.form),
  optional "realm_constraints" Constraint.form,
  optional "domain_constraints" Constraint.form]

/-- The form of a filter. -/
def Filter.form : Form := object [
  required "type" (oneOf ["rp_permitted"]),
  required "filter_lines" (array (between 1 8) FilterLine.form)]

/-- The form of a client. -/
def RpClient.form : Form := object [
  required "gss_names" (array (between 1 5) string),
  required "filter" Filter.form]

/-- The form of a realm. Nothing is asked of the servers of a remote realm. -/
def IdpRealm.form : Form := object [
  optional "remote" number,
  required "realm_id" string,
  optional "apcs" (headed string),
  either
    (required "remote" nonzero)
    (all [required "shared_config" string, required "aaa_servers" (array (1 ≤ ·) string)])]

/-- The form of a community. Nothing is asked of the interval of a community of interest, nor of
the governing communities of a governing community. -/
def Community.Declaration.form : Form := object [
  required "community_id" string,
  required "apcs" (list any),
  required "idp_realms" (list string),
  required "rp_realms" (list string),
  either
    (all [required "type" (oneOf ["apc"]), optional "expiration_interval" integer])
    (all [required "type" (oneOf ["coi"]), required "apcs" (beginning string)])]

/-- The form of a logging section. -/
def Settings.loggingForm : Form := object [
  optional "log_threshold" string,
  optional "console_threshold" string]

/-- The form of settings. -/
def Settings.form : Form := object [
  optional "hostname" string,
  optional "logging" loggingForm,
  optional "max_tree_depth" (below UInt32.size),
  optional "tids_port" (below UInt16.size),
  optional "trps_port" (below UInt16.size),
  optional "cfg_poll_interval" (below UInt32.size),
  optional "cfg_settling_time" (below UInt32.size),
  optional "trp_connect_interval" (below UInt32.size),
  optional "trp_sweep_interval" (below UInt32.size),
  optional "trp_update_interval" (below UInt32.size)]

/-- The form of a document. -/
def Fragment.form : Form := object [
  optional "tr_internal" Settings.form,
  optional "rp_clients" (list RpClient.form),
  optional "idp_realms" (list IdpRealm.form),
  optional "default_servers" (list string),
  optional "communities" (list Community.Declaration.form)]

end Forms

/-! ### Acceptance -/

open Decoded
open Json (Form)

theorem Decoded.accepts_below {bound : ℕ} : Accepts (below bound) (Form.below bound) := by
  intro v
  simp only [below_eq_ok_iff, Form.below_iff]

theorem Decoded.accepts_uint16 : Accepts uint16 (Form.below UInt16.size) :=
  accepts_below.map UInt16.ofNat

theorem Decoded.accepts_uint32 : Accepts uint32 (Form.below UInt32.size) :=
  accepts_below.map UInt32.ofNat

theorem Severity.accepts_ofJson : Accepts ofJson Form.string :=
  accepts_string.map Severity.ofLabel

theorem Decoded.accepts_logging {defaults : Settings} :
    Accepts (logging defaults) Settings.loggingForm := by
  intro v
  simp only [logging, Except.exists_bind_eq_ok_iff, Except.pure_eq_ok_iff, exists_eq',
    and_true, exists_and_right, object_eq_ok_iff, Severity.accepts_ofJson.fieldD,
    Settings.loggingForm, Form.object_iff, Form.all_cons, Form.all_nil]

theorem Settings.accepts_ofJson : Accepts ofJson form := by
  intro v
  simp only [ofJson, Except.exists_bind_eq_ok_iff, Except.pure_eq_ok_iff, exists_eq', and_true,
    exists_and_right, object_eq_ok_iff, accepts_name.optional, accepts_logging.fieldD,
    accepts_uint16.fieldD, accepts_uint32.fieldD, form, Form.object_iff, Form.all_cons,
    Form.all_nil]

/-! ### Clients and filters -/

theorem FieldTest.accepts_ofJson : Accepts ofJson form := by
  intro v
  simp only [ofJson_eq_ok_iff, form, Form.object_iff, Form.all_cons, Form.all_nil, and_true,
    Form.required_iff, Form.nonempty_iff]
  constructor
  · rintro ⟨t, o, field, pattern, rfl, hfield, hf, hpattern, hp⟩
    have hfield_ne : field ≠ "" := by
      rw [ne_eq, ← Name.ofString_eq_empty_iff, hf]
      exact t.field_ne
    have hpattern_ne : pattern ≠ "" := by
      rw [ne_eq, ← Name.ofString_eq_empty_iff, hp]
      exact t.pattern_ne
    exact ⟨o, rfl, ⟨_, hfield, field, rfl, hfield_ne⟩, _, hpattern, pattern, rfl, hpattern_ne⟩
  · rintro ⟨o, rfl, ⟨_, hfield, field, rfl, hf⟩, _, hpattern, pattern, rfl, hp⟩
    rw [ne_eq, ← Name.ofString_eq_empty_iff] at hf hp
    exact ⟨⟨_, _, hf, hp⟩, o, field, pattern, rfl, hfield, rfl, hpattern, rfl⟩

/-- A constraint alone has at least one pattern. -/
theorem Constraint.accepts_ofJson (kind : ConstraintKind) :
    Accepts (ofJson kind) (Form.array (Form.between 1 24) Form.string) := by
  intro v
  simp only [ofJson_eq_ok_iff, Form.array_iff, ← Bool.and_eq_true,
    ← accepts_name.exists_bounded_forall₂_iff]
  constructor
  · rintro ⟨c, -, items, rfl, hpatterns⟩
    exact ⟨items, rfl, c.patterns, hpatterns⟩
  · rintro ⟨items, rfl, patterns, hpatterns⟩
    exact ⟨⟨kind, patterns⟩, rfl, items, rfl, hpatterns⟩

/-- In a filter line the array of patterns may be empty. -/
theorem Constraint.exists_ofField_iff {o : Json.Members} (kind : ConstraintKind) :
    (∃ c, ofField o kind = .ok c) ↔ Form.optional kind.field form o = true := by
  simp only [ofField_eq_ok_iff, Form.optional_iff, form, Form.array_iff]
  constructor
  · rintro ⟨c, ⟨hnone, -⟩ | ⟨items, hitems, hc⟩⟩
    · exact .inl hnone
    · refine .inr ⟨_, hitems, items, rfl, ?_⟩
      split at hc
      · next hnil =>
        subst hnil
        exact ⟨rfl, rfl⟩
      · obtain ⟨c', -, hc'⟩ := hc
        obtain ⟨_, ⟨⟩, hsize, hall⟩ := Form.array_iff.1 ((accepts_ofJson kind _).1 ⟨c', hc'⟩)
        exact ⟨decide_eq_true ⟨Nat.zero_le _, (of_decide_eq_true hsize).2⟩, hall⟩
  · rintro (hnone | ⟨_, hitems, items, rfl, hsize, hall⟩)
    · exact ⟨none, .inl ⟨hnone, rfl⟩⟩
    -- The forms differ in the empty array only, which the decoder never looks into.
    · by_cases hnil : items = []
      · exact ⟨none, .inr ⟨items, hitems, by rw [if_pos hnil]⟩⟩
      · have hpos : 1 ≤ items.length := List.length_pos_iff.2 hnil
        have hsize' : Form.between 1 24 items.length = true :=
          decide_eq_true ⟨hpos, (of_decide_eq_true hsize).2⟩
        obtain ⟨c, hc⟩ := (accepts_ofJson kind _).2 (Form.array_iff.2 ⟨items, rfl, hsize', hall⟩)
        exact ⟨some c, .inr ⟨items, hitems, by rw [if_neg hnil]; exact ⟨c, rfl, hc⟩⟩⟩

/-- The actions are the words for them. -/
theorem Action.exists_lookup_label_iff {o : Json.Members} {key : String} :
    (∃ action : Action, o.lookup key = some (.string action.label)) ↔
      Form.required key (Form.oneOf ["accept", "reject"]) o = true := by
  simp only [Form.required_iff, Form.oneOf_iff]
  constructor
  · rintro ⟨action, haction⟩
    exact ⟨_, haction, _, by cases action <;> simp [label], rfl⟩
  · rintro ⟨_, hword, word, hmem, rfl⟩
    rcases List.mem_pair.1 hmem with rfl | rfl
    · exact ⟨.accept, hword⟩
    · exact ⟨.reject, hword⟩

theorem FilterKind.exists_lookup_label_iff {o : Json.Members} {key : String} :
    (∃ kind : FilterKind, o.lookup key = some (.string kind.label)) ↔
      Form.required key (Form.oneOf ["rp_permitted"]) o = true := by
  simp only [Form.required_iff, Form.oneOf_iff]
  constructor
  · rintro ⟨kind, hkind⟩
    exact ⟨_, hkind, _, by cases kind; simp [label], rfl⟩
  · rintro ⟨_, hword, word, hmem, rfl⟩
    obtain rfl := List.mem_singleton.1 hmem
    exact ⟨.rpPermitted, hword⟩

theorem FilterLine.accepts_ofJson : Accepts ofJson form := by
  intro v
  simp only [ofJson_eq_ok_iff, form, Form.object_iff, Form.all_cons, Form.all_nil, and_true,
    ← Action.exists_lookup_label_iff, ← FieldTest.accepts_ofJson.exists_lookup_bounded_iff]
  constructor
  · rintro ⟨l, o, items, rfl, haction, hitems, htests, hrealms, hdomains⟩
    refine ⟨o, rfl, ⟨l.action, haction⟩, ⟨items, hitems, l.tests, htests⟩, ?_, ?_⟩
    · exact (Constraint.exists_ofField_iff .realm).1 ⟨_, hrealms⟩
    · exact (Constraint.exists_ofField_iff .domain).1 ⟨_, hdomains⟩
  · rintro ⟨o, rfl, ⟨action, haction⟩, ⟨items, hitems, tests, htests⟩, hrealms, hdomains⟩
    obtain ⟨realms, hrealms⟩ := (Constraint.exists_ofField_iff .realm).2 hrealms
    obtain ⟨domains, hdomains⟩ := (Constraint.exists_ofField_iff .domain).2 hdomains
    exact ⟨⟨action, tests, realms, domains⟩, o, items, rfl, haction, hitems, htests, hrealms,
      hdomains⟩

theorem Filter.accepts_ofJson : Accepts ofJson form := by
  intro v
  simp only [ofJson_eq_ok_iff, form, Form.object_iff, Form.all_cons, Form.all_nil, and_true,
    ← FilterKind.exists_lookup_label_iff, ← FilterLine.accepts_ofJson.exists_lookup_bounded_iff]
  constructor
  · rintro ⟨f, o, items, rfl, hkind, hitems, hlines⟩
    exact ⟨o, rfl, ⟨f.kind, hkind⟩, items, hitems, f.lines, hlines⟩
  · rintro ⟨o, rfl, ⟨kind, hkind⟩, items, hitems, lines, hlines⟩
    exact ⟨⟨kind, lines⟩, o, items, rfl, hkind, hitems, hlines⟩

theorem RpClient.accepts_ofJson : Accepts ofJson form := by
  intro v
  simp only [ofJson_eq_ok_iff, form, Form.object_iff, Form.all_cons, Form.all_nil, and_true,
    ← accepts_name.exists_lookup_bounded_iff, @Form.required_iff Filter.form,
    ← Filter.accepts_ofJson _]
  constructor
  · rintro ⟨c, o, items, value, rfl, hitems, hnames, hvalue, hfilter⟩
    exact ⟨o, rfl, ⟨items, hitems, c.names, hnames⟩, value, hvalue, c.filter, hfilter⟩
  · rintro ⟨o, rfl, ⟨items, hitems, names, hnames⟩, value, hvalue, filter, hfilter⟩
    exact ⟨⟨names, filter⟩, o, items, value, rfl, hitems, hnames, hvalue, hfilter⟩

/-! ### Realms -/

theorem AaaServer.accepts_ofJson : Accepts ofJson Form.string :=
  accepts_name.map AaaServer.mk

theorem Apc.accepts_ofJson : Accepts ofJson (Form.headed Form.string) := by
  intro v
  simp only [ofJson_eq_ok_iff, Form.headed_iff, ← accepts_name _]
  constructor
  · rintro ⟨apc, items, rfl, hrel⟩
    refine ⟨items, rfl, fun first hfirst ↦ ?_⟩
    rw [Option.mem_def.1 hfirst] at hrel
    obtain ⟨hid⟩ := hrel
    exact ⟨_, hid⟩
  · rintro ⟨items, rfl, h⟩
    cases hhead : items.head? with
    | none => exact ⟨none, items, rfl, hhead ▸ .none⟩
    | some first =>
      obtain ⟨id, hid⟩ := h first hhead
      exact ⟨some ⟨id⟩, items, rfl, hhead ▸ .some hid⟩

/-- The servers of a realm that is configured here. -/
theorem AaaServer.exists_listOfJson_ne_nil_iff {o : Json.Members} {key : String} :
    (∃ servers, field o key listOfJson = .ok servers ∧ servers ≠ []) ↔
      Form.required key (Form.array (1 ≤ ·) Form.string) o = true := by
  simp only [field_eq_ok_iff, listOfJson_eq_ok_iff, Form.required_array_iff, Bool.and_eq_true,
    ← accepts_ofJson.exists_forall₂_iff, decide_eq_true_eq]
  constructor
  · rintro ⟨servers, ⟨_, hlookup, items, rfl, hservers⟩, hne⟩
    refine ⟨items, hlookup, ?_, servers, hservers⟩
    rw [hservers.length_eq]
    exact List.length_pos_iff.2 hne
  · rintro ⟨items, hlookup, hpos, servers, hservers⟩
    rw [hservers.length_eq] at hpos
    exact ⟨servers, ⟨_, hlookup, items, rfl, hservers⟩, List.length_pos_iff.1 hpos⟩

namespace IdpRealm

variable {o : Json.Members}

/-- Whether a realm is remote is said by any number, or by none. -/
theorem exists_remote_iff :
    (∃ remote, fieldD o "remote" (fun v ↦ return !(← number v).isZero) false = .ok remote) ↔
      Form.optional "remote" Form.number o = true :=
  (accepts_number.map fun n ↦ !n.isZero).fieldD

/-- A realm is remote when a number other than zero says so. -/
theorem remote_iff :
    fieldD o "remote" (fun v ↦ return !(← number v).isZero) false = .ok true ↔
      Form.required "remote" Form.nonzero o = true := by
  simp only [fieldD_eq_ok_iff, Except.bind_eq_ok_iff, number, orRefuse_eq_ok_iff,
    Except.pure_eq_ok_iff, Bool.not_eq_true', Form.required_iff, Form.nonzero_iff, reduceCtorEq,
    and_false, false_or]

theorem accepts_ofJson : Accepts ofJson form := by
  intro v
  simp only [ofJson_eq_ok_iff, form, Form.object_iff, Form.all_cons, Form.all_nil, and_true,
    Form.either_iff]
  constructor
  · rintro ⟨r, o, remote, rfl, hremote, hid, hapc, horigin⟩
    refine ⟨o, rfl, exists_remote_iff.1 ⟨_, hremote⟩, accepts_name.field.1 ⟨_, hid⟩,
      Apc.accepts_ofJson.fieldD.1 ⟨_, hapc⟩, ?_⟩
    cases remote with
    | true => exact .inl (remote_iff.1 hremote)
    | false =>
      obtain ⟨shared, servers, ne_nil, hshared, hservers, -⟩ := horigin
      have haccepted := AaaServer.exists_listOfJson_ne_nil_iff.1 ⟨servers, hservers, ne_nil⟩
      exact .inr ⟨accepts_string.field.1 ⟨_, hshared⟩, haccepted⟩
  · rintro ⟨o, rfl, hremote, hid, hapc, horigin⟩
    obtain ⟨id, hid⟩ := accepts_name.field.2 hid
    obtain ⟨apc, hapc⟩ := Apc.accepts_ofJson.fieldD.2 hapc
    obtain ⟨remote, hremote⟩ := exists_remote_iff.2 hremote
    cases remote with
    | true => exact ⟨⟨id, apc, .remote⟩, o, true, rfl, hremote, hid, hapc, rfl⟩
    | false =>
      rcases horigin with hnonzero | ⟨hshared, hservers⟩
      · have hremote' := remote_iff.2 hnonzero
        rw [hremote] at hremote'
        cases hremote'
      · obtain ⟨shared, hshared⟩ := accepts_string.field.2 hshared
        obtain ⟨servers, hservers, ne_nil⟩ := AaaServer.exists_listOfJson_ne_nil_iff.2 hservers
        exact ⟨⟨id, apc, .configured (shared != "no") servers ne_nil⟩, o, false, rfl, hremote, hid,
          hapc, shared, servers, ne_nil, hshared, hservers, rfl⟩

end IdpRealm

/-! ### Communities -/

namespace Community

theorem accepts_expirationOfJson : Accepts expirationOfJson Form.integer := by
  rw [expirationOfJson_eq]
  exact accepts_orRefuse.map clampExpiration

variable {o : Json.Members} {apcs : List Json}

theorem exists_lookup_apcs_iff :
    (∃ apcs, o.lookup "apcs" = some (.array apcs)) ↔
      Form.required "apcs" (Form.list Form.any) o = true := by
  rw [Form.list, Form.required_array_iff]
  simp [Form.any]

/-- A label is that of a kind when what this kind is taken from is accepted. -/
theorem Kind.exists_takenFrom_iff (hapcs : o.lookup "apcs" = some (.array apcs)) :
    (∃ kind : Kind, o.lookup "type" = some (.string kind.label) ∧ kind.TakenFrom o apcs) ↔
      Form.either
        (Form.all [Form.required "type" (Form.oneOf ["apc"]),
          Form.optional "expiration_interval" Form.integer])
        (Form.all [Form.required "type" (Form.oneOf ["coi"]),
          Form.required "apcs" (Form.beginning Form.string)]) o = true := by
  simp only [Form.either_iff, Form.all_cons, Form.all_nil, and_true, Form.required_iff,
    Form.oneOf_iff, List.mem_singleton, Form.beginning_iff, ← accepts_name _,
    ← @Accepts.fieldD _ _ _ _ _ defaultExpiration accepts_expirationOfJson]
  constructor
  · rintro ⟨minutes | governing, hlabel, hkind⟩
    · exact .inl ⟨⟨_, hlabel, _, rfl, rfl⟩, minutes, hkind⟩
    · obtain ⟨first, hfirst, hid⟩ := hkind
      exact .inr ⟨⟨_, hlabel, _, rfl, rfl⟩, _, hapcs, apcs, first, rfl, hfirst, _, hid⟩
  · rintro (⟨⟨_, hlabel, _, rfl, rfl⟩, minutes, hkind⟩ | ⟨⟨_, hlabel, _, rfl, rfl⟩, _, hlookup, _,
      first, rfl, hfirst, id, hid⟩)
    · exact ⟨.apc minutes, hlabel, hkind⟩
    · cases hapcs.symm.trans hlookup
      exact ⟨.coi ⟨id⟩, hlabel, first, hfirst, hid⟩

theorem Declaration.accepts_ofJson : Accepts ofJson form := by
  intro v
  simp only [ofJson_eq_ok_iff, form, Form.object_iff, Form.all_cons, Form.all_nil, and_true,
    ← accepts_name.exists_lookup_forall₂_iff, ← exists_lookup_apcs_iff]
  constructor
  · rintro ⟨d, o, apcs, idps, rps, rfl, hid, hlabel, hapcs, hidpItems, hrpItems, hkind, hidps, hrps⟩
    refine ⟨o, rfl, accepts_name.field.1 ⟨_, hid⟩, ⟨apcs, hapcs⟩, ⟨idps, hidpItems, _, hidps⟩,
      ⟨rps, hrpItems, _, hrps⟩, ?_⟩
    exact (Kind.exists_takenFrom_iff hapcs).1 ⟨d.kind, hlabel, hkind⟩
  · rintro ⟨o, rfl, hid, ⟨apcs, hapcs⟩, ⟨idpItems, hidpItems, idps, hidps⟩,
      ⟨rpItems, hrpItems, rps, hrps⟩, hkind⟩
    obtain ⟨id, hid⟩ := accepts_name.field.2 hid
    obtain ⟨kind, hlabel, hkind⟩ := (Kind.exists_takenFrom_iff hapcs).2 hkind
    exact ⟨⟨id, kind, idps, rps⟩, o, apcs, idpItems, rpItems, rfl, hid, hlabel, hapcs, hidpItems,
      hrpItems, hkind, hidps, hrps⟩

end Community

/-! ### Documents -/

theorem Fragment.accepts_ofJson : Accepts ofJson form := by
  intro v
  simp only [ofJson, Except.exists_bind_eq_ok_iff, Except.pure_eq_ok_iff, exists_eq', and_true,
    exists_and_right, object_eq_ok_iff, Settings.accepts_ofJson.optional,
    RpClient.accepts_ofJson.list, IdpRealm.accepts_ofJson.list, AaaServer.accepts_ofJson.list,
    Community.Declaration.accepts_ofJson.list, form, Form.object_iff, Form.all_cons, Form.all_nil]

/-- **The form of a document is exactly what is accepted.** A value that has it is decoded. A value
that lacks it is malformed, and no rule of the model that it breaks makes it anything else. -/
theorem Fragment.ofJson_accepts_exactly_form (v : Json) :
    ((∃ f, ofJson v = .ok f) ↔ form v = true) ∧
    (form v = false ↔ ∃ fault, ofJson v = .error fault ∧
      (∀ document, (LoadError.ofFault document fault).kind = "no_parse") ∧
      ∀ e, fault.reason = .entity e →
        ∀ location, (LoadError.ofEntityError location e).kind = "no_parse") := by
  refine ⟨accepts_ofJson v, ?_⟩
  rw [← Bool.not_eq_true, ← accepts_ofJson v]
  constructor
  · intro h
    cases hv : ofJson v with
    | ok f => exact absurd ⟨f, hv⟩ h
    | error fault =>
      refine ⟨fault, rfl, fun _ ↦ rfl, fun e he location ↦ ?_⟩
      have hlocal : Reason.IsLocal (.entity e) := he ▸ isLocal_ofJson fault hv
      rw [LoadError.ofEntityError_of_isLocal hlocal]
      rfl
  · rintro ⟨fault, hfault, -⟩ ⟨f, hf⟩
    rw [hfault] at hf
    cases hf

/-- The servers of a remote realm are not looked at. -/
example : IdpRealm.form (.object [("realm_id", .string "a.test"),
    ("remote", .number (.ofUInt64 1)), ("aaa_servers", .null)]) = true := by
  rfl

/-- A later member counts instead of an earlier one with the same key. -/
example : Fragment.form (.object [("rp_clients", .array []), ("rp_clients", .null)]) = false := by
  rfl

end TrustRouter
