import TrustRouter.Proofs.Configuration.Merging
import TrustRouter.Proofs.Document.Entities
import TrustRouter.Proofs.Manager.History
import TrustRouter.Proofs.Text.Lossless

/-!
# Limits

What a user of a configuration may rely on without checking it again: sizes, kinds, ranges, the
presence of what is needed, and names that are texts. `Configuration.WithinLimits` says it of a
whole configuration and goes through its entities, each of which has its own limits.

Some of the limits are in the types and some are nowhere but in the decoders: that a constraint
stands in the place for its kind, that an interval has been brought into range, that a name was read
from a string. Settings, servers and declarations can be made without any check, so what is said
here of configurations holds of those that come from documents: of every one that is loaded, and so
of every one that a manager holds to which nothing else has been staged.
-/

namespace TrustRouter

/-! ### The limits -/

/-- A test has a field and a pattern. -/
structure FieldTest.WithinLimits (t : FieldTest) : Prop where
  field_ne : t.field ≠ .empty
  pattern_ne : t.pattern ≠ .empty
  field : t.field.IsText
  pattern : t.pattern.IsText

/-- A constraint in the place for a kind is of that kind and has one to twenty-four patterns. -/
structure Constraint.WithinLimits (kind : ConstraintKind) (c : Constraint) : Prop where
  kind_eq : c.kind = kind
  one_le : 1 ≤ c.patterns.toList.length
  le : c.patterns.toList.length ≤ 24
  patterns : ∀ pattern ∈ c.patterns.toList, pattern.IsText

/-- A filter line has one to eight tests. -/
structure FilterLine.WithinLimits (l : FilterLine) : Prop where
  one_le : 1 ≤ l.tests.toList.length
  le : l.tests.toList.length ≤ 8
  tests : ∀ t ∈ l.tests.toList, t.WithinLimits
  realms : ∀ c ∈ l.realms, c.WithinLimits .realm
  domains : ∀ c ∈ l.domains, c.WithinLimits .domain

/-- A filter has one to eight lines. -/
structure Filter.WithinLimits (f : Filter) : Prop where
  one_le : 1 ≤ f.lines.toList.length
  le : f.lines.toList.length ≤ 8
  lines : ∀ l ∈ f.lines.toList, l.WithinLimits

/-- A client has one to five names, of which the first is its primary one. -/
structure RpClient.WithinLimits (c : RpClient) : Prop where
  one_le : 1 ≤ c.names.toList.length
  le : c.names.toList.length ≤ 5
  primary : c.names.toList.head? = some c.primary
  names : ∀ name ∈ c.names.toList, name.IsText
  filter : c.filter.WithinLimits

/-- A realm that is configured here has servers; a remote one has none and is not shared. -/
structure IdpRealm.WithinLimits (r : IdpRealm) : Prop where
  id : r.id.IsText
  apc : ∀ governing ∈ r.apc, governing.id.IsText
  servers : ∀ s ∈ r.origin.servers, s.hostname.IsText
  configured : r.origin ≠ .remote → r.origin.servers ≠ []
  remote : r.origin = .remote → r.origin.servers = [] ∧ r.origin.shared = false

/-- The interval of a governing community is in range, and a community of interest has a governing
community. -/
structure Community.Kind.WithinLimits (kind : Kind) : Prop where
  expiration : ∀ minutes ∈ kind.expiration?, 11 ≤ minutes.toNat ∧ minutes.toNat ≤ 129600
  governed : kind.expiration? = none → ∃ governing, kind.apc? = some governing
  governing : ∀ governing ∈ kind.apc?, governing.id.IsText

/-- A declared community is of a kind within its limits, and all its names are texts. -/
structure Community.Declaration.WithinLimits (d : Declaration) : Prop where
  id : d.id.IsText
  kind : d.kind.WithinLimits
  idps : ∀ name ∈ d.idps, name.IsText
  rps : ∀ name ∈ d.rps, name.IsText

/-- A community is of a kind within its limits, and its names are texts, those of its members
included. -/
structure Community.WithinLimits (c : Community) : Prop where
  id : c.id.IsText
  kind : c.kind.WithinLimits
  members : ∀ m ∈ c.members, m.id.IsText
  rps : ∀ name ∈ c.rps, name.IsText

/-- What has been declared, as far as each declaration goes. -/
structure Draft.WithinLimits (d : Draft) : Prop where
  hostname : ∀ s ∈ d.settings, ∀ name ∈ s.hostname, name.IsText
  clients : ∀ c ∈ d.clients, c.WithinLimits
  realms : ∀ r ∈ d.realms, r.WithinLimits
  servers : ∀ s ∈ d.servers, s.hostname.IsText
  communities : ∀ c ∈ d.communities, c.WithinLimits

/-- A configuration has all that a router needs, and everything in it is within its limits. -/
structure Configuration.WithinLimits (c : Configuration) : Prop where
  hostname : ∃ name, c.settings.hostname = some name ∧ name ≠ .empty ∧ name.IsText
  clients_ne_nil : c.clients ≠ []
  communities_ne_nil : c.communities ≠ []
  realms_or_servers : c.realms ≠ [] ∨ c.servers ≠ []
  clients : ∀ client ∈ c.clients, client.WithinLimits
  realms : ∀ r ∈ c.realms, r.WithinLimits
  servers : ∀ s ∈ c.servers, s.hostname.IsText
  communities : ∀ community ∈ c.communities, community.WithinLimits

/-! ### What decoders make -/

namespace Decoded

variable {α : Type} {P : α → Prop} {decode : Json → Decoded α} {o : Json.Members} {key : String}

theorem isText_of_name {v : Json} {n : Name} (h : name v = .ok n) : n.IsText := by
  obtain ⟨s, -, rfl⟩ := name_eq_ok_iff.1 h
  exact Name.isText_ofString s

theorem forall_of_optional {a? : Option α} (h : optional o key decode = .ok a?)
    (hP : ∀ v a, decode v = .ok a → P a) : ∀ a ∈ a?, P a := by
  intro a ha
  rcases optional_eq_ok_iff.1 h with ⟨-, rfl⟩ | ⟨v, b, -, hb, rfl⟩
  · cases ha
  · cases ha
    exact hP v _ hb

theorem forall_of_list {l : List α} (h : list o key decode = .ok l)
    (hP : ∀ v a, decode v = .ok a → P a) : ∀ a ∈ l, P a := by
  rcases list_eq_ok_iff.1 h with ⟨-, rfl⟩ | ⟨items, -, hitems⟩
  · exact List.forall_mem_nil P
  · exact hitems.forall_right hP

end Decoded

open Decoded

variable {v : Json}

theorem FieldTest.withinLimits_of_ofJson {t : FieldTest} (h : ofJson v = .ok t) :
    t.WithinLimits := by
  obtain ⟨o, field, pattern, -, -, hfield, -, hpattern⟩ := ofJson_eq_ok_iff.1 h
  refine ⟨t.field_ne, t.pattern_ne, ?_, ?_⟩
  · rw [← hfield]
    exact Name.isText_ofString field
  · rw [← hpattern]
    exact Name.isText_ofString pattern

theorem Constraint.withinLimits_of_ofField {o : Json.Members} {kind : ConstraintKind}
    {c? : Option Constraint} (h : ofField o kind = .ok c?) : ∀ c ∈ c?, c.WithinLimits kind := by
  intro c hc
  rcases ofField_eq_ok_iff.1 h with ⟨-, rfl⟩ | ⟨items, -, hitems⟩
  · cases hc
  · split at hitems
    -- An empty array is no constraint, so the bound on patterns is never met by it.
    · subst hitems
      cases hc
    · obtain ⟨c', rfl, hc'⟩ := hitems
      obtain rfl : c' = c := Option.some.inj hc
      obtain ⟨hkind, _, -, hpatterns⟩ := ofJson_eq_ok_iff.1 hc'
      exact ⟨hkind, c'.patterns.one_le_length, c'.patterns.length_le,
        hpatterns.forall_right fun _ _ ↦ isText_of_name⟩

theorem FilterLine.withinLimits_of_ofJson {l : FilterLine} (h : ofJson v = .ok l) :
    l.WithinLimits := by
  obtain ⟨o, items, -, -, -, htests, hrealms, hdomains⟩ := ofJson_eq_ok_iff.1 h
  refine ⟨l.tests.one_le_length, l.tests.length_le, ?_, ?_, ?_⟩
  · exact htests.forall_right fun _ _ ↦ FieldTest.withinLimits_of_ofJson
  · exact Constraint.withinLimits_of_ofField hrealms
  · exact Constraint.withinLimits_of_ofField hdomains

theorem Filter.withinLimits_of_ofJson {f : Filter} (h : ofJson v = .ok f) : f.WithinLimits := by
  obtain ⟨o, items, -, -, -, hlines⟩ := ofJson_eq_ok_iff.1 h
  refine ⟨f.lines.one_le_length, f.lines.length_le, ?_⟩
  exact hlines.forall_right fun _ _ ↦ FilterLine.withinLimits_of_ofJson

theorem RpClient.withinLimits_of_ofJson {c : RpClient} (h : ofJson v = .ok c) :
    c.WithinLimits := by
  obtain ⟨o, items, value, -, -, hnames, -, hfilter⟩ := ofJson_eq_ok_iff.1 h
  refine ⟨c.names.one_le_length, c.names.length_le, ?_, ?_, Filter.withinLimits_of_ofJson hfilter⟩
  · rw [RpClient.primary, Bounded.head]
    exact List.head?_eq_some_head c.names.ne_nil
  · exact hnames.forall_right fun _ _ ↦ isText_of_name

theorem AaaServer.isText_of_ofJson {s : AaaServer} (h : ofJson v = .ok s) : s.hostname.IsText :=
  isText_of_name (ofJson_eq_ok_iff.1 h)

theorem Apc.isText_of_ofJson {apc : Option Apc} (h : ofJson v = .ok apc) :
    ∀ governing ∈ apc, governing.id.IsText := by
  obtain ⟨items, -, hrel⟩ := ofJson_eq_ok_iff.1 h
  intro governing hgoverning
  rw [Option.mem_def.1 hgoverning] at hrel
  generalize items.head? = first? at hrel
  cases hrel with
  | some hid => exact isText_of_name hid

theorem IdpRealm.withinLimits_of_ofJson {r : IdpRealm} (h : ofJson v = .ok r) :
    r.WithinLimits := by
  obtain ⟨o, remote, -, -, hid, hapc, horigin⟩ := ofJson_eq_ok_iff.1 h
  obtain ⟨_, -, hid⟩ := field_eq_ok_iff.1 hid
  have hapc : ∀ governing ∈ r.apc, governing.id.IsText := by
    rcases fieldD_eq_ok_iff.1 hapc with ⟨-, hnone⟩ | ⟨v, -, hv⟩
    · rw [hnone]
      rintro _ ⟨⟩
    · exact Apc.isText_of_ofJson hv
  split at horigin
  · refine ⟨isText_of_name hid, hapc, ?_, ?_, ?_⟩ <;> rw [horigin]
    · exact List.forall_mem_nil _
    · exact fun hne ↦ absurd rfl hne
    · exact fun _ ↦ ⟨rfl, rfl⟩
  · obtain ⟨shared, servers, ne_nil, -, hservers, horigin⟩ := horigin
    obtain ⟨_, -, hservers⟩ := field_eq_ok_iff.1 hservers
    obtain ⟨items, -, hservers⟩ := AaaServer.listOfJson_eq_ok_iff.1 hservers
    refine ⟨isText_of_name hid, hapc, ?_, ?_, ?_⟩ <;> rw [horigin]
    · exact hservers.forall_right fun _ _ ↦ AaaServer.isText_of_ofJson
    · exact fun _ ↦ ne_nil
    · intro hremote
      cases hremote

namespace Community

/-- A number of minutes is brought into range. -/
theorem clampExpiration_mem_range (minutes : Int) :
    11 ≤ (clampExpiration minutes).toNat ∧ (clampExpiration minutes).toNat ≤ 129600 := by
  have htoNat := toNat_clampExpiration minutes
  omega

theorem Kind.withinLimits_of_takenFrom {o : Json.Members} {apcs : List Json} {kind : Kind}
    (h : kind.TakenFrom o apcs) : kind.WithinLimits := by
  cases kind with
  | apc minutes =>
    have hrange : 11 ≤ minutes.toNat ∧ minutes.toNat ≤ 129600 := by
      rcases fieldD_eq_ok_iff.1 h with ⟨-, rfl⟩ | ⟨v, -, hv⟩
      · decide
      · obtain ⟨n, -, rfl⟩ := expirationOfJson_eq_ok_iff.1 hv
        exact clampExpiration_mem_range n
    refine ⟨?_, nofun, nofun⟩
    rintro _ ⟨⟩
    exact hrange
  | coi governing =>
    obtain ⟨first, -, hid⟩ := h
    refine ⟨nofun, fun _ ↦ ⟨governing, rfl⟩, ?_⟩
    rintro _ ⟨⟩
    exact isText_of_name hid

end Community

theorem Community.Declaration.withinLimits_of_ofJson {d : Declaration} (h : ofJson v = .ok d) :
    d.WithinLimits := by
  obtain ⟨o, apcs, idps, rps, -, hid, -, -, -, -, hkind, hidps, hrps⟩ := ofJson_eq_ok_iff.1 h
  obtain ⟨_, -, hid⟩ := field_eq_ok_iff.1 hid
  refine ⟨isText_of_name hid, Kind.withinLimits_of_takenFrom hkind, ?_, ?_⟩
  · exact hidps.forall_right fun _ _ ↦ isText_of_name
  · exact hrps.forall_right fun _ _ ↦ isText_of_name

theorem Settings.isText_of_ofJson {s : Settings} (h : ofJson v = .ok s) :
    ∀ n ∈ s.hostname, n.IsText := by
  obtain ⟨o, -, hhostname, -⟩ := ofJson_eq_ok_iff.1 h
  exact forall_of_optional hhostname fun _ _ ↦ isText_of_name

/-! ### What documents make -/

/-- Resolving leaves a community within the limits of its declaration. -/
theorem Community.Declaration.WithinLimits.resolve {d : Declaration} (h : d.WithinLimits)
    {realms : List IdpRealm} {c : Community} (hresolve : d.resolve realms = .ok c) :
    c.WithinLimits := by
  obtain ⟨hid, hkind, hrps, hmembers⟩ := resolve_eq_ok_iff.1 hresolve
  constructor
  · rw [hid]
    exact h.id
  · rw [hkind]
    exact h.kind
  · intro m hm
    obtain ⟨name, hname, hfind⟩ := hmembers.exists_left hm
    rw [(Member.find?_eq_some_iff.1 hfind).1]
    exact h.idps name hname
  · rw [hrps]
    exact h.rps

namespace Draft

variable {d : Draft}

theorem withinLimits_empty : empty.WithinLimits :=
  ⟨nofun, nofun, nofun, nofun, nofun⟩

/-- A section laid over others keeps their hostname or replaces it. -/
theorem WithinLimits.hostname_addSettings (h : d.WithinLimits) {later : Settings}
    (hlater : ∀ name ∈ later.hostname, name.IsText) :
    ∀ s ∈ (d.addSettings later).settings, ∀ name ∈ s.hostname, name.IsText := by
  rintro _ ⟨⟩
  cases hs : d.settings with
  | none => exact hlater
  | some s =>
    intro name hname
    rw [Option.elim_some, Settings.overlay, Option.orElse_eq_orElse, Option.orElse_eq_or] at hname
    rcases Option.or_eq_some_iff.1 hname with hname | ⟨-, hname⟩
    · exact hlater name hname
    · exact h.hostname s hs name hname

/-- **Merging one fragment** leaves all declarations within their limits. -/
theorem WithinLimits.merge (h : d.WithinLimits) {v : Json} {f : Fragment}
    (hf : Fragment.ofJson v = .ok f) : (d.merge f).WithinLimits := by
  obtain ⟨o, -, -, hsettings, hclients, hrealms, hservers, hcommunities⟩ :=
    Fragment.ofJson_eq_ok_iff.1 hf
  constructor
  · have hlater := forall_of_optional hsettings fun _ _ ↦ Settings.isText_of_ofJson
    intro s hs
    unfold Draft.merge at hs
    split at hs
    · exact h.hostname s hs
    · next later hf => exact h.hostname_addSettings (hlater later hf) s hs
  · exact List.forall_mem_append.2
      ⟨h.clients, forall_of_list hclients fun _ _ ↦ RpClient.withinLimits_of_ofJson⟩
  · exact List.forall_mem_append.2
      ⟨h.realms, forall_of_list hrealms fun _ _ ↦ IdpRealm.withinLimits_of_ofJson⟩
  · exact List.forall_mem_append.2
      ⟨h.servers, forall_of_list hservers fun _ _ ↦ AaaServer.isText_of_ofJson⟩
  · exact List.forall_mem_append.2
      ⟨h.communities,
        forall_of_list hcommunities fun _ _ ↦ Community.Declaration.withinLimits_of_ofJson⟩

/-- **Merging documents** one after the other does. -/
theorem WithinLimits.foldl_merge [Json.Diagnosis] (h : d.WithinLimits) {docs : List Document}
    {fragments : List Fragment}
    (hfragments : List.Forall₂ (fun doc f ↦ Document.fragment doc = .ok f) docs fragments) :
    (fragments.foldl Draft.merge d).WithinLimits := by
  induction hfragments generalizing d with
  | nil => exact h
  | cons hf _ ih =>
    obtain ⟨-, v, -, hv⟩ := Document.fragment_eq_ok_iff.1 hf
    exact ih (h.merge hv)

/-- What is not broken when no rule of completeness is. -/
theorem complete_of_issues (h : d.issues = []) :
    (∃ s name, d.settings = some s ∧ s.hostname = some name ∧ name ≠ .empty) ∧
      d.clients ≠ [] ∧ d.communities ≠ [] ∧ (d.realms ≠ [] ∨ d.servers ≠ []) := by
  simp only [issues, Issue.broken, List.append_eq_nil_iff, ite_eq_left_iff, ite_eq_right_iff,
    reduceCtorEq, imp_false, Bool.not_eq_true, Bool.not_eq_false, Nat.add_eq_zero_iff,
    List.length_eq_zero_iff] at h
  obtain ⟨⟨⟨hhostname, hclients⟩, hcommunities⟩, hservers⟩ := h
  obtain ⟨s, hs, hname⟩ := (Option.any_eq_true _ _).1 hhostname
  obtain ⟨name, hname, hne⟩ := (Option.any_eq_true _ _).1 hname
  rw [Bool.not_eq_true', ← Bool.not_eq_true, Name.isEmpty_iff] at hne
  exact ⟨⟨s, name, hs, hname, hne⟩, hclients, hcommunities,
    Classical.not_and_iff_not_or_not.1 hservers⟩

/-- **Building** puts declarations within their limits together to a configuration within its. -/
theorem WithinLimits.build (h : d.WithinLimits) {c : Configuration} (hbuild : d.build = .ok c) :
    c.WithinLimits := by
  have hcommunities := communities_of_build hbuild
  obtain ⟨hissues, hsettings, -, hclients, hrealms, hservers⟩ := build_eq_ok_iff.1 hbuild
  obtain ⟨⟨s, name, hs, hname, hne⟩, hclients_ne, hcommunities_ne, hserved⟩ :=
    complete_of_issues hissues
  obtain rfl : s = c.settings := Option.some.inj (hs.symm.trans hsettings)
  constructor
  · exact ⟨name, hname, hne, h.hostname _ hs name hname⟩
  · rwa [hclients, ne_eq, List.reverse_eq_nil_iff]
  · rwa [← List.length_pos_iff, ← hcommunities.length_eq, List.length_reverse, List.length_pos_iff]
  · rwa [hrealms, hservers, ne_eq, ne_eq, List.reverse_eq_nil_iff, List.reverse_eq_nil_iff]
  · intro client hclient
    rw [hclients, List.mem_reverse] at hclient
    exact h.clients client hclient
  · intro r hr
    rw [hrealms, List.mem_reverse] at hr
    exact h.realms r hr
  · intro s hs
    rw [hservers, List.mem_reverse] at hs
    exact h.servers s hs
  · intro community hcommunity
    obtain ⟨declared, hdeclared, hresolve⟩ := hcommunities.exists_left hcommunity
    exact (h.communities declared (List.mem_reverse.1 hdeclared)).resolve hresolve

end Draft

/-- What is loaded is within its limits. -/
theorem Configuration.withinLimits_of_load [Json.Diagnosis] {docs : List Document}
    {c : Configuration} (h : (load docs).result = .ok c) : c.WithinLimits := by
  obtain ⟨-, fragments, hfragments, hbuild⟩ := Draft.load_eq_ok_iff.1 h
  exact (Draft.withinLimits_empty.foldl_merge hfragments).build hbuild

namespace Manager

/-! ### What a manager holds -/

/-- What a manager holds is within its limits. -/
structure WithinLimits (m : Manager) : Prop where
  active : ∀ c ∈ m.active, c.WithinLimits
  staged : ∀ c ∈ m.staged, c.WithinLimits

theorem withinLimits_ofThresholds (thresholds : Thresholds) :
    (ofThresholds thresholds).WithinLimits :=
  ⟨nofun, nofun⟩

variable {m : Manager}

/-- **One operation** keeps what is held within its limits if what it stages is. -/
theorem WithinLimits.perform [Json.Diagnosis] (h : m.WithinLimits) {op : Operation}
    (hop : ∀ c ∈ op.staged?, c.WithinLimits) : (m.perform op).2.WithinLimits := by
  rcases m.perform_cases op with ⟨-, -, hm⟩ | ⟨-, -, hm⟩ | ⟨-, -, c, hinstalled, hm⟩
  · rwa [hm]
  · rw [hm]
    exact ⟨h.active, hop⟩
  -- What is installed has been staged before, or it has just been loaded.
  · have hc : c.WithinLimits := by
      cases op with
      | promote =>
        rw [perform_promote] at hinstalled
        cases hs : m.staged with
        | none =>
          rw [hs] at hinstalled
          cases hinstalled
        | some c' =>
          rw [hs] at hinstalled
          cases hinstalled
          exact h.staged c hs
      | reload docs =>
        cases hr : (m.reload docs).result with
        | error e =>
          rw [Manager.perform, hr] at hinstalled
          cases hinstalled
        | ok c' =>
          rw [Manager.perform, hr] at hinstalled
          cases hinstalled
          rw [m.reload_result] at hr
          exact Configuration.withinLimits_of_load hr
      | _ => cases hinstalled
    rw [hm]
    constructor
    · rintro _ ⟨⟩
      exact hc
    · rintro _ ⟨⟩

/-- **A run** does, by induction on its operations. -/
theorem WithinLimits.run [Json.Diagnosis] (h : m.WithinLimits) {ops : List Operation}
    (hops : ∀ op ∈ ops, ∀ c ∈ op.staged?, c.WithinLimits) : (m.run ops).2.WithinLimits := by
  induction ops generalizing m with
  | nil => exact h
  | cons op ops ih =>
    obtain ⟨hop, hops⟩ := List.forall_mem_cons.1 hops
    exact ih (h.perform hop) hops

/-- **Whatever documents make active is within its limits.** A configuration that is loaded is
complete, everything in it has its size, kind and range, and every name is a text. So is one that a
reload returns, on any manager, and one that is active after any operations on a manager that
started empty, provided that none of them stages a configuration from elsewhere; as a run may end
anywhere, this is every configuration that is ever active. -/
theorem withinLimits_of_documents [Json.Diagnosis] :
    (∀ docs c, (Configuration.load docs).result = .ok c → c.WithinLimits) ∧
    (∀ (m : Manager) docs c, (m.reload docs).result = .ok c → c.WithinLimits) ∧
    ∀ (initial : Thresholds) (ops : List Operation), (∀ c, .stage c ∉ ops) →
      ∀ c, ((ofThresholds initial).run ops).2.active = some c → c.WithinLimits := by
  refine ⟨fun docs c hc ↦ Configuration.withinLimits_of_load hc, fun m docs c hc ↦ ?_,
    fun initial ops hops c hc ↦ ?_⟩
  · rw [m.reload_result] at hc
    exact Configuration.withinLimits_of_load hc
  · refine ((withinLimits_ofThresholds initial).run fun op hop c' hc' ↦ ?_).active c hc
    cases op with
    | stage => exact absurd hop (hops _)
    | _ => cases hc'

theorem withinLimits_of_documents_referring :
    (∀ c, .stage c ∉ [Operation.discard, .reload [.referring, .declaring]]) ∧
    ∃ c, (Configuration.load [.referring, .declaring]).result = .ok c ∧ c.WithinLimits ∧
      ∀ initial, ((ofThresholds initial).run
        [.discard, .reload [.referring, .declaring]]).2.active = some c := by
  obtain ⟨c, hload⟩ : ∃ c, (Configuration.load [.referring, .declaring]).result = .ok c :=
    ⟨_, Draft.load_pair Document.fragment_referring Document.fragment_declaring rfl⟩
  -- Stated for any documents, or these would be loaded to compare two runs.
  have hactive : ∀ docs, (Configuration.load docs).result = .ok c → ∀ initial,
      ((ofThresholds initial).run [.discard, .reload docs]).2.active = some c :=
    fun docs h initial ↦ congrArg active ((ofThresholds initial).discard.reload_of_load_ok h).2
  exact ⟨by simp, c, hload, withinLimits_of_documents.1 _ _ hload, hactive _ hload⟩

end Manager

end TrustRouter
