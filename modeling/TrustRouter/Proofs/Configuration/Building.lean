import TrustRouter.Configuration.Basic
import TrustRouter.Proofs.Except

/-!
# Building and checking a draft

A draft can be checked for completeness as it stands, and it is checked again when it is built. The
two look at different things: `Draft.validate` counts what has been declared, `Draft.build` what the
configuration would hold, which is reversed and, as far as it is communities, resolved.

* Neither reversing nor resolving changes a number, so the two checks are one
  (`Draft.check_of_resolveCommunities`). Building can therefore be stated without its own check
  (`Draft.build_eq_ok_iff`, `Draft.build_error_cases`).
* Building resolves before it checks. A draft with an undeclared member is refused for that,
  whatever else is wrong with it; this is the only way in which building and checking come apart
  (`Draft.build_agrees_with_validate`).
* What is complete has settings, so building never lacks them.
-/

namespace TrustRouter

/-! ### Broken rules -/

namespace Issue

variable {settings : Option Settings} {clients communities sources : ℕ}

theorem check_eq_ok_iff :
    check settings clients communities sources = .ok () ↔
      broken settings clients communities sources = [] := by
  rw [check]
  cases broken settings clients communities sources <;> simp

/-- What is refused is refused with all the rules that it breaks, of which there is at least one. -/
theorem check_eq_error_iff {issues : List Issue} :
    check settings clients communities sources = .error issues ↔
      issues ≠ [] ∧ broken settings clients communities sources = issues := by
  rw [check]
  cases broken settings clients communities sources with
  | nil => simp [eq_comm]
  | cons issue rest =>
    simp only [Except.error.injEq, iff_and_self]
    rintro rfl
    exact List.cons_ne_nil _ _

/-- What breaks no rule has settings. -/
theorem exists_settings_of_broken (h : broken settings clients communities sources = []) :
    ∃ s, settings = some s := by
  cases settings with
  | none => simp [broken] at h
  | some s => exact ⟨s, rfl⟩

end Issue

/-! ### Resolving -/

namespace Community

/-- A declaration that cannot be resolved names a realm that is not there. -/
theorem Declaration.unknownRealm_of_resolve {d : Declaration} {realms : List IdpRealm}
    {e : EntityError} (h : d.resolve realms = .error e) :
    ∃ realm, Member.findAll realms d.idps = .error realm ∧ e = .unknownRealm d.id realm := by
  unfold Declaration.resolve at h
  split at h
  · cases h
  · next realm hr =>
    cases h
    exact ⟨realm, hr, rfl⟩

/-- A name has a reference exactly when some realm has it. -/
theorem Member.exists_find?_iff {realms : List IdpRealm} {id : Name} :
    (∃ m, ((find? realms id).elim (.error id) .ok : Except Name Member) = .ok m) ↔
      ∃ r ∈ realms, r.id = id := by
  have hsome : (find? realms id).isSome = true ↔ ∃ r ∈ realms, r.id = id := by
    rw [find?, Option.isSome_map, List.findIdx?_isSome, List.any_eq_true]
    simp only [beq_iff_eq]
  rw [← hsome]
  cases find? realms id <;> simp

/-- A declaration can be resolved exactly when every realm that it names is there. -/
theorem Declaration.exists_resolve_iff {d : Declaration} {realms : List IdpRealm} :
    (∃ c, d.resolve realms = .ok c) ↔ ∀ id ∈ d.idps, ∃ r ∈ realms, r.id = id := by
  simp only [← Member.exists_find?_iff]
  rw [← Except.exists_mapM_eq_ok_iff]
  show _ ↔ ∃ members, Member.findAll realms d.idps = .ok members
  rw [resolve]
  cases Member.findAll realms d.idps <;> simp

end Community

namespace Draft

variable {d : Draft} {communities : List Community}

/-- The communities of a draft can be resolved exactly when every realm that any of them names has
been declared. -/
theorem exists_resolveCommunities_iff :
    (∃ communities, d.resolveCommunities = .ok communities) ↔
      ∀ declared ∈ d.communities, ∀ id ∈ declared.idps, ∃ r ∈ d.realms, r.id = id := by
  rw [resolveCommunities, Except.exists_mapM_eq_ok_iff]
  simp only [List.mem_reverse, Community.Declaration.exists_resolve_iff]

/-- No community is lost in resolving. -/
theorem length_of_resolveCommunities (h : d.resolveCommunities = .ok communities) :
    communities.length = d.communities.length := by
  rw [Bounded.length_of_mapM h, List.length_reverse]

/-! ### Checking -/

theorem validate_eq_ok_iff : d.validate = .ok () ↔ d.issues = [] :=
  Issue.check_eq_ok_iff

theorem validate_eq_error_iff {issues : List Issue} :
    d.validate = .error issues ↔ issues ≠ [] ∧ d.issues = issues :=
  Issue.check_eq_error_iff

/-- **The two checks are one.** Once the communities are resolved, checking what the configuration
would hold is checking what has been declared. -/
theorem check_of_resolveCommunities (h : d.resolveCommunities = .ok communities) :
    Issue.check d.settings d.clients.reverse.length communities.length
      (d.realms.reverse.length + d.servers.reverse.length) = d.validate := by
  rw [validate, length_of_resolveCommunities h, List.length_reverse, List.length_reverse,
    List.length_reverse]

/-! ### Building -/

/-- A draft that breaks no rule has settings, so building it never lacks them. -/
theorem exists_settings_of_issues (h : d.issues = []) : ∃ settings, d.settings = some settings :=
  Issue.exists_settings_of_broken h

theorem build_of_resolve_error {e : EntityError} (h : d.resolveCommunities = .error e) :
    d.build = .error e := by
  rw [build, h]
  rfl

theorem build_of_incomplete (h : d.resolveCommunities = .ok communities) (hi : d.issues ≠ []) :
    d.build = .error (.incomplete d.issues) := by
  have hvalidate : d.validate = .error d.issues := validate_eq_error_iff.2 ⟨hi, rfl⟩
  rw [build, h]
  show Except.mapError _ (Issue.check ..) >>= _ = _
  rw [check_of_resolveCommunities h, hvalidate]
  rfl

theorem build_of_complete {settings : Settings} (h : d.resolveCommunities = .ok communities)
    (hi : d.issues = []) (hs : d.settings = some settings) :
    d.build = .ok ⟨settings, d.clients.reverse, d.realms.reverse, d.servers.reverse,
      communities⟩ := by
  rw [build, h]
  show Except.mapError _ (Issue.check ..) >>= _ = _
  rw [check_of_resolveCommunities h, validate_eq_ok_iff.2 hi, hs]
  rfl

/-- **What a configuration is made of.** A draft builds exactly when it breaks no rule and all its
communities can be resolved; the lists of the configuration are those of the draft, reversed. -/
theorem build_eq_ok_iff {c : Configuration} :
    d.build = .ok c ↔ d.issues = [] ∧ d.settings = some c.settings ∧
      d.resolveCommunities = .ok c.communities ∧ c.clients = d.clients.reverse ∧
      c.realms = d.realms.reverse ∧ c.servers = d.servers.reverse := by
  constructor
  · intro h
    cases hr : d.resolveCommunities with
    | error e =>
      rw [build_of_resolve_error hr] at h
      cases h
    | ok communities =>
      by_cases hi : d.issues = []
      · obtain ⟨settings, hs⟩ := exists_settings_of_issues hi
        rw [build_of_complete hr hi hs] at h
        cases h
        exact ⟨hi, hs, rfl, rfl, rfl, rfl⟩
      · rw [build_of_incomplete hr hi] at h
        cases h
  · rintro ⟨hi, hs, hr, hclients, hrealms, hservers⟩
    rw [build_of_complete hr hi hs, ← hclients, ← hrealms, ← hservers]

/-- A draft that cannot be built has a community with an unknown member, or it is not complete. -/
theorem build_error_cases {e : EntityError} (h : d.build = .error e) :
    (∃ community realm, e = .unknownRealm community realm) ∨
      d.issues ≠ [] ∧ e = .incomplete d.issues := by
  cases hr : d.resolveCommunities with
  | error e' =>
    rw [build_of_resolve_error hr] at h
    cases h
    obtain ⟨declaration, -, he⟩ := Except.exists_of_mapM_eq_error hr
    obtain ⟨realm, -, rfl⟩ := Community.Declaration.unknownRealm_of_resolve he
    exact .inl ⟨_, realm, rfl⟩
  | ok communities =>
    by_cases hi : d.issues = []
    · obtain ⟨settings, hs⟩ := exists_settings_of_issues hi
      rw [build_of_complete hr hi hs] at h
      cases h
    · rw [build_of_incomplete hr hi] at h
      cases h
      exact .inr ⟨hi, rfl⟩

/-- **Building and checking agree.** A draft builds exactly when it passes the check and every realm
that a community names has been declared. What building finds incomplete the check finds incomplete
by the same rules, at least one, and what the check finds incomplete is refused by building too, for
the same rules or for an undeclared realm. Whenever building has resolved the communities and passed
its own check, there are settings to build from. -/
theorem build_agrees_with_validate (d : Draft) :
    ((∃ c, d.build = .ok c) ↔ d.validate = .ok () ∧
      ∀ declared ∈ d.communities, ∀ id ∈ declared.idps, ∃ r ∈ d.realms, r.id = id) ∧
    (∀ issues, d.build = .error (.incomplete issues) →
      d.validate = .error issues ∧ issues ≠ []) ∧
    (∀ issues, d.validate = .error issues → d.build = .error (.incomplete issues) ∨
      ∃ community realm, d.build = .error (.unknownRealm community realm)) ∧
    ∀ communities, d.resolveCommunities = .ok communities →
      Issue.check d.settings d.clients.reverse.length communities.length
        (d.realms.reverse.length + d.servers.reverse.length) = .ok () →
      d.settings ≠ none := by
  refine ⟨?_, ?_, ?_, ?_⟩
  · rw [validate_eq_ok_iff, ← exists_resolveCommunities_iff]
    constructor
    · rintro ⟨c, hc⟩
      obtain ⟨hissues, -, hresolve, -⟩ := build_eq_ok_iff.1 hc
      exact ⟨hissues, c.communities, hresolve⟩
    · rintro ⟨hissues, communities, hresolve⟩
      obtain ⟨settings, hsettings⟩ := exists_settings_of_issues hissues
      exact ⟨_, build_of_complete hresolve hissues hsettings⟩
  · intro issues h
    rcases build_error_cases h with ⟨community, realm, he⟩ | ⟨hne, he⟩
    · cases he
    · obtain rfl : issues = d.issues := EntityError.incomplete.inj he
      exact ⟨validate_eq_error_iff.2 ⟨hne, rfl⟩, hne⟩
  · intro issues h
    obtain ⟨hne, rfl⟩ := validate_eq_error_iff.1 h
    cases hbuild : d.build with
    | ok c => exact absurd (build_eq_ok_iff.1 hbuild).1 hne
    | error e =>
      rcases build_error_cases hbuild with ⟨community, realm, rfl⟩ | ⟨-, rfl⟩
      · exact .inr ⟨community, realm, rfl⟩
      · exact .inl rfl
  · intro communities _ hcheck hnone
    obtain ⟨settings, hsettings⟩ := Issue.exists_settings_of_broken (Issue.check_eq_ok_iff.1 hcheck)
    rw [hnone] at hsettings
    cases hsettings

end Draft

end TrustRouter
