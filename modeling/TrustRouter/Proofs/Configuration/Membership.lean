import TrustRouter.Configuration.Summary
import TrustRouter.Proofs.Configuration.Drafting
import TrustRouter.Proofs.Configuration.Loading
import TrustRouter.Proofs.Pointwise

/-! # Members of communities

A member of a community is kept as a name and a place in the list of realms, and whoever asks for
its realm takes the realm in that place, if it still has the name. Were a place wrong, the member
would silently be missing. It never is: building reverses the realms first and looks up the places
in the reversed list, which is the list of the configuration, so the place of a member holds the
realm that a lookup by its name finds (`Member.getElem?_slot`). By the reversal that is the realm
declared last under the name, no matter how many there are or where the community was declared.
-/

namespace TrustRouter

namespace Community

/-! ### Resolving -/

theorem Member.find?_eq_some_iff {realms : List IdpRealm} {id : Name} {m : Member} :
    find? realms id = some m ↔ m.id = id ∧ realms.findIdx? (·.id == id) = some m.slot := by
  obtain ⟨id', slot⟩ := m
  simp only [find?, Option.map_eq_some_iff, Member.mk.injEq]
  constructor
  · rintro ⟨_, hslot, rfl, rfl⟩
    exact ⟨rfl, hslot⟩
  · rintro ⟨rfl, hslot⟩
    exact ⟨slot, hslot, rfl, rfl⟩

/-- The place of a member holds the realm that a lookup by its name finds. -/
theorem Member.getElem?_slot {realms : List IdpRealm} {id : Name} {m : Member}
    (h : find? realms id = some m) : realms[m.slot]? = realms.find? (·.id == id) := by
  have hslot := (find?_eq_some_iff.1 h).2
  rw [List.find?_eq_bind_findIdx?_getElem?, hslot, Option.bind_some]

/-- A lookup by the name of a member finds a realm. -/
theorem Member.exists_realm {realms : List IdpRealm} {id : Name} {m : Member}
    (h : find? realms id = some m) : ∃ r, realms.find? (·.id == id) = some r := by
  obtain ⟨hslot, -⟩ := List.findIdx?_eq_some_iff_getElem.1 (find?_eq_some_iff.1 h).2
  exact ⟨realms[m.slot], by rw [← getElem?_slot h, List.getElem?_eq_getElem hslot]⟩

theorem Member.findAll_eq_ok_iff {realms : List IdpRealm} {ids : List Name}
    {members : List Member} :
    findAll realms ids = .ok members ↔
      List.Forall₂ (fun id m ↦ find? realms id = some m) ids members := by
  rw [findAll, Except.mapM_eq_ok_iff]
  have hiff : ∀ id m, (find? realms id).elim (.error id) .ok = (.ok m : Except Name Member) ↔
      find? realms id = some m := by
    intro id m
    cases find? realms id <;> simp
  simp only [hiff]

/-- A declaration resolves to a community that keeps all it says, and whose members are its realms,
one for one. -/
theorem Declaration.resolve_eq_ok_iff {d : Declaration} {realms : List IdpRealm} {c : Community} :
    d.resolve realms = .ok c ↔ c.id = d.id ∧ c.kind = d.kind ∧ c.rps = d.rps ∧
      List.Forall₂ (fun id m ↦ Member.find? realms id = some m) d.idps c.members := by
  rw [← Member.findAll_eq_ok_iff]
  unfold Declaration.resolve
  obtain ⟨id, kind, members, rps⟩ := c
  cases Member.findAll realms d.idps with
  | error realm => simp
  | ok members' =>
    simp only [Except.ok.injEq, Community.mk.injEq]
    constructor
    · rintro ⟨rfl, rfl, rfl, rfl⟩
      exact ⟨rfl, rfl, rfl, rfl⟩
    · rintro ⟨rfl, rfl, rfl, rfl⟩
      exact ⟨rfl, rfl, rfl, rfl⟩

end Community

namespace Configuration

open Community

/-! ### Members of a configuration -/

variable {c : Configuration}

/-- The realm of a member is there, and it is the one that a lookup finds. -/
theorem exists_memberRealm {id : Name} {m : Member} (h : Member.find? c.realms id = some m) :
    ∃ r, r.id = id ∧ c.memberRealm? m = some r ∧ c.realm? id = some r := by
  obtain ⟨r, hr⟩ := Member.exists_realm h
  have hid : r.id = id := by simpa using List.find?_some hr
  have hmember : m.id = id := (Member.find?_eq_some_iff.1 h).1
  refine ⟨r, hid, ?_, hr⟩
  rw [memberRealm?, Member.getElem?_slot h, hr, Option.filter_some, hmember,
    if_pos (by simpa using hid)]

/-- No member is dropped: the realms of a community are those of its names, one for one. By
induction along the names and the members they were resolved to. -/
theorem communityRealms_forall₂ {community : Community} {ids : List Name}
    (h : List.Forall₂ (fun id m ↦ Member.find? c.realms id = some m) ids community.members) :
    List.Forall₂ (fun id r ↦ r.id = id ∧ c.realm? id = some r) ids
      (c.communityRealms community) := by
  unfold communityRealms
  -- Any members will do; the induction leaves those of this community.
  generalize community.members = members at h
  induction h with
  | nil => exact .nil
  | cons hm _ ih =>
    obtain ⟨r, hid, hmember, hrealm⟩ := exists_memberRealm hm
    rw [List.filterMap_cons_some hmember]
    exact .cons ⟨hid, hrealm⟩ ih

/-- The summary of a community lists the names it was declared with. -/
theorem summarize_of_resolve {declared : Declaration} {community : Community}
    (h : declared.resolve c.realms = .ok community) :
    c.summarize community = ⟨declared.id, declared.kind, declared.idps, declared.rps⟩ := by
  obtain ⟨hid, hkind, hrps, hmembers⟩ := Declaration.resolve_eq_ok_iff.1 h
  have hidps : declared.idps = (c.communityRealms community).map (·.id) := by
    rw [← List.forall₂_eq_eq_eq, List.forall₂_map_right_iff]
    exact (communityRealms_forall₂ hmembers).imp fun _ _ hr ↦ hr.1.symm
  rw [summarize, hid, hkind, hrps, ← hidps]

end Configuration

namespace Draft

variable {d : Draft} {c : Configuration}

/-- The communities of a configuration are the declared ones, latest first, resolved against the
realms of the configuration. -/
theorem communities_of_build (h : d.build = .ok c) :
    List.Forall₂ (fun (declared : Community.Declaration) (community : Community) ↦
        declared.resolve c.realms = .ok community)
      d.communities.reverse c.communities := by
  obtain ⟨-, -, hr, -, hrealms, -⟩ := build_eq_ok_iff.1 h
  rw [hrealms]
  exact Except.mapM_eq_ok_iff.1 hr

/-- A lookup in a configuration finds the realm declared last under the name. -/
theorem realm?_of_build (h : d.build = .ok c) (id : Name) :
    c.realm? id = (d.realms.filter (·.id == id)).getLast? := by
  obtain ⟨-, -, -, -, hrealms, -⟩ := build_eq_ok_iff.1 h
  rw [Configuration.realm?, hrealms, List.getLast?_filter]

/-- **Referential integrity.** Whatever has been declared in whatever order, in a configuration that
was built from it every member of every community has a realm: the one that a lookup by the name
finds, which is the one declared last under it. So the realms of a community are those of the names
it was declared with, one for one and in that order, and the summary lists, for every community, the
names it was declared with. -/
theorem members_of_build {changes : List Change} (h : (ofChanges changes).build = .ok c) :
    (∀ community ∈ c.communities, ∀ m ∈ community.members, ∃ r,
      c.memberRealm? m = some r ∧ c.realm? m.id = some r ∧
        ((changes.flatMap Change.realms).filter (·.id == m.id)).getLast? = some r) ∧
    List.Forall₂ (fun (declared : Community.Declaration) community ↦
        List.Forall₂ (fun id r ↦
            ((changes.flatMap Change.realms).filter (·.id == id)).getLast? = some r)
          declared.idps (c.communityRealms community))
      (changes.flatMap Change.communities).reverse c.communities ∧
    c.summary.communities = (changes.flatMap Change.communities).reverse.map fun declared ↦
      ⟨declared.id, declared.kind, declared.idps, declared.rps⟩ := by
  obtain ⟨-, hrealms, -, hdeclared⟩ := lists_foldl_apply empty changes
  have hlast := realm?_of_build h
  have hresolved := communities_of_build h
  rw [ofChanges, hrealms] at hlast
  rw [ofChanges, hdeclared] at hresolved
  refine ⟨?_, ?_, ?_⟩
  · intro community hcommunity m hm
    obtain ⟨declared, -, hresolve⟩ := hresolved.exists_left hcommunity
    obtain ⟨-, -, -, hmembers⟩ := Community.Declaration.resolve_eq_ok_iff.1 hresolve
    obtain ⟨id, -, hfind⟩ := hmembers.exists_left hm
    obtain ⟨r, -, hmember, hrealm⟩ := Configuration.exists_memberRealm hfind
    rw [← (Community.Member.find?_eq_some_iff.1 hfind).1] at hrealm
    exact ⟨r, hmember, hrealm, hlast m.id ▸ hrealm⟩
  · refine hresolved.imp fun declared community hresolve ↦ ?_
    obtain ⟨-, -, -, hmembers⟩ := Community.Declaration.resolve_eq_ok_iff.1 hresolve
    exact (Configuration.communityRealms_forall₂ hmembers).imp fun id r hr ↦ hlast id ▸ hr.2
  · symm
    rw [Configuration.summary, ← List.forall₂_eq_eq_eq, List.forall₂_map_right_iff,
      List.forall₂_map_left_iff]
    exact hresolved.imp fun declared community hresolve ↦
      (Configuration.summarize_of_resolve hresolve).symm

/-- A community is declared before its realms and names one of them twice, and that realm is
declared twice. -/
def repeatedRealm : List Change :=
  [.settings { hostname := some ⟨[1]⟩ },
    .client ⟨⟨[⟨[2]⟩], nofun, by decide⟩, .rpPermitted, ⟨[⟨.reject, ⟨[⟨⟨[3]⟩, ⟨[3]⟩, by decide,
      by decide⟩], nofun, by decide⟩, none, none⟩], nofun, by decide⟩⟩,
    .community ⟨⟨[4]⟩, .apc Community.defaultExpiration, [⟨[5]⟩, ⟨[6]⟩, ⟨[5]⟩], [⟨[7]⟩]⟩,
    .realm ⟨⟨[5]⟩, none, .remote⟩,
    .fragment ⟨none, none, [], [⟨⟨[6]⟩, none, .remote⟩, ⟨⟨[5]⟩, some ⟨⟨[4]⟩⟩, .remote⟩], [], []⟩]

theorem members_of_build_repeatedRealm : ∃ c, (ofChanges repeatedRealm).build = .ok c ∧
    c.communities.map c.communityRealms = [[⟨⟨[5]⟩, some ⟨⟨[4]⟩⟩, .remote⟩, ⟨⟨[6]⟩, none, .remote⟩,
      ⟨⟨[5]⟩, some ⟨⟨[4]⟩⟩, .remote⟩]] ∧
    c.summary.communities.map (·.idps) = [[⟨[5]⟩, ⟨[6]⟩, ⟨[5]⟩]] := by
  have hbuild : (ofChanges repeatedRealm).build = .ok _ := rfl
  refine ⟨_, hbuild, rfl, ?_⟩
  rw [(members_of_build hbuild).2.2]
  rfl

end Draft

end TrustRouter
