import Mathlib.Data.List.Lattice
import TrustRouter.Proofs.Configuration.Refusal

/-! # The order of documents

Of two documents that declare the same, the later counts, so in general their order matters. It does
not where documents are **independent**: no two of them give settings or declare a realm, a name of
a client or a community that the other declares too. Put in another order, such documents are
refused with the same kind of error or make configurations that answer alike (`Draft.load_perm`).

The two runs do not have much in common otherwise. Lists come in another order, members refer to
other places, and another of several faults may be reported. What they share is **rearranged**
drafts: the same settings, the same declarations in some order, and under every name the same last
declaration.
-/

namespace List.Perm

variable {α β : Type} {l l' : List α}

/-- Blocks are put in another order. If all that passes is in one block, though this may occur more
than once, the last that passes stays the same. -/
theorem getLast?_filter_flatMap {f : α → List β} {p : β → Bool} (h : l.Perm l')
    (hone : ∀ a ∈ l, ∀ a' ∈ l, a ≠ a' → (f a).filter p = [] ∨ (f a').filter p = []) :
    ((l.flatMap f).filter p).getLast? = ((l'.flatMap f).filter p).getLast? := by
  induction h with
  | nil => rfl
  | cons a _ ih =>
    rw [flatMap_cons, flatMap_cons, filter_append, filter_append, getLast?_append, getLast?_append,
      ih fun b hb b' hb' ↦ hone b (mem_cons_of_mem a hb) b' (mem_cons_of_mem a hb')]
  | swap a b l =>
    simp only [flatMap_cons, filter_append, getLast?_append]
    by_cases hab : a = b
    · rw [hab]
    · -- One of the two blocks has nothing that passes, so it does not matter which is first.
      rcases hone a (by simp) b (by simp) hab with h | h <;> rw [h] <;> simp
  | trans h₁ _ ih₁ ih₂ =>
    rw [ih₁ hone, ih₂ fun a ha a' ha' ↦ hone a (h₁.mem_iff.2 ha) a' (h₁.mem_iff.2 ha')]

end List.Perm

/-- Where all that passes in two lists goes by one name, and they have no name in common, nothing
passes in one of them. -/
theorem List.Disjoint.filter_eq_nil_or {α β : Type} {names names' : List β} {l l' : List α}
    {p : α → Bool} {name : β} (h : Disjoint names names')
    (hp : ∀ a ∈ l, p a = true → name ∈ names) (hp' : ∀ a ∈ l', p a = true → name ∈ names') :
    l.filter p = [] ∨ l'.filter p = [] := by
  by_contra hboth
  obtain ⟨hl, hl'⟩ := not_or.1 hboth
  obtain ⟨a, ha⟩ := exists_mem_of_ne_nil _ hl
  obtain ⟨a', ha'⟩ := exists_mem_of_ne_nil _ hl'
  obtain ⟨ha, hpa⟩ := mem_filter.1 ha
  obtain ⟨ha', hpa'⟩ := mem_filter.1 ha'
  exact h (hp a ha hpa) (hp' a' ha' hpa')

/-- Blocks behind a list are put in another order. If all that passes goes by one name, and no two
blocks have a name in common, the last that passes stays the same. -/
theorem List.Perm.getLast?_filter_named {α β γ : Type} {l l' : List α} (h : l.Perm l')
    (front : List β) {f : α → List β} {names : α → List γ} {p : β → Bool} {name : γ}
    (hp : ∀ a, ∀ b ∈ f a, p b = true → name ∈ names a)
    (hapart : ∀ a ∈ l, ∀ a' ∈ l, a ≠ a' → Disjoint (names a) (names a')) :
    ((front ++ l.flatMap f).filter p).getLast? = ((front ++ l'.flatMap f).filter p).getLast? := by
  rw [filter_append, filter_append, getLast?_append, getLast?_append,
    h.getLast?_filter_flatMap fun a ha a' ha' hne ↦
      (hapart a ha a' ha' hne).filter_eq_nil_or (hp a) (hp a')]

/-- Two results are related if both or none exist and what exists is related. -/
theorem Option.rel_of_isSome_eq {α β : Type} {R : α → β → Prop} {a? : Option α} {b? : Option β}
    (h : a?.isSome = b?.isSome) (hR : ∀ a b, a? = some a → b? = some b → R a b) :
    Option.Rel R a? b? := by
  cases a? with
  | none =>
    cases b? with
    | none => exact .none
    | some b => cases h
  | some a =>
    cases b? with
    | none => cases h
    | some b => exact .some (hR a b rfl rfl)

theorem Option.Rel.or {α β : Type} {R : α → β → Prop} {a a' : Option α} {b b' : Option β}
    (h : Option.Rel R a b) (h' : Option.Rel R a' b') : Option.Rel R (a.or a') (b.or b') := by
  cases h with
  | none => exact h'
  | some hab => exact .some hab

namespace TrustRouter

/-! ### Independent documents -/

/-- Two fragments declare nothing in common: at most one gives settings, and no realm, no name of a
client and no community is declared by both. -/
structure Fragment.Apart (f f' : Fragment) : Prop where
  settings : f.settings = none ∨ f'.settings = none
  realms : List.Disjoint (f.realms.map (·.id)) (f'.realms.map (·.id))
  clients : List.Disjoint (f.clients.flatMap (·.names.toList)) (f'.clients.flatMap (·.names.toList))
  communities : List.Disjoint (f.communities.map (·.id)) (f'.communities.map (·.id))

theorem Fragment.Apart.symm {f f' : Fragment} (h : f.Apart f') : f'.Apart f :=
  ⟨h.settings.symm, h.realms.symm, h.clients.symm, h.communities.symm⟩

/-- Different documents declare nothing in common. One document may well occur several times, and
what it declares may be repeated in it. -/
def Document.Independent [Json.Diagnosis] (docs : List Document) : Prop :=
  ∀ doc ∈ docs, ∀ doc' ∈ docs, doc ≠ doc' →
    ∀ f f', doc.fragment = .ok f → doc'.fragment = .ok f' → f.Apart f'

theorem Document.mem_fragments_iff [Json.Diagnosis] {docs : List Document} {f : Fragment} :
    f ∈ fragments docs ↔ ∃ doc ∈ docs, doc.fragment = .ok f := by
  rw [fragments, List.mem_filterMap]
  refine exists_congr fun doc ↦ and_congr_right fun _ ↦ ?_
  cases doc.fragment <;> simp [Except.toOption]

theorem Document.Independent.apart [Json.Diagnosis] {docs : List Document} (h : Independent docs)
    {f f' : Fragment} (hf : f ∈ fragments docs) (hf' : f' ∈ fragments docs) (hne : f ≠ f') :
    f.Apart f' := by
  obtain ⟨doc, hdoc, hok⟩ := mem_fragments_iff.1 hf
  obtain ⟨doc', hdoc', hok'⟩ := mem_fragments_iff.1 hf'
  refine h doc hdoc doc' hdoc' (fun heq ↦ hne ?_) f f' hok hok'
  rw [heq, hok'] at hok
  exact (Except.ok.inj hok).symm

/-- Two documents are independent if their fragments have nothing in common. -/
theorem Document.Independent.pair [Json.Diagnosis] {doc doc' : Document} {f f' : Fragment}
    (hf : doc.fragment = .ok f) (hf' : doc'.fragment = .ok f') (h : f.Apart f') :
    Independent [doc, doc'] := by
  intro a ha b hb hne g g' hg hg'
  rw [List.mem_pair] at ha hb
  rcases ha with rfl | rfl <;> rcases hb with rfl | rfl
  · exact absurd rfl hne
  · rw [hf] at hg
    rw [hf'] at hg'
    cases hg
    cases hg'
    exact h
  · rw [hf'] at hg
    rw [hf] at hg'
    cases hg
    cases hg'
    exact h.symm
  · exact absurd rfl hne

namespace Draft

/-! ### Rearranged drafts -/

/-- Two drafts have the same settings and the same declarations, though in another order, and under
every name the last declaration is the same. -/
structure Rearranged (d d' : Draft) : Prop where
  settings : d.settings = d'.settings
  clients : d.clients.Perm d'.clients
  realms : d.realms.Perm d'.realms
  servers : d.servers.Perm d'.servers
  communities : d.communities.Perm d'.communities
  client (name : Name) :
    (d.clients.filter (·.isNamed name)).getLast? = (d'.clients.filter (·.isNamed name)).getLast?
  realm (id : Name) :
    (d.realms.filter (·.id == id)).getLast? = (d'.realms.filter (·.id == id)).getLast?
  community (id : Name) :
    (d.communities.filter (·.id == id)).getLast? = (d'.communities.filter (·.id == id)).getLast?

/-- The sections of independent fragments do not change with their order: all come from one
fragment. -/
theorem filterMap_settings_perm {fragments fragments' : List Fragment}
    (h : fragments.Perm fragments')
    (hapart : ∀ f ∈ fragments, ∀ f' ∈ fragments, f ≠ f' → f.Apart f') :
    fragments.filterMap (·.settings) = fragments'.filterMap (·.settings) := by
  have hsections := h.filterMap (·.settings)
  -- A list without two different elements is sorted by the relation that always holds.
  have hsorted : ∀ sections : List Settings, sections.Pairwise fun _ _ ↦ True :=
    fun _ ↦ List.pairwise_of_forall fun _ _ ↦ trivial
  refine hsections.eq_of_pairwise (fun s s' hs hs' _ _ ↦ ?_) (hsorted _) (hsorted _)
  obtain ⟨f, hf, hfs⟩ := List.mem_filterMap.1 hs
  obtain ⟨f', hf', hfs'⟩ := List.mem_filterMap.1 (hsections.mem_iff.2 hs')
  by_cases heq : f = f'
  · rw [heq, hfs'] at hfs
    exact (Option.some.inj hfs).symm
  · rcases (hapart f hf f' hf' heq).settings with hnone | hnone
    · rw [hnone] at hfs
      cases hfs
    · rw [hnone] at hfs'
      cases hfs'

/-- Independent documents in another order extend a draft to a rearranged one. -/
theorem Rearranged.extend [Json.Diagnosis] (d : Draft) {docs docs' : List Document}
    (hperm : docs.Perm docs') (hindependent : Document.Independent docs) :
    (d.extend (Document.fragments docs)).Rearranged (d.extend (Document.fragments docs')) := by
  have hfragments : (Document.fragments docs).Perm (Document.fragments docs') := hperm.filterMap _
  have hapart : ∀ f ∈ Document.fragments docs, ∀ f' ∈ Document.fragments docs,
      f ≠ f' → f.Apart f' := fun _ hf _ hf' hne ↦ hindependent.apart hf hf' hne
  constructor
  · rw [Draft.extend, Draft.extend, filterMap_settings_perm hfragments hapart]
  · exact (hfragments.flatMap_right _).append_left _
  · exact (hfragments.flatMap_right _).append_left _
  · exact (hfragments.flatMap_right _).append_left _
  · exact (hfragments.flatMap_right _).append_left _
  · intro name
    have hnamed : ∀ f : Fragment, ∀ c ∈ f.clients, c.isNamed name = true →
        name ∈ f.clients.flatMap (·.names.toList) :=
      fun f c hc hname ↦ List.mem_flatMap.2 ⟨c, hc, List.contains_iff_mem.1 hname⟩
    exact hfragments.getLast?_filter_named _ hnamed fun f hf f' hf' hne ↦
      (hapart f hf f' hf' hne).clients
  · intro id
    have hnamed : ∀ f : Fragment, ∀ r ∈ f.realms, (r.id == id) = true → id ∈ f.realms.map (·.id) :=
      fun f r hr hid ↦ List.mem_map.2 ⟨r, hr, eq_of_beq hid⟩
    exact hfragments.getLast?_filter_named _ hnamed fun f hf f' hf' hne ↦
      (hapart f hf f' hf' hne).realms
  · intro id
    have hnamed : ∀ f : Fragment, ∀ c ∈ f.communities, (c.id == id) = true →
        id ∈ f.communities.map (·.id) :=
      fun f c hc hid ↦ List.mem_map.2 ⟨c, hc, eq_of_beq hid⟩
    exact hfragments.getLast?_filter_named _ hnamed fun f hf f' hf' hne ↦
      (hapart f hf f' hf' hne).communities

variable {d d' : Draft}

/-! ### What rearranged drafts have in common -/

/-- A rearranged draft breaks the same rules. -/
theorem Rearranged.brokenBy (h : d.Rearranged d') (issue : Issue) :
    issue.brokenBy d = issue.brokenBy d' := by
  cases issue with
  | missingHostname => rw [Issue.brokenBy, Issue.brokenBy, h.settings]
  | noClients => exact h.clients.isEmpty_eq
  | noCommunities => exact h.communities.isEmpty_eq
  | noServers =>
    rw [Issue.brokenBy, Issue.brokenBy, h.realms.isEmpty_eq, h.servers.isEmpty_eq]

/-- The same references to undeclared realms are in a rearranged draft. -/
theorem Rearranged.dangling (h : d.Rearranged d') : d.dangling.Perm d'.dangling := by
  have hundeclared : ∀ c : Community.Declaration,
      c.undeclared? d.realms = c.undeclared? d'.realms := by
    intro c
    simp only [Community.Declaration.undeclared?, h.realms.any_eq]
  simp only [Draft.dangling, hundeclared]
  exact h.communities.filterMap _

end Draft

/-! ### Errors -/

/-- Two errors are of one kind, and report the same if it is that something is missing. -/
def LoadError.Alike (e e' : LoadError) : Prop :=
  e.kind = e'.kind ∧ ∀ issues, e = .incomplete issues ↔ e' = .incomplete issues

theorem LoadError.Alike.refl (e : LoadError) : e.Alike e := ⟨rfl, fun _ ↦ .rfl⟩

namespace Draft

/-- Documents that cannot be decoded are refused alike, whichever comes first. -/
theorem error?_fragment_perm [Json.Diagnosis] {docs docs' : List Document}
    (hperm : docs.Perm docs') :
    Option.Rel LoadError.Alike (docs.findSome? fun doc ↦ doc.fragment.error?)
      (docs'.findSome? fun doc ↦ doc.fragment.error?) := by
  have hsome : ∀ docs : List Document, ∀ e,
      (docs.findSome? fun doc ↦ doc.fragment.error?) = some e →
        ∃ location reason, e = .malformed location reason := by
    intro docs e he
    obtain ⟨doc, -, hdoc⟩ := List.exists_of_findSome?_eq_some he
    obtain ⟨path, reason, rfl⟩ := Document.malformed_of_fragment (Except.error?_eq_some_iff.1 hdoc)
    exact ⟨_, reason, rfl⟩
  refine Option.rel_of_isSome_eq ?_ fun e e' he he' ↦ ?_
  · rw [Bool.eq_iff_iff, List.findSome?_isSome_iff, List.findSome?_isSome_iff]
    exact exists_congr fun doc ↦ and_congr_left fun _ ↦ hperm.mem_iff
  · obtain ⟨location, reason, rfl⟩ := hsome docs e he
    obtain ⟨location', reason', rfl⟩ := hsome docs' e' he'
    exact ⟨rfl, fun issues ↦ by simp⟩

/-- Independent documents are refused alike in any order. -/
theorem refusal?_perm [Json.Diagnosis] (d : Draft) {docs docs' : List Document}
    (hperm : docs.Perm docs') (hindependent : Document.Independent docs) :
    Option.Rel LoadError.Alike (d.refusal? docs) (d.refusal? docs') := by
  have h := Rearranged.extend d hperm hindependent
  refine .or ?_ (.or (error?_fragment_perm hperm) (.or ?_ ?_))
  · by_cases hdocs : docs = []
    · subst hdocs
      obtain rfl := hperm.nil_eq
      exact .some (.refl _)
    · rw [if_neg hdocs, if_neg fun hdocs' ↦ hdocs (hdocs' ▸ hperm).eq_nil]
      exact .none
  · refine Option.rel_of_isSome_eq ?_ fun e e' he he' ↦ ?_
    · rw [Option.isSome_map, Option.isSome_map, Bool.eq_iff_iff, List.getLast?_isSome,
        List.getLast?_isSome, not_iff_not]
      exact ⟨fun hnil ↦ (hnil ▸ h.dangling.symm).eq_nil, fun hnil ↦ (hnil ▸ h.dangling).eq_nil⟩
    · obtain ⟨_, -, rfl⟩ := Option.map_eq_some_iff.1 he
      obtain ⟨_, -, rfl⟩ := Option.map_eq_some_iff.1 he'
      exact ⟨rfl, fun issues ↦ by simp⟩
  · have hissues : Issue.all.filter (·.brokenBy (d.extend (Document.fragments docs))) =
        Issue.all.filter (·.brokenBy (d.extend (Document.fragments docs'))) :=
      List.filter_congr fun issue _ ↦ h.brokenBy issue
    rw [hissues]
    cases Issue.all.filter (·.brokenBy (d.extend (Document.fragments docs'))) with
    | nil => exact .none
    | cons issue issues => exact .some (.refl _)

end Draft

/-! ### Configurations -/

namespace Configuration

/-- A community of one configuration is that of another: it says the same, and its members have the
same names and stand for the same realms. -/
structure SameCommunity (c c' : Configuration) (community community' : Community) : Prop where
  id : community.id = community'.id
  kind : community.kind = community'.kind
  rps : community.rps = community'.rps
  members : List.Forall₂ (fun m m' ↦ m.id = m'.id ∧
      ∃ r, c.memberRealm? m = some r ∧ c'.memberRealm? m' = some r)
    community.members community'.members

/-- Two configurations answer alike: they have the same settings, and under every name they find the
same realm, the same client and the same community. -/
structure Agree (c c' : Configuration) : Prop where
  settings : c.settings = c'.settings
  realm (id : Name) : c.realm? id = c'.realm? id
  client (name : Name) : c.client? name = c'.client? name
  community (id : Name) : Option.Rel (SameCommunity c c') (c.community? id) (c'.community? id)

/-- A declaration means the same wherever the realms are found alike. -/
theorem SameCommunity.of_resolve {c c' : Configuration}
    (hrealm : ∀ id, c.realm? id = c'.realm? id) {declared : Community.Declaration}
    {community community' : Community} (h : declared.resolve c.realms = .ok community)
    (h' : declared.resolve c'.realms = .ok community') :
    c.SameCommunity c' community community' := by
  obtain ⟨hid, hkind, hrps, hmembers⟩ := Community.Declaration.resolve_eq_ok_iff.1 h
  obtain ⟨hid', hkind', hrps', hmembers'⟩ := Community.Declaration.resolve_eq_ok_iff.1 h'
  refine ⟨hid.trans hid'.symm, hkind.trans hkind'.symm, hrps.trans hrps'.symm, ?_⟩
  refine (hmembers.join hmembers').imp fun m m' ⟨id, hm, hm'⟩ ↦ ?_
  obtain ⟨r, -, hmember, hr⟩ := exists_memberRealm hm
  obtain ⟨r', -, hmember', hr'⟩ := exists_memberRealm hm'
  -- Both members have the realm that a lookup by their common name finds.
  rw [hrealm, hr'] at hr
  obtain rfl := Option.some.inj hr
  refine ⟨?_, r', hmember, hmember'⟩
  rw [(Community.Member.find?_eq_some_iff.1 hm).1, (Community.Member.find?_eq_some_iff.1 hm').1]

end Configuration

namespace Draft

variable {d d' : Draft}

/-- Rearranged drafts make configurations that answer alike. -/
theorem Rearranged.agree (h : d.Rearranged d') {c c' : Configuration} (hbuild : d.build = .ok c)
    (hbuild' : d'.build = .ok c') : c.Agree c' := by
  have hrealm : ∀ id, c.realm? id = c'.realm? id := fun id ↦ by
    rw [realm?_of_build hbuild, realm?_of_build hbuild', h.realm]
  refine ⟨?_, hrealm, fun name ↦ ?_, fun id ↦ ?_⟩
  · obtain ⟨-, hsettings, -⟩ := build_eq_ok_iff.1 hbuild
    obtain ⟨-, hsettings', -⟩ := build_eq_ok_iff.1 hbuild'
    rw [h.settings, hsettings'] at hsettings
    exact (Option.some.inj hsettings).symm
  · rw [client?_of_build hbuild, client?_of_build hbuild', h.client]
  · have hfound := community?_of_build hbuild id
    have hfound' := community?_of_build hbuild' id
    rw [h.community] at hfound
    generalize (d'.communities.filter (·.id == id)).getLast? = declared? at hfound hfound'
    generalize c.community? id = community? at hfound
    generalize c'.community? id = community?' at hfound'
    cases hfound with
    | none =>
      cases hfound'
      exact .none
    | some hresolve =>
      cases hfound' with
      | some hresolve' => exact .some (.of_resolve hrealm hresolve hresolve')

/-- **The order of independent documents does not matter.** Put in another order, they are refused
again, with an error of the same kind that reports the same missing things, or they load again, and
the configuration has the same settings and finds the same realms, clients and communities. A
community may name realms of any of the documents. -/
theorem load_perm [Json.Diagnosis] (d : Draft) {docs docs' : List Document}
    (hperm : docs.Perm docs') (hindependent : Document.Independent docs) :
    (∃ e e', (d.load docs).result = .error e ∧ (d.load docs').result = .error e' ∧ e.Alike e') ∨
    ∃ c c', (d.load docs).result = .ok c ∧ (d.load docs').result = .ok c' ∧ c.Agree c' := by
  have hrefusal := refusal?_perm d hperm hindependent
  rw [← error?_load, ← error?_load] at hrefusal
  cases h : (d.load docs).result with
  | error e =>
    cases h' : (d.load docs').result with
    | error e' =>
      rw [h, h'] at hrefusal
      cases hrefusal with
      | some halike => exact .inl ⟨e, e', rfl, rfl, halike⟩
    | ok c' =>
      rw [h, h'] at hrefusal
      cases hrefusal
  | ok c =>
    cases h' : (d.load docs').result with
    | error e' =>
      rw [h, h'] at hrefusal
      cases hrefusal
    | ok c' =>
      have hrearranged := Rearranged.extend d hperm hindependent
      exact .inr ⟨c, c', rfl, rfl, hrearranged.agree (build_of_load h) (build_of_load h')⟩

theorem load_perm_referring :
    [.referring, .declaring].Perm [Document.declaring, .referring] ∧
    Document.Independent [.referring, .declaring] ∧
    ∃ c c', (load empty [.referring, .declaring]).result = .ok c ∧
      (load empty [.declaring, .referring]).result = .ok c' ∧ c.Agree c' ∧
      c.communities.map (·.members.map (·.slot)) = [[2, 0]] ∧
      c'.communities.map (·.members.map (·.slot)) = [[0, 1]] := by
  have hperm : [.referring, .declaring].Perm [Document.declaring, .referring] := .swap _ _ _
  have hrealms : ∀ id ∈ Fragment.referring.realms.map (·.id),
      id ∉ Fragment.declaring.realms.map (·.id) := by decide +kernel
  have hapart : Fragment.referring.Apart .declaring :=
    ⟨.inr rfl, hrealms, List.disjoint_nil_right _, List.disjoint_nil_right _⟩
  have hindependent : Document.Independent [.referring, .declaring] :=
    .pair Document.fragment_referring Document.fragment_declaring hapart
  have hload : (load empty [.referring, .declaring]).result = .ok _ :=
    load_pair Document.fragment_referring Document.fragment_declaring rfl
  have hload' : (load empty [.declaring, .referring]).result = .ok _ :=
    load_pair Document.fragment_declaring Document.fragment_referring rfl
  rcases load_perm empty hperm hindependent with ⟨e, _, he, -⟩ | ⟨c, c', hc, hc', hagree⟩
  · rw [hload] at he
    cases he
  · rw [hload] at hc
    rw [hload'] at hc'
    cases hc
    cases hc'
    exact ⟨hperm, hindependent, _, _, hload, hload', hagree, rfl, rfl⟩

end Draft

end TrustRouter
