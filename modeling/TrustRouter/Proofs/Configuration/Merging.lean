import TrustRouter.Proofs.Configuration.Membership
import TrustRouter.Proofs.Document.Reading

/-! # Merging documents

Documents are merged into a draft one by one, and the configuration is built from what has come of
it. Nothing of that order of work shows in the result. A list of the merged draft is the list it had
with the lists of all fragments behind it, and the settings are the sections **layered**: everything
is as in the last section, only that the hostname is the last one given at all
(`Draft.foldl_merge_eq_extend`).

So merging may stop anywhere and go on from there, and every declaration is in the configuration
once, the latest in front, where a lookup begins (`Draft.merging_exact`).
-/

namespace TrustRouter

namespace Settings

/-! ### Layers -/

/-- Sections laid over one another, from the first to the last: all is as in the last, and the
hostname is the last that any of them gives. -/
def layered (sections : List Settings) : Option Settings :=
  sections.getLast?.map fun last ↦
    { last with hostname := (sections.filterMap (·.hostname)).getLast? }

theorem layered_eq_none_iff {sections : List Settings} :
    layered sections = none ↔ sections = [] := by
  rw [layered, Option.map_eq_none_iff, List.getLast?_eq_none_iff]

theorem layered_eq_some_iff {sections : List Settings} {s : Settings} :
    layered sections = some s ↔ ∃ last, sections.getLast? = some last ∧
      { last with hostname := (sections.filterMap (·.hostname)).getLast? } = s := by
  rw [layered, Option.map_eq_some_iff]

theorem bind_hostname_layered (sections : List Settings) :
    (layered sections).bind (·.hostname) = (sections.filterMap (·.hostname)).getLast? := by
  rw [layered]
  cases h : sections.getLast? with
  | none =>
    obtain rfl := List.getLast?_eq_none_iff.1 h
    rfl
  | some last => rfl

/-- One section is its own layers. -/
theorem layered_toList (s : Option Settings) : layered s.toList = s := by
  cases s with
  | none => rfl
  | some s =>
    obtain ⟨hostname⟩ := s
    cases hostname <;> rfl

/-- A section laid over layers is one more layer. -/
theorem layered_concat (sections : List Settings) (s : Settings) :
    layered (sections ++ [s]) = some ((layered sections).elim s (·.overlay s)) := by
  have hhostname : ((sections ++ [s]).filterMap (·.hostname)).getLast? =
      s.hostname.or (sections.filterMap (·.hostname)).getLast? := by
    rw [List.filterMap_append, List.getLast?_append]
    cases h : s.hostname <;> simp [h]
  rw [layered, List.getLast?_concat, Option.map_some, hhostname, layered]
  cases hlast : sections.getLast? with
  | none =>
    obtain rfl := List.getLast?_eq_none_iff.1 hlast
    obtain ⟨hostname⟩ := s
    cases hostname <;> rfl
  | some last =>
    show _ = some (overlay _ s)
    rw [overlay, Option.orElse_eq_orElse, Option.orElse_eq_or]

end Settings

namespace Draft

/-! ### What has come of a draft -/

/-- A section that is added is one more layer. -/
theorem settings_addSettings {d : Draft} {sections : List Settings}
    (h : d.settings = Settings.layered sections) (s : Settings) :
    (d.addSettings s).settings = Settings.layered (sections ++ [s]) := by
  rw [Settings.layered_concat, ← h, addSettings]

/-- **One change** adds the section that it declares, if it declares one, as a layer. -/
theorem settings_apply {d : Draft} {sections : List Settings}
    (h : d.settings = Settings.layered sections) (change : Change) :
    (d.apply change).settings = Settings.layered (sections ++ change.settings?.toList) := by
  have hkept : d.settings = Settings.layered (sections ++ []) := by rw [List.append_nil, h]
  cases change with
  | settings s => exact settings_addSettings h s
  | client c => exact hkept
  | realm r => exact hkept
  | server s => exact hkept
  | community c => exact hkept
  | fragment f =>
    rw [apply, merge, Change.settings?]
    cases f.settings with
    | none => exact hkept
    | some s => exact settings_addSettings h s

/-- After any changes the settings are the layers of all sections declared. -/
theorem settings_foldl_apply {d : Draft} {sections : List Settings}
    (h : d.settings = Settings.layered sections) (changes : List Change) :
    (changes.foldl apply d).settings =
      Settings.layered (sections ++ changes.filterMap Change.settings?) := by
  induction changes generalizing d sections with
  | nil => rwa [List.filterMap_nil, List.append_nil]
  | cons change changes ih =>
    rw [List.foldl_cons, ih (settings_apply h change), List.append_assoc]
    cases hs : change.settings? with
    | none => rw [List.filterMap_cons_none hs]; rfl
    | some s => rw [List.filterMap_cons_some hs]; rfl

/-- A draft with all that fragments declare behind what it holds. -/
def extend (d : Draft) (fragments : List Fragment) : Draft where
  settings := Settings.layered (d.settings.toList ++ fragments.filterMap (·.settings))
  clients := d.clients ++ fragments.flatMap (·.clients)
  realms := d.realms ++ fragments.flatMap (·.realms)
  servers := d.servers ++ fragments.flatMap (·.servers)
  communities := d.communities ++ fragments.flatMap (·.communities)

/-- **Merging one by one is extending at once.** -/
theorem foldl_merge_eq_extend (d : Draft) (fragments : List Fragment) :
    fragments.foldl merge d = d.extend fragments := by
  have hsettings := settings_foldl_apply (Settings.layered_toList d.settings).symm
    (fragments.map .fragment)
  obtain ⟨hclients, hrealms, hservers, hcommunities⟩ :=
    lists_foldl_apply d (fragments.map .fragment)
  rw [List.filterMap_map] at hsettings
  rw [List.flatMap_map] at hclients hrealms hservers hcommunities
  rw [foldl_merge_eq, extend]
  generalize (fragments.map Change.fragment).foldl apply d = merged at *
  obtain ⟨settings, clients, realms, servers, communities⟩ := merged
  rw [mk.injEq]
  exact ⟨hsettings, hclients, hrealms, hservers, hcommunities⟩

/-- Documents are merged exactly when all of them can be decoded. -/
theorem mergeAll_eq_ok_iff [Json.Diagnosis] {d d' : Draft} {docs : List Document} :
    (d.mergeAll docs).result = .ok d' ↔ ∃ fragments,
      List.Forall₂ (fun doc f ↦ Document.fragment doc = .ok f) docs fragments ∧
      d.extend fragments = d' := by
  simp only [mergeAll_result, ← Except.mapM_eq_ok_iff, ← foldl_merge_eq_extend]
  cases docs.mapM Document.fragment <;> simp [Except.map]

/-! ### Lookups -/

variable {d : Draft} {c : Configuration}

/-- A lookup in a configuration finds the client declared last under the name. -/
theorem client?_of_build (h : d.build = .ok c) (name : Name) :
    c.client? name = (d.clients.filter (·.isNamed name)).getLast? := by
  obtain ⟨-, -, -, hclients, -, -⟩ := build_eq_ok_iff.1 h
  rw [Configuration.client?, hclients, List.getLast?_filter]

/-- A lookup in a configuration finds what the community declared last under the name was resolved
to. -/
theorem community?_of_build (h : d.build = .ok c) (id : Name) :
    Option.Rel (fun (declared : Community.Declaration) community ↦
        declared.resolve c.realms = .ok community)
      (d.communities.filter (·.id == id)).getLast? (c.community? id) := by
  rw [List.getLast?_filter, Configuration.community?]
  refine (communities_of_build h).find? fun declared community hresolve ↦ ?_
  rw [(Community.Declaration.resolve_eq_ok_iff.1 hresolve).1]

/-! ### Merging in two goes -/

/-- Documents that are loaded behind others meet the draft that those have left. -/
theorem load_append [Json.Diagnosis] {docs docs' : List Document} {fragments : List Fragment}
    (h : List.Forall₂ (fun doc f ↦ Document.fragment doc = .ok f) docs fragments)
    (hne : docs' ≠ []) :
    (d.load (docs ++ docs')).result = ((fragments.foldl merge d).load docs').result := by
  have hdocs : docs.mapM Document.fragment = .ok fragments := Except.mapM_eq_ok_iff.2 h
  rw [load_result, load_result, if_neg hne, if_neg (by simp [hne]), List.mapM_append, hdocs]
  show ((docs'.mapM Document.fragment >>= fun fragments' ↦
    pure (fragments ++ fragments')) >>= _) = _
  rw [bind_assoc]
  refine bind_congr fun fragments' ↦ ?_
  rw [pure_bind, List.foldl_append]

/-- **Merging is exact.** When documents load, the lists of the configuration are all that their
fragments declare, in the order of the documents, reversed; a community among them is its
declaration resolved against the realms of the configuration. So a lookup finds what was declared
last, in any document. And whatever a draft holds and whether or not the documents load, documents
behind others that can be decoded lead to what they lead to on the draft into which those others
have been merged. -/
theorem merging_exact [Json.Diagnosis] :
    (∀ docs c, (Configuration.load docs).result = .ok c → ∃ fragments,
      List.Forall₂ (fun doc f ↦ Document.fragment doc = .ok f) docs fragments ∧
      c.clients = (fragments.flatMap Fragment.clients).reverse ∧
      c.realms = (fragments.flatMap Fragment.realms).reverse ∧
      c.servers = (fragments.flatMap Fragment.servers).reverse ∧
      List.Forall₂ (fun declared community ↦
          Community.Declaration.resolve declared c.realms = .ok community)
        (fragments.flatMap Fragment.communities).reverse c.communities ∧
      (∀ id, c.realm? id = ((fragments.flatMap Fragment.realms).filter (·.id == id)).getLast?) ∧
      (∀ name, c.client? name =
        ((fragments.flatMap Fragment.clients).filter (·.isNamed name)).getLast?) ∧
      ∀ id, Option.Rel (fun declared community ↦
          Community.Declaration.resolve declared c.realms = .ok community)
        ((fragments.flatMap Fragment.communities).filter (·.id == id)).getLast?
        (c.community? id)) ∧
    ∀ d docs docs' fragments, docs' ≠ [] →
      List.Forall₂ (fun doc f ↦ Document.fragment doc = .ok f) docs fragments →
      (load d (docs ++ docs')).result = ((fragments.foldl merge d).load docs').result := by
  refine ⟨fun docs c h ↦ ?_, fun d docs docs' fragments hne hdocs ↦ load_append hdocs hne⟩
  obtain ⟨-, fragments, hfragments, hbuild⟩ := load_eq_ok_iff.1 h
  rw [foldl_merge_eq_extend] at hbuild
  obtain ⟨-, -, -, hclients, hrealms, hservers⟩ := build_eq_ok_iff.1 hbuild
  exact ⟨fragments, hfragments, hclients, hrealms, hservers, communities_of_build hbuild,
    realm?_of_build hbuild, client?_of_build hbuild, community?_of_build hbuild⟩

end Draft

/-! ### Two documents -/

/-- A document whose community names two realms, of which the document declares one. -/
def Document.referring : Document :=
  ⟨"referring", "\x7b\"tr_internal\": \x7b\"hostname\": \"tr\"\x7d, \"rp_clients\": [
    \x7b\"gss_names\": [\"rp\"], \"filter\": \x7b\"type\": \"rp_permitted\", \"filter_lines\": [
    \x7b\"action\": \"accept\", \"filter_specs\": [\x7b\"field\": \"comm\", \"match\": \"*\"\x7d]
    \x7d]\x7d\x7d], \"idp_realms\": [\x7b\"realm_id\": \"q\", \"remote\": 1\x7d],
    \"communities\": [\x7b\"community_id\": \"c\", \"type\": \"apc\", \"apcs\": [],
    \"idp_realms\": [\"q\", \"r\"], \"rp_realms\": [\"rp\"]\x7d]\x7d"⟩

/-- A document that declares the other realm twice. -/
def Document.declaring : Document :=
  ⟨"declaring", "\x7b\"idp_realms\": [\x7b\"realm_id\": \"r\", \"remote\": 1\x7d,
    \x7b\"realm_id\": \"r\", \"shared_config\": \"yes\", \"aaa_servers\": [\"s\"]\x7d]\x7d"⟩

/-- What the first of them declares. -/
def Fragment.referring : Fragment where
  serialNumber := none
  settings := some { hostname := some (.ofString "tr") }
  clients := [⟨⟨[.ofString "rp"], nofun, by decide⟩, .rpPermitted,
    ⟨[⟨.accept, ⟨[⟨.ofString "comm", .ofString "*", by decide, by decide⟩], nofun, by decide⟩, none,
      none⟩], nofun, by decide⟩⟩]
  realms := [⟨.ofString "q", none, .remote⟩]
  servers := []
  communities := [⟨.ofString "c", .apc Community.defaultExpiration, [.ofString "q", .ofString "r"],
    [.ofString "rp"]⟩]

/-- What the second of them declares. -/
def Fragment.declaring : Fragment where
  serialNumber := none
  settings := none
  clients := []
  realms := [⟨.ofString "r", none, .remote⟩,
    ⟨.ofString "r", none, .configured true [⟨.ofString "s"⟩] nofun⟩]
  servers := []
  communities := []

theorem Document.fragment_referring [Json.Diagnosis] : referring.fragment = .ok .referring := by
  rw [referring, fragment_of_chars (.ok .referring) (by decide +kernel)
    (by decide +kernel)]

theorem Document.fragment_declaring [Json.Diagnosis] : declaring.fragment = .ok .declaring := by
  rw [declaring, fragment_of_chars (.ok .declaring) (by decide +kernel)
    (by decide +kernel)]

theorem Draft.merging_exact_referring :
    ∃ c, (Configuration.load [.referring, .declaring]).result = .ok c ∧
      c.realms.map (·.id) = [.ofString "r", .ofString "r", .ofString "q"] ∧
      (c.realm? (.ofString "r")).map (·.origin.label) = some "local" ∧
      ((empty.merge .referring).load [.declaring]).result = .ok c := by
  have hdocs : List.Forall₂ (fun doc f ↦ Document.fragment doc = .ok f) [.referring, .declaring]
      [.referring, .declaring] :=
    .cons Document.fragment_referring (.cons Document.fragment_declaring .nil)
  have hload : (Configuration.load [.referring, .declaring]).result = .ok _ :=
    load_eq_ok_iff.2 ⟨nofun, _, hdocs, rfl⟩
  obtain ⟨fragments, hfragments, -, hrealms, -, -, hrealm, -⟩ := merging_exact.1 _ _ hload
  have happend := merging_exact.2 empty [.referring] [.declaring] _ nofun
    (.cons Document.fragment_referring .nil)
  rw [← Except.mapM_eq_ok_iff, Except.mapM_eq_ok_iff.2 hdocs] at hfragments
  obtain rfl := Except.ok.inj hfragments
  refine ⟨_, hload, ?_, ?_, happend.symm.trans hload⟩
  · rw [hrealms]
    rfl
  · rw [hrealm]
    decide +kernel

end TrustRouter
