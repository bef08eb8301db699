import TrustRouter.Proofs.Configuration.Merging

/-! # Why documents are refused

Loading decodes, merges, resolves and checks, and at each of these it may fail. Which failure is
reported when there are several is a matter of order: that of the documents, that of the
communities, which are resolved the last first, and that of the stages. `Draft.refusal?` states the
outcome without any of this work, as the first that applies of four causes, each found among all
that is declared. Loading fails exactly as it says (`Draft.load_outcome`).
-/

namespace TrustRouter

/-- The fragments of those documents that can be decoded. -/
def Document.fragments [Json.Diagnosis] (docs : List Document) : List Fragment :=
  docs.filterMap fun doc ↦ doc.fragment.toOption

/-- The first realm that a community names and that is not among the realms. -/
def Community.Declaration.undeclared? (c : Declaration) (realms : List IdpRealm) : Option Name :=
  c.idps.find? fun id ↦ !realms.any (·.id == id)

namespace Issue

/-- All rules of completeness, in the order in which broken ones are reported. -/
def all : List Issue := [missingHostname, noClients, noCommunities, noServers]

/-- Whether a draft breaks a rule. -/
def brokenBy (d : Draft) : Issue → Bool
  | missingHostname => (d.settings.bind (·.hostname)).all (·.isEmpty)
  | noClients => d.clients.isEmpty
  | noCommunities => d.communities.isEmpty
  | noServers => d.realms.isEmpty && d.servers.isEmpty

end Issue

namespace Draft

/-- The communities that name an undeclared realm, in the order of declaration, each with the first
realm of that kind. -/
def dangling (d : Draft) : List (Name × Name) :=
  d.communities.filterMap fun c ↦ (c.undeclared? d.realms).map (c.id, ·)

/-- Why documents do not load on top of a draft, if they do not: there are none; the first that
cannot be decoded; the last declared community that names an undeclared realm; or what is
incomplete. Of these causes the first that applies counts. -/
def refusal? [Json.Diagnosis] (d : Draft) (docs : List Document) : Option LoadError :=
  let declared := d.extend (Document.fragments docs)
  (if docs = [] then some .noDocuments else none).or <|
  (docs.findSome? fun doc ↦ doc.fragment.error?).or <|
  (declared.dangling.getLast?.map fun (community, realm) ↦ .unknownRealm community realm).or <|
  match Issue.all.filter (·.brokenBy declared) with
  | [] => none
  | issues => some (.incomplete issues)

end Draft

/-! ### Undeclared realms -/

namespace Community

theorem Member.error?_find? {realms : List IdpRealm} {id : Name} :
    ((Member.find? realms id).elim (.error id) .ok : Except Name Member).error? =
      Option.guard (fun id ↦ !realms.any (·.id == id)) id := by
  rw [Option.guard, ← List.findIdx?_isSome, Member.find?]
  cases realms.findIdx? (·.id == id) <;> rfl

/-- A declaration cannot be resolved exactly when it names an undeclared realm, and the first of
those is reported. -/
theorem Declaration.error?_resolve (c : Declaration) (realms : List IdpRealm) :
    (c.resolve realms).error? = (c.undeclared? realms).map (.unknownRealm c.id) := by
  have hfind : c.undeclared? realms = (Member.findAll realms c.idps).error? := by
    rw [undeclared?, Member.findAll, Except.error?_mapM, List.find?_eq_findSome?_guard]
    simp only [Member.error?_find?]
  rw [hfind, resolve]
  cases Member.findAll realms c.idps <;> rfl

theorem Declaration.undeclared?_reverse (c : Declaration) (realms : List IdpRealm) :
    c.undeclared? realms.reverse = c.undeclared? realms := by
  simp only [undeclared?, List.any_reverse]

end Community

namespace Draft

variable {d : Draft}

/-- Communities are resolved the last first, so the last that cannot be resolved is reported. -/
theorem error?_resolveCommunities (d : Draft) :
    d.resolveCommunities.error? =
      d.dangling.getLast?.map fun (community, realm) ↦ .unknownRealm community realm := by
  rw [resolveCommunities, Except.error?_mapM, dangling, List.getLast?_filterMap, List.map_findSome?]
  congr 1
  funext c
  rw [c.error?_resolve, c.undeclared?_reverse, Function.comp_apply, Option.map_map]
  rfl

/-! ### Broken rules -/

/-- A hostname is missing exactly when there is none that is not empty. -/
theorem any_hasHostname (s : Option Settings) :
    s.any (·.hasHostname) = !(s.bind (·.hostname)).all (·.isEmpty) := by
  cases s with
  | none => rfl
  | some s =>
    show s.hostname.any _ = !s.hostname.all _
    cases s.hostname <;> simp

theorem issues_eq_filter (d : Draft) : d.issues = Issue.all.filter (·.brokenBy d) := by
  have hsources : d.realms.length + d.servers.length = 0 ↔
      (d.realms.isEmpty && d.servers.isEmpty) = true := by
    simp
  simp only [issues, Issue.broken, Issue.all, List.filter_cons, List.filter_nil, Issue.brokenBy,
    any_hasHostname, ← List.isEmpty_iff_length_eq_zero, hsources]
  cases (d.settings.bind (·.hostname)).all (·.isEmpty) <;> cases d.clients.isEmpty <;>
    cases d.communities.isEmpty <;> cases d.realms.isEmpty && d.servers.isEmpty <;> rfl

/-! ### Causes in order -/

/-- Building fails on an undeclared realm, and if there is none on what is incomplete. -/
theorem error?_build (d : Draft) :
    d.build.error? =
      (d.dangling.getLast?.map fun (community, realm) ↦ .unknownRealm community realm).or
        (match d.issues with
        | [] => none
        | issues => some (.incomplete issues)) := by
  rw [← error?_resolveCommunities]
  cases hr : d.resolveCommunities with
  | error e => rw [build_of_resolve_error hr]; rfl
  | ok communities =>
    cases hi : d.issues with
    | nil =>
      obtain ⟨settings, hs⟩ := exists_settings_of_issues hi
      rw [build_of_complete hr hi hs]
      rfl
    | cons issue issues =>
      rw [build_of_incomplete hr (by rw [hi]; nofun), hi]
      rfl

/-- When all documents can be decoded, their fragments are these. -/
theorem fragments_of_forall₂ [Json.Diagnosis] {docs : List Document} {fragments : List Fragment}
    (h : List.Forall₂ (fun doc f ↦ Document.fragment doc = .ok f) docs fragments) :
    Document.fragments docs = fragments := by
  induction h with
  | nil => rfl
  | @cons doc f docs fragments hf _ ih =>
    rw [Document.fragments, List.filterMap_cons_some (b := f) (by rw [hf]; rfl)]
    exact congrArg (f :: ·) ih

/-- The configuration of documents that load is built from the draft that their fragments extend. -/
theorem build_of_load [Json.Diagnosis] {docs : List Document} {c : Configuration}
    (h : (d.load docs).result = .ok c) : (d.extend (Document.fragments docs)).build = .ok c := by
  obtain ⟨-, fragments, hfragments, hbuild⟩ := load_eq_ok_iff.1 h
  rwa [fragments_of_forall₂ hfragments, ← foldl_merge_eq_extend]

/-- **Loading fails for the first cause that applies**, and for no other. -/
theorem error?_load [Json.Diagnosis] (d : Draft) (docs : List Document) :
    (d.load docs).result.error? = d.refusal? docs := by
  rw [load_result, refusal?]
  split
  · rfl
  · rw [Option.none_or, ← Except.error?_mapM]
    cases hdocs : docs.mapM Document.fragment with
    | error e => rfl
    | ok fragments =>
      rw [fragments_of_forall₂ (Except.mapM_eq_ok_iff.1 hdocs), ← issues_eq_filter]
      show ((fragments.foldl merge d).build.mapError _).error? = _
      rw [Except.error?_mapError, foldl_merge_eq_extend, error?_build, Except.error?_ok,
        Option.none_or]
      cases (d.extend fragments).dangling.getLast? with
      | some reference => rfl
      | none => cases (d.extend fragments).issues <;> rfl

/-! ### Places and kinds -/

/-- A path is shown from the root. -/
theorem exists_text_eq (path : Json.Path) : ∃ rest, path.text = "$" ++ rest := by
  -- The root stands for whatever has been shown when the steps begin.
  have h : ∀ shown : String, ∃ rest,
      path.foldl (fun shown step ↦ shown ++ step.text) shown = shown ++ rest := by
    induction path with
    | nil => exact fun shown ↦ ⟨"", by rw [List.foldl_nil, String.append_empty]⟩
    | cons step path ih =>
      intro shown
      obtain ⟨rest, hrest⟩ := ih (shown ++ step.text)
      exact ⟨step.text ++ rest, by rw [List.foldl_cons, hrest, String.append_assoc]⟩
  exact h "$"

/-- A place in a document is shown as the document, alone or with a path from the root. -/
theorem text_of_document (doc : Document) (path : Option Json.Path) :
    Location.text ⟨doc.name, path⟩ = doc.name ∨
      ∃ rest, Location.text ⟨doc.name, path⟩ = doc.name ++ ":" ++ "$" ++ rest := by
  cases path with
  | none => exact .inl rfl
  | some path =>
    obtain ⟨rest, hrest⟩ := exists_text_eq path
    exact .inr ⟨rest, by rw [Location.text, hrest, ← String.append_assoc]⟩

/-- A place in a document is shown as nothing only if it is the whole of a document without a
name. -/
theorem text_eq_empty_iff (doc : Document) (path : Option Json.Path) :
    Location.text ⟨doc.name, path⟩ = "" ↔ doc.name = "" ∧ path = none := by
  cases path with
  | none => simp [Location.text]
  | some path => simp [Location.text]

/-- **What loading leads to**, on any draft and for any documents. It fails for the first cause that
applies, and if none applies there is a configuration. Bad parameters are reported exactly when
there are no documents; a document that cannot be decoded is reported as no parse, at its name,
alone or followed by a colon and a path from the root, and so at no place at all only if it has no
name and is refused as a whole; and there is no other kind of error than these two, references not
found and invalid configurations. -/
theorem load_outcome [Json.Diagnosis] (d : Draft) (docs : List Document) :
    (∀ e, (d.load docs).result = .error e ↔ d.refusal? docs = some e) ∧
    ((∃ c, (d.load docs).result = .ok c) ↔ d.refusal? docs = none) ∧
    ((∃ e, (d.load docs).result = .error e ∧ e.kind = "bad_params") ↔ docs = []) ∧
    (∀ doc ∈ docs, ∀ e, doc.fragment = .error e → e.kind = "no_parse" ∧
      ∃ path reason, e = .malformed ⟨doc.name, path⟩ reason ∧
        (Location.text ⟨doc.name, path⟩ = doc.name ∨
          ∃ rest, Location.text ⟨doc.name, path⟩ = doc.name ++ ":" ++ "$" ++ rest) ∧
        (Location.text ⟨doc.name, path⟩ = "" ↔ doc.name = "" ∧ path = none)) ∧
    ∀ e, (d.load docs).result = .error e →
      e.kind ∈ ["bad_params", "no_parse", "not_found", "validation"] := by
  refine ⟨fun e ↦ ?_, ?_, ⟨?_, ?_⟩, ?_, ?_⟩
  · rw [← error?_load, Except.error?_eq_some_iff]
  · rw [← error?_load, Except.error?_eq_none_iff]
  · rintro ⟨e, he, hkind⟩
    rcases load_error_cases he with ⟨hdocs, rfl⟩ | ⟨_, _, rfl⟩ | ⟨_, _, rfl⟩ | ⟨_, rfl⟩
    · exact hdocs
    all_goals simp [LoadError.kind] at hkind
  · rintro rfl
    exact ⟨.noDocuments, rfl, rfl⟩
  · intro doc _ e he
    obtain ⟨path, reason, rfl⟩ := Document.malformed_of_fragment he
    exact ⟨rfl, path, reason, rfl, text_of_document doc path, text_eq_empty_iff doc path⟩
  · intro e he
    rcases load_error_cases he with ⟨-, rfl⟩ | ⟨_, _, rfl⟩ | ⟨_, _, rfl⟩ | ⟨_, rfl⟩ <;>
      simp [LoadError.kind]

/-- An empty document is refused as a whole, and reported at its name. -/
theorem load_blank [Json.Diagnosis] (name : String) :
    (empty.load [⟨name, ""⟩]).result =
      .error (.malformed ⟨name, none⟩ (.notJson (Json.Diagnosis.words ""))) := by
  rw [load_result, if_neg (List.cons_ne_nil _ _), List.mapM_cons, Document.fragment_blank]
  rfl

theorem load_outcome_named :
    ∃ e, (empty.load [⟨"a.cfg", ""⟩]).result = .error e ∧ e.kind = "no_parse" ∧
      ∃ path reason, e = .malformed ⟨"a.cfg", path⟩ reason ∧
        Location.text ⟨"a.cfg", path⟩ ≠ "" := by
  obtain ⟨-, -, -, hmalformed, -⟩ := load_outcome empty [⟨"a.cfg", ""⟩]
  obtain ⟨hkind, path, reason, he, -, hempty⟩ :=
    hmalformed _ List.mem_cons_self _ (Document.fragment_blank "a.cfg")
  have hname : ("a.cfg" : String) ≠ "" := by decide
  exact ⟨_, load_blank "a.cfg", hkind, path, reason, he, fun h ↦ hname (hempty.1 h).1⟩

/-- Not every document that cannot be decoded is reported at some place: where it has no name and is
no JSON, nothing is left of the place. -/
theorem malformed_at_no_place :
    ¬∀ (d : Draft) (docs : List Document) (e : LoadError), (d.load docs).result = .error e →
      e.kind = "no_parse" → ∃ doc ∈ docs, ∃ path reason, e = .malformed ⟨doc.name, path⟩ reason ∧
        (Location.text ⟨doc.name, path⟩ = doc.name ∨
          ∃ rest, Location.text ⟨doc.name, path⟩ = doc.name ++ ":" ++ "$" ++ rest) ∧
        Location.text ⟨doc.name, path⟩ ≠ "" := by
  intro h
  obtain ⟨doc, hdoc, path, reason, he, -, hplace⟩ := h empty [⟨"", ""⟩] _ (load_blank "") rfl
  obtain rfl := List.mem_singleton.1 hdoc
  cases he
  exact hplace rfl

end Draft

end TrustRouter
