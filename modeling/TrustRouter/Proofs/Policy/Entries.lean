import TrustRouter.Proofs.Configuration.Merging
import TrustRouter.Proofs.Policy.Ruling

/-! # From documents to decisions

A client that a configuration finds by a name comes from an entry of the documents that were loaded:
of all entries of all documents, in the order in which they stand, the last that lists the name. No
entry is lost on the way and none is added (`Document.clients_of_load`), so what the configuration
decides for a request can be read off the documents (`Document.ruling_of_load`).
-/

namespace TrustRouter

namespace Document

/-! ### Entries -/

/-- The entries of clients in a document, in the order written. -/
def clientEntries (doc : Document) : List Json :=
  (Json.ofText? doc.text).elim [] (·.listAt "rp_clients")

/-- The entry of a name: of all entries of all documents, the last that lists it. -/
def entryNamed? (docs : List Document) (name : Name) : Option Json :=
  ((docs.flatMap clientEntries).filter fun entry ↦
    (entry.namesAt "gss_names").contains name).getLast?

/-! ### Decoding keeps entries -/

theorem clients_of_fragment [Json.Diagnosis] {doc : Document} {f : Fragment}
    (h : doc.fragment = .ok f) :
    List.Forall₂ (fun v c ↦ RpClient.ofJson v = .ok c) doc.clientEntries f.clients := by
  obtain ⟨-, v, htext, hv⟩ := fragment_eq_ok_iff.1 h
  obtain ⟨o, rfl, -, -, hclients, -⟩ := Fragment.ofJson_eq_ok_iff.1 hv
  rw [clientEntries, htext, Option.elim_some]
  exact Json.forall₂_listAt hclients

/-- The clients of a configuration are the entries of its documents, decoded one for one; the
configuration lists them the other way round. -/
theorem clients_of_load [Json.Diagnosis] {docs : List Document} {c : Configuration}
    (h : (Configuration.load docs).result = .ok c) :
    List.Forall₂ (fun v client ↦ RpClient.ofJson v = .ok client) (docs.flatMap clientEntries)
      c.clients.reverse := by
  obtain ⟨-, fragments, hfragments, hbuild⟩ := Draft.load_eq_ok_iff.1 h
  rw [Draft.foldl_merge_eq_extend] at hbuild
  obtain ⟨-, -, -, hclients, -, -⟩ := Draft.build_eq_ok_iff.1 hbuild
  rw [hclients, List.reverse_reverse]
  exact List.rel_flatMap hfragments fun _ _ hf ↦ clients_of_fragment hf

theorem isNamed_of_ofJson {entry : Json} {client : RpClient}
    (h : RpClient.ofJson entry = .ok client) (name : Name) :
    (entry.namesAt "gss_names").contains name = client.isNamed name := by
  obtain ⟨o, names, -, rfl, hlookup, hnames, -, -⟩ := RpClient.ofJson_eq_ok_iff.1 h
  rw [Json.namesAt_of_lookup hlookup hnames, RpClient.isNamed]

/-- A lookup finds the client that the entry of the name was decoded to, and finds none exactly when
the name has no entry. -/
theorem client?_of_load [Json.Diagnosis] {docs : List Document} {c : Configuration}
    (h : (Configuration.load docs).result = .ok c) (name : Name) :
    Option.Rel (fun entry client ↦ RpClient.ofJson entry = .ok client) (entryNamed? docs name)
      (c.client? name) := by
  have hfind : c.client? name = (c.clients.reverse.filter (·.isNamed name)).getLast? := by
    rw [List.getLast?_filter, List.reverse_reverse, Configuration.client?]
  rw [hfind]
  exact (clients_of_load h).getLast?_filter fun _ _ hclient ↦ isNamed_of_ofJson hclient name

/-- **From documents to decisions.** When documents load, a name has a client exactly when some
entry lists it, and the decision of the client's filter, on any request and with any matcher, is
what the last such entry rules. -/
theorem ruling_of_load [Json.Diagnosis] {docs : List Document} {c : Configuration}
    (h : (Configuration.load docs).result = .ok c) (name : Name) (request : Request)
    (matcher : Matcher) :
    (c.client? name).isSome = (entryNamed? docs name).isSome ∧
    (c.client? name).map (fun client ↦ (client.filter.decision request matcher).ruling) =
      (entryNamed? docs name).map (Ruling.ofEntry request matcher) := by
  have hrel := client?_of_load h name
  generalize entryNamed? docs name = entry? at hrel
  generalize c.client? name = client? at hrel
  cases hrel with
  | none => exact ⟨rfl, rfl⟩
  | some hclient => exact ⟨rfl, congrArg some (Ruling.decision_of_ofJson hclient)⟩

/-- Two documents that both have an entry for `rp`: the first rejects every community, the second
rejects one of them and restricts the realms for the others. -/
def overriding : List Document :=
  [⟨"first", "\x7b\"tr_internal\": \x7b\"hostname\": \"tr\"\x7d, \"default_servers\": [\"s\"],
      \"communities\": [\x7b\"community_id\": \"c\", \"type\": \"apc\", \"apcs\": [],
      \"idp_realms\": [], \"rp_realms\": []\x7d],
      \"rp_clients\": [\x7b\"gss_names\": [\"rp\"], \"filter\": \x7b\"type\": \"rp_permitted\",
      \"filter_lines\": [\x7b\"action\": \"reject\", \"filter_specs\": [
      \x7b\"field\": \"comm\", \"match\": \"*\"\x7d]\x7d]\x7d\x7d]\x7d"⟩,
    ⟨"second", "\x7b\"rp_clients\": [\x7b\"gss_names\": [\"rq\", \"rp\"], \"filter\":
      \x7b\"type\": \"rp_permitted\", \"filter_lines\": [\x7b\"action\": \"reject\",
      \"filter_specs\": [\x7b\"field\": \"comm\", \"match\": \"x\"\x7d]\x7d,
      \x7b\"action\": \"accept\", \"filter_specs\": [\x7b\"field\": \"comm\", \"match\": \"*\"\x7d],
      \"realm_constraints\": [\"r\", \"*.r\"], \"domain_constraints\": []\x7d]\x7d\x7d]\x7d"⟩]

theorem ruling_of_load_overriding :
    ∃ c, (Configuration.load overriding).result = .ok c ∧
      (c.client? (.ofString "rp")).map (fun client ↦ (client.filter.decision
        (.ofPairs [(.ofString "comm", .ofString "y")]) Pattern.wildcard).ruling) =
        some ⟨"accept", some 1, some (.realm, [.ofString "r", .ofString "*.r"]), none⟩ := by
  have hload : (Configuration.load overriding).result.toOption.isSome = true := by
    rw [Configuration.load, Draft.load_result, if_neg (by rintro ⟨⟩), overriding, List.mapM_cons,
      fragment_ofList (by decide +kernel), List.mapM_cons, fragment_ofList (by decide +kernel)]
    decide +kernel
  cases hc : (Configuration.load overriding).result with
  | error e =>
    rw [hc] at hload
    cases hload
  | ok c =>
    refine ⟨c, rfl, ?_⟩
    rw [(ruling_of_load hc _ _ _).2, entryNamed?, overriding, List.flatMap_cons, clientEntries,
      Json.ofText?_ofList, List.flatMap_cons, clientEntries, Json.ofText?_ofList]
    decide +kernel

end Document

end TrustRouter
