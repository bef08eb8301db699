import TrustRouter.Proofs.Configuration.Building
import TrustRouter.Reload

/-! # Loading in one equation

`Draft.load` reports events while it works, which hides what it computes. Apart from the events,
loading is three steps: all documents are decoded, their fragments are merged in order, and the
draft is built (`Draft.load_result`). From that equation follow what a configuration that loads is
made of (`Draft.load_eq_ok_iff`) and the only causes for which loading fails
(`Draft.load_error_cases`).
-/

namespace TrustRouter

/-- A document that cannot be decoded is malformed, as a whole or at a place in it. -/
theorem Document.malformed_of_fragment [Json.Diagnosis] {doc : Document} {e : LoadError}
    (h : doc.fragment = .error e) : ∃ path reason, e = .malformed ⟨doc.name, path⟩ reason := by
  unfold Document.fragment at h
  split at h
  · cases h
    exact ⟨_, _, rfl⟩
  · split at h
    · cases h
      exact ⟨_, _, rfl⟩
    · obtain ⟨fault, -, rfl⟩ := Except.mapError_eq_error_iff.1 h
      exact ⟨_, _, rfl⟩

/-- A document without a text is malformed as a whole. -/
theorem Document.fragment_blank [Json.Diagnosis] (name : String) :
    fragment ⟨name, ""⟩ =
      .error (.malformed ⟨name, none⟩ (.notJson (Json.Diagnosis.words ""))) := by
  have hshort : ¬maxBytes < ("" : String).utf8ByteSize := Nat.not_lt_zero _
  have htext : Json.ofText? "" = none := by decide +kernel
  rw [fragment, if_neg hshort, htext]

namespace Draft

/-! ### Loading -/

theorem finish_result (d : Draft) :
    d.finish.result = d.build.mapError (LoadError.ofEntityError ⟨none, none⟩) := by
  unfold finish
  cases d.build <;> rfl

variable [Json.Diagnosis] {d : Draft}

/-- Merging documents is decoding all of them and then merging their fragments in order. -/
theorem mergeAll_result (d : Draft) (docs : List Document) :
    (d.mergeAll docs).result = (docs.mapM Document.fragment).map (·.foldl merge d) := by
  induction docs generalizing d with
  | nil => rfl
  | cons doc docs ih =>
    rw [mergeAll, List.mapM_cons]
    cases hf : doc.fragment with
    | error e => rfl
    | ok f =>
      show ((d.merge f).mergeAll docs).result = _
      rw [ih]
      cases docs.mapM Document.fragment <;> rfl

/-- **Loading in one equation.** Without documents there is nothing to load; otherwise all of them
are decoded, their fragments merged in order, and the draft built. -/
theorem load_result (d : Draft) (docs : List Document) :
    (d.load docs).result =
      if docs = [] then .error .noDocuments
      else docs.mapM Document.fragment >>= fun fragments ↦
        (fragments.foldl merge d).build.mapError (.ofEntityError ⟨none, none⟩) := by
  by_cases hdocs : docs = []
  · subst hdocs
    rfl
  · rw [load, if_neg (by simpa using hdocs), if_neg hdocs]
    -- The events do not matter: what is left of merging is its result.
    have hmerge := mergeAll_result d docs
    generalize d.mergeAll docs = merging at hmerge ⊢
    generalize docs.mapM Document.fragment = decoding at hmerge ⊢
    obtain ⟨events, result⟩ := merging
    cases decoding with
    | error e =>
      cases hmerge
      rfl
    | ok fragments =>
      cases hmerge
      exact finish_result _

/-- A configuration loads exactly when there are documents, all of them can be decoded, and the
draft of their fragments can be built. -/
theorem load_eq_ok_iff {docs : List Document} {c : Configuration} :
    (d.load docs).result = .ok c ↔ docs ≠ [] ∧ ∃ fragments,
      List.Forall₂ (fun doc f ↦ Document.fragment doc = .ok f) docs fragments ∧
      (fragments.foldl merge d).build = .ok c := by
  rw [load_result]
  split
  · next h => simp [h]
  · next h => simp [h, Except.mapM_eq_ok_iff]

/-- Two documents load if the draft of what they declare can be built. -/
theorem load_pair {doc doc' : Document} {f f' : Fragment} {c : Configuration}
    (h : doc.fragment = .ok f) (h' : doc'.fragment = .ok f')
    (hbuild : ((d.merge f).merge f').build = .ok c) : (d.load [doc, doc']).result = .ok c :=
  load_eq_ok_iff.2 ⟨nofun, _, .cons h (.cons h' .nil), hbuild⟩

/-- **Why loading fails.** There are no documents, one of them is malformed, a community has an
unknown member, or the configuration is not complete; there is no other cause. -/
theorem load_error_cases {docs : List Document} {e : LoadError}
    (h : (d.load docs).result = .error e) :
    (docs = [] ∧ e = .noDocuments) ∨ (∃ location reason, e = .malformed location reason) ∨
      (∃ community realm, e = .unknownRealm community realm) ∨
      ∃ issues, e = .incomplete issues := by
  rw [load_result] at h
  split at h
  · next hdocs =>
    cases h
    exact .inl ⟨hdocs, rfl⟩
  · cases hd : docs.mapM Document.fragment with
    | error e' =>
      rw [hd] at h
      cases h
      obtain ⟨doc, -, hf⟩ := Except.exists_of_mapM_eq_error hd
      obtain ⟨path, reason, rfl⟩ := Document.malformed_of_fragment hf
      exact .inr (.inl ⟨_, reason, rfl⟩)
    | ok fragments =>
      rw [hd] at h
      obtain ⟨e', hb, rfl⟩ := Except.mapError_eq_error_iff.1 h
      rcases build_error_cases hb with ⟨community, realm, rfl⟩ | ⟨-, rfl⟩
      · exact .inr (.inr (.inl ⟨community, realm, rfl⟩))
      · exact .inr (.inr (.inr ⟨_, rfl⟩))

end Draft

end TrustRouter
