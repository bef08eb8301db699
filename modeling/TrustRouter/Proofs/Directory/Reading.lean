import TrustRouter.Proofs.Directory.Discovery
import TrustRouter.Proofs.Document.Entities
import TrustRouter.Proofs.Pointwise
import TrustRouter.Proofs.Text.Lossless

/-!
# Reading a directory

What becomes of a directory, in terms of its entries and their bytes (`Listing.discovery_exact`):
which files are read and in what order, and then either a document for each of them or the first
refusal.

* A file **holds** a document or is **refused**; which of the two depends on its bytes only
  (`ConfigFile.ofFile_eq_ok_iff`, `ConfigFile.ofFile_eq_error_iff`).
* Files are read in order, and the first that is refused ends it, whatever comes behind it
  (`Listing.readDocuments_eq_error_iff`).
* The length of a document is limited twice, when it is read and when it is decoded. What a file
  holds passes the second time (`Document.fragment_ne_tooLong`).
-/

namespace TrustRouter

/-! ### Names -/

/-- The name of a configuration file, by the texts that it begins and ends with. -/
theorem Name.isConfigFile_iff {n : Name} :
    n.isConfigFile = true ↔
      (ofString ".cfg").bytes <:+ n.bytes ∧ ¬(ofString ".").bytes <+: n.bytes := by
  have hsuffix : (ofString ".cfg").bytes = configSuffix := by decide
  have hdot : (ofString ".").bytes = [0x2E] := by decide
  rw [isConfigFile, hsuffix, hdot, Bool.and_eq_true_iff, List.isSuffixOf_iff_suffix, bne_iff_ne,
    and_comm]
  refine and_congr_right fun _ ↦ not_congr ?_
  cases n.bytes <;> simp [eq_comm]

/-! ### Documents -/

namespace Document

/-- What is no longer than a document may be is not refused for its length when it is decoded. A
fault in the value is no such refusal either, for it has a place in the value. -/
theorem fragment_ne_tooLong [Json.Diagnosis] {doc : Document}
    (h : doc.text.toUTF8.size ≤ maxBytes) :
    doc.fragment ≠ .error (.malformed ⟨doc.name, none⟩ .tooLong) := by
  have hsize : ¬maxBytes < doc.text.utf8ByteSize := Nat.not_lt_of_le h
  rw [fragment, if_neg hsize]
  cases Json.ofText? doc.text with
  | none => exact nofun
  | some v =>
    intro hfault
    obtain ⟨fault, -, hlocation⟩ := Except.mapError_eq_error_iff.1 hfault
    cases hlocation

end Document

/-! ### Files -/

namespace ConfigFile

/-- A file of a directory holds a document: a text, under the name of the file, whose bytes are
those of the file, and they are at most one mebibyte. -/
structure Holds (dir : String) (f : ConfigFile) (doc : Document) : Prop where
  contents : f.contents = .ok doc.text.toUTF8
  size_le : doc.text.toUTF8.size ≤ 1024 * 1024
  name : doc.name = documentName (entryPath dir f.name)

/-- A file of a directory is refused: it cannot be read, it is longer than one mebibyte, or it is
not too long and no UTF-8. -/
inductive Refused (dir : String) (f : ConfigFile) : LoadError → Prop
  | unreadable {attempt : Attempt} {e : OsError} (contents : f.contents = .error (attempt, e)) :
    Refused dir f (.io attempt (entryPath dir f.name) e)
  | tooLong {bytes : ByteArray} (contents : f.contents = .ok bytes)
    (lt_size : 1024 * 1024 < bytes.size) :
    Refused dir f (.malformed ⟨documentName (entryPath dir f.name), none⟩ .tooLong)
  | notUtf8 {bytes : ByteArray} (contents : f.contents = .ok bytes)
    (size_le : bytes.size ≤ 1024 * 1024) (invalid : ¬bytes.IsValidUTF8) :
    Refused dir f (.malformed ⟨documentName (entryPath dir f.name), none⟩ .notUtf8)

variable {dir : String} {f : ConfigFile}

theorem ofFile_eq_ok_iff {doc : Document} :
    Document.ofFile (entryPath dir f.name) f.contents = .ok doc ↔ f.Holds dir doc := by
  rw [Document.ofFile_eq_ok_iff]
  constructor
  · rintro ⟨bytes, hcontents, hsize, htext, hname⟩
    obtain rfl := Utf8.fromUTF8?_eq_some_iff.1 htext
    exact ⟨hcontents, hsize, hname⟩
  · rintro ⟨hcontents, hsize, hname⟩
    exact ⟨_, hcontents, hsize, Utf8.fromUTF8?_eq_some_iff.2 rfl, hname⟩

theorem ofFile_eq_error_iff {e : LoadError} :
    Document.ofFile (entryPath dir f.name) f.contents = .error e ↔ f.Refused dir e := by
  constructor
  · intro h
    rcases hcontents : f.contents with ⟨attempt, os⟩ | bytes
    · rw [hcontents] at h
      cases h
      exact .unreadable hcontents
    · rw [hcontents, Document.ofFile_ok, Document.ofBytes] at h
      split at h
      · next hlong =>
        cases h
        exact .tooLong hcontents hlong
      · next hshort =>
        unfold String.fromUTF8? at h
        split at h
        · next hnone =>
          cases h
          exact .notUtf8 hcontents (Nat.le_of_not_lt hshort) (by simpa using hnone)
        · cases h
  · rintro (⟨hcontents⟩ | @⟨bytes, hcontents, hlong⟩ | @⟨bytes, hcontents, hshort, hinvalid⟩)
    · rw [hcontents]
      rfl
    · have hlong : Document.maxBytes < bytes.size := hlong
      rw [hcontents, Document.ofFile_ok, Document.ofBytes, if_pos hlong]
    · have hshort : ¬Document.maxBytes < bytes.size := Nat.not_lt_of_le hshort
      have hnone : String.fromUTF8? bytes = none := dif_neg hinvalid
      rw [hcontents, Document.ofFile_ok, Document.ofBytes, if_neg hshort, hnone]

end ConfigFile

/-! ### Directories -/

namespace Listing

variable {l l' : Listing} {dir : String}

theorem mem_configFiles_iff {f : ConfigFile} :
    f ∈ l.configFiles ↔ f.name.isConfigFile = true ∧ (f.name, .file f.contents) ∈ l := by
  rw [(configFiles_perm l).mem_iff, List.mem_filterMap]
  simp only [ConfigFile.ofListed?_eq_some_iff]
  constructor
  · rintro ⟨_, hmem, hname, rfl⟩
    exact ⟨hname, hmem⟩
  · rintro ⟨hname, hmem⟩
    exact ⟨_, hmem, hname, rfl⟩

theorem readDocuments_eq (l : Listing) (dir : String) :
    readDocuments dir (.ok l) =
      l.configFiles.mapM fun f ↦ Document.ofFile (entryPath dir f.name) f.contents :=
  rfl

theorem readDocuments_eq_ok_iff {docs : List Document} :
    readDocuments dir (.ok l) = .ok docs ↔
      List.Forall₂ (fun f doc ↦ f.Holds dir doc) l.configFiles docs := by
  simp only [readDocuments_eq, Except.mapM_eq_ok_iff, ConfigFile.ofFile_eq_ok_iff]

/-- Reading ends at the first file that is refused, and all files before it hold documents. -/
theorem readDocuments_eq_error_iff {e : LoadError} :
    readDocuments dir (.ok l) = .error e ↔ ∃ before f after,
      l.configFiles = before ++ f :: after ∧ f.Refused dir e ∧
      ∀ g ∈ before, ∃ doc, g.Holds dir doc := by
  simp only [readDocuments_eq, Except.mapM_eq_error_iff, ConfigFile.ofFile_eq_error_iff,
    ConfigFile.ofFile_eq_ok_iff]

/-- **Discovery is exact.** However the entries of a directory are enumerated, the files found in it
are the regular files whose names end in `.cfg` and do not begin with a dot, in strictly ascending
byte order of their names. Reading them gives either a document for each of them, in that order,
with the bytes of the file and no longer than the limit, so that decoding never refuses it for its
length; or the refusal of the first file that cannot be read, is too long or is no UTF-8. A file of
exactly one mebibyte is read, and one that is longer by a byte is refused. -/
theorem discovery_exact [Json.Diagnosis] :
    (∀ (dir : String) (l l' : Listing), l.DistinctNames → l.Perm l' → ∃ files,
      findConfigFiles dir (.ok l) = .ok files ∧ findConfigFiles dir (.ok l') = .ok files ∧
      (files.Pairwise fun f f' ↦ f.name.bytes < f'.name.bytes) ∧
      (∀ f : ConfigFile, f ∈ files ↔ (f.name, .file f.contents) ∈ l ∧
        (Name.ofString ".cfg").bytes <:+ f.name.bytes ∧
        ¬(Name.ofString ".").bytes <+: f.name.bytes) ∧
      readDocuments dir (.ok l') = readDocuments dir (.ok l) ∧
      ((∃ docs, readDocuments dir (.ok l) = .ok docs ∧
        List.Forall₂ (fun f doc ↦ f.Holds dir doc ∧
          doc.fragment ≠ .error (.malformed ⟨doc.name, none⟩ .tooLong)) files docs) ∨
      ∃ before f after e, readDocuments dir (.ok l) = .error e ∧ files = before ++ f :: after ∧
        f.Refused dir e ∧ ∀ g ∈ before, ∃ doc, g.Holds dir doc)) ∧
    (∀ path bytes, bytes.IsValidUTF8 → bytes.size = 1024 * 1024 → ∃ doc,
      Document.ofFile path (.ok bytes) = .ok doc ∧ doc.text.toUTF8 = bytes) ∧
    ∀ path bytes, bytes.size = 1024 * 1024 + 1 →
      Document.ofFile path (.ok bytes) =
        .error (.malformed ⟨documentName path, none⟩ .tooLong) := by
  refine ⟨fun dir l l' hdistinct hperm ↦ ?_, fun path bytes hvalid hsize ↦ ?_,
    fun path bytes hsize ↦ ?_⟩
  · have hsame : SameDirectory (.ok l) (.ok l') := .listed hdistinct hperm
    refine ⟨l.configFiles, rfl, (hsame.findConfigFiles_eq dir).symm,
      pairwise_configFiles hdistinct, fun f ↦ ?_, (hsame.readDocuments_eq dir).symm, ?_⟩
    · rw [mem_configFiles_iff, Name.isConfigFile_iff, and_comm]
    · rcases hread : readDocuments dir (.ok l) with e | docs
      · obtain ⟨before, f, after, hfiles, hrefused, hbefore⟩ := readDocuments_eq_error_iff.1 hread
        exact .inr ⟨before, f, after, e, rfl, hfiles, hrefused, hbefore⟩
      · refine .inl ⟨docs, rfl, (readDocuments_eq_ok_iff.1 hread).imp fun f doc hdoc ↦ ?_⟩
        exact ⟨hdoc, Document.fragment_ne_tooLong hdoc.size_le⟩
  · refine ⟨⟨documentName path, String.fromUTF8 bytes hvalid⟩, ?_, rfl⟩
    exact Document.ofFile_eq_ok_iff.2
      ⟨bytes, rfl, Nat.le_of_eq hsize, Utf8.fromUTF8?_eq_some_iff.2 rfl, rfl⟩
  · have hlong : Document.maxBytes < bytes.size := hsize ▸ Nat.lt_succ_self _
    rw [Document.ofFile_ok, Document.ofBytes, if_pos hlong]

/-- A directory with a file of every sort, in descending order: a directory named like a document, a
text, a document that is no UTF-8, a document, and a hidden file. -/
def mixed : Listing := [
  (.ofString "z.cfg", .other),
  (.ofString "notes.txt", .file (.ok "{}".toUTF8)),
  (.ofString "b.cfg", .file (.ok ⟨#[0xFF]⟩)),
  (.ofString "a.cfg", .file (.ok "{}".toUTF8)),
  (.ofString ".a.cfg", .file (.ok "{}".toUTF8))]

theorem discovery_exact_mixed : mixed.DistinctNames ∧ ∃ files e,
    findConfigFiles "conf" (.ok mixed) = .ok files ∧
    findConfigFiles "conf" (.ok mixed.reverse) = .ok files ∧
    ⟨.ofString "a.cfg", .ok "{}".toUTF8⟩ ∈ files ∧
    ⟨.ofString ".a.cfg", .ok "{}".toUTF8⟩ ∉ files ∧
    readDocuments "conf" (.ok mixed.reverse) = .error e := by
  have hdistinct : mixed.DistinctNames := by decide +kernel
  obtain ⟨files, hfiles, hfiles', -, hmem, hread, houtcome⟩ :=
    discovery_exact.1 "conf" mixed mixed.reverse hdistinct (List.reverse_perm _).symm
  have hfound : ⟨.ofString "a.cfg", .ok "{}".toUTF8⟩ ∈ files :=
    (hmem _).2 ⟨by simp [mixed], by decide, by decide⟩
  have hhidden : ⟨.ofString ".a.cfg", .ok "{}".toUTF8⟩ ∉ files :=
    fun h ↦ absurd ((hmem _).1 h).2.2 (by decide)
  have hinvalid : ⟨.ofString "b.cfg", .ok ⟨#[0xFF]⟩⟩ ∈ files :=
    (hmem _).2 ⟨by simp [mixed], by decide, by decide⟩
  rcases houtcome with ⟨docs, -, hdocs⟩ | ⟨-, -, -, e, he, -⟩
  · obtain ⟨doc, -, hdoc, -⟩ := hdocs.flip.exists_left hinvalid
    have hvalid : ByteArray.IsValidUTF8 ⟨#[0xFF]⟩ :=
      Except.ok.inj hdoc.contents ▸ doc.text.isValidUTF8
    exact absurd hvalid (by decide)
  · exact ⟨hdistinct, files, e, hfiles, hfiles', hfound, hhidden, hread.trans he⟩

end Listing

end TrustRouter
