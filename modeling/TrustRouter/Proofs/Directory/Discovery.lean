import Mathlib.Data.List.Sort
import TrustRouter.Directory.Discovery
import TrustRouter.Proofs.Except

/-!
# The files of a directory

Later documents override earlier ones, so the order in which files are read is part of what a
directory means. The system enumerates a directory in any order; that it does not matter rests on
two facts.

* Names are linearly ordered by their bytes, so sorting leaves the files in ascending order.
* No two entries of a directory have one name, so the order is strict
  (`Listing.pairwise_configFiles`), and there is only one way in which the same files can be in
  strictly ascending order (`Listing.configFiles_eq_of_perm`).

An enumeration may also break off. Then it is no listing, and nothing of it is read
(`findConfigFiles_ofEntries`).
-/

namespace TrustRouter

/-! ### Byte order -/

namespace Name

instance : Std.IsLinearOrder Name where
  le_refl a := List.le_refl a.bytes
  le_trans _ _ _ h h' := List.le_trans h h'
  le_total a b := List.le_total a.bytes b.bytes
  le_antisymm _ _ h h' := congrArg mk (List.le_antisymm h h')

instance : Std.LawfulOrderLT Name where
  lt_iff a b := Std.lt_iff_le_and_not_ge (a := a.bytes) (b := b.bytes)

end Name

/-! ### Configuration files -/

namespace ConfigFile

/-- An entry is a configuration file when it is a regular file with such a name. -/
theorem ofListed?_eq_some_iff {e : Name × Entry} {f : ConfigFile} :
    ofListed? e = some f ↔ f.name.isConfigFile = true ∧ e = (f.name, .file f.contents) := by
  obtain ⟨name, contents | -⟩ := e
  · rw [ofListed?, Option.ite_none_right_eq_some]
    constructor
    · intro ⟨hname, hf⟩
      obtain rfl := Option.some.inj hf
      exact ⟨hname, rfl⟩
    · intro ⟨hname, he⟩
      obtain ⟨rfl, hentry⟩ := Prod.mk.inj he
      obtain rfl := Entry.file.inj hentry
      exact ⟨hname, rfl⟩
  · simp [ofListed?]

end ConfigFile

namespace Listing

/-- No two entries have one name. -/
def DistinctNames (l : Listing) : Prop := (l.map Prod.fst).Nodup

instance (l : Listing) : Decidable l.DistinctNames :=
  inferInstanceAs (Decidable (l.map Prod.fst).Nodup)

variable {l l' : Listing}

theorem configFiles_perm (l : Listing) :
    l.configFiles.Perm (l.filterMap ConfigFile.ofListed?) :=
  List.mergeSort_perm _ _

/-- No two configuration files have one name. -/
theorem DistinctNames.pairwise_configFiles (h : l.DistinctNames) :
    l.configFiles.Pairwise fun f f' ↦ f.name ≠ f'.name := by
  have hnames : l.Pairwise fun e e' ↦ e.1 ≠ e'.1 := List.pairwise_map.1 h
  rw [(configFiles_perm l).pairwise_iff Ne.symm, List.pairwise_filterMap]
  refine hnames.imp fun hne f hf f' hf' ↦ ?_
  obtain ⟨-, rfl⟩ := ConfigFile.ofListed?_eq_some_iff.1 hf
  obtain ⟨-, rfl⟩ := ConfigFile.ofListed?_eq_some_iff.1 hf'
  exact hne

/-- **Files are in strictly ascending byte order of their names.** -/
theorem pairwise_configFiles (h : l.DistinctNames) :
    l.configFiles.Pairwise fun f f' ↦ f.name < f'.name := by
  have hsorted : l.configFiles.Pairwise fun f f' ↦ decide (f.name ≤ f'.name) = true :=
    List.pairwise_mergeSort (fun a b c ↦ by simpa using Std.le_trans)
      (fun a b ↦ by simpa using Std.le_total) _
  -- sorting only gives that no name is greater than a later one; that they differ is given
  refine (hsorted.and h.pairwise_configFiles).imp fun hle ↦ ?_
  exact Std.lt_of_le_of_ne (of_decide_eq_true hle.1) hle.2

theorem DistinctNames.perm (h : l.DistinctNames) (hperm : l.Perm l') : l'.DistinctNames :=
  (hperm.map Prod.fst).nodup_iff.1 h

/-- **The order of enumeration does not matter.** The same entries in another order have the same
files in the same order. -/
theorem configFiles_eq_of_perm (h : l.DistinctNames) (hperm : l.Perm l') :
    l.configFiles = l'.configFiles := by
  have hfiles : l.configFiles.Perm l'.configFiles :=
    calc l.configFiles.Perm (l.filterMap ConfigFile.ofListed?) := configFiles_perm l
      List.Perm _ (l'.filterMap ConfigFile.ofListed?) := hperm.filterMap _
      List.Perm _ l'.configFiles := (configFiles_perm l').symm
  have hasc := pairwise_configFiles h
  have hasc' := pairwise_configFiles (h.perm hperm)
  refine List.Perm.eq_of_pairwise (fun f f' _ _ hlt hlt' ↦ ?_) hasc hasc' hfiles
  -- two files cannot stand in both orders
  exact absurd (Std.le_of_lt hlt) (Std.not_le.2 hlt')

end Listing

/-! ### Directories -/

/-- An enumeration with no refusal in it is that of a listing. -/
theorem Listing.eq_map_ok_of_mapM {entries : List (Except OsError (Name × Entry))} {l : Listing}
    (h : entries.mapM id = .ok l) : entries = l.map .ok := by
  have hentries : List.Forall₂ (fun entry listed ↦ entry = .ok listed) entries l :=
    Except.mapM_eq_ok_iff.1 h
  rwa [← List.forall₂_map_right_iff, List.forall₂_eq_eq_eq] at hentries

/-- **An entry that is refused ends discovery**, whatever has been found by then: either all entries
are listed and their files are found, or the first refusal is reported. -/
theorem findConfigFiles_ofEntries (dir : String) (entries : List (Except OsError (Name × Entry))) :
    (∃ l : Listing, entries = l.map .ok ∧
      findConfigFiles dir (Listing.ofEntries entries) = .ok l.configFiles) ∨
    ∃ (before : Listing) (e : OsError) (after : List (Except OsError (Name × Entry))),
      entries = before.map .ok ++ .error e :: after ∧
      findConfigFiles dir (Listing.ofEntries entries) = .error (.entry e) := by
  cases h : entries.mapM id with
  | ok l =>
    refine .inl ⟨l, Listing.eq_map_ok_of_mapM h, ?_⟩
    rw [Listing.ofEntries, h]
    rfl
  | error e =>
    obtain ⟨before, entry, after, hentries, hentry, hbefore⟩ := Except.mapM_eq_error_iff.1 h
    obtain ⟨listed, hlisted⟩ := Except.exists_mapM_eq_ok hbefore
    refine .inr ⟨listed, e, after, ?_, ?_⟩
    · rw [hentries, Listing.eq_map_ok_of_mapM hlisted]
      exact congrArg (listed.map .ok ++ · :: after) hentry
    · rw [Listing.ofEntries, h]
      rfl

/-- What listing one directory twice gives as long as nothing in it changes: a refusal for the same
reason, or the same entries, which may be enumerated in another order. -/
inductive SameDirectory : Except ListingError Listing → Except ListingError Listing → Prop
  | refused (e : ListingError) : SameDirectory (.error e) (.error e)
  | listed {l l' : Listing} (distinct : l.DistinctNames) (same : l.Perm l') :
    SameDirectory (.ok l) (.ok l')

namespace SameDirectory

variable {listing listing' : Except ListingError Listing} {dir : String}

theorem findConfigFiles_eq (h : SameDirectory listing listing') (dir : String) :
    findConfigFiles dir listing = findConfigFiles dir listing' := by
  rcases h with e | ⟨distinct, same⟩
  · rfl
  · exact congrArg Except.ok (Listing.configFiles_eq_of_perm distinct same)

theorem readDocuments_eq (h : SameDirectory listing listing') (dir : String) :
    readDocuments dir listing = readDocuments dir listing' := by
  rw [readDocuments, h.findConfigFiles_eq dir]
  rfl

theorem pairwise_findConfigFiles (h : SameDirectory listing listing') {files : List ConfigFile}
    (hfiles : findConfigFiles dir listing = .ok files) :
    files.Pairwise fun f f' ↦ f.name < f'.name := by
  rcases h with e | ⟨distinct, same⟩
  · cases hfiles
  · cases hfiles
    exact Listing.pairwise_configFiles distinct

end SameDirectory

/-- The byte beyond the limit is enough to tell that a file is too long, and no file that is not has
one. -/
theorem Document.ofFile_ok (path : String) (bytes : ByteArray) :
    ofFile path (.ok bytes) = ofBytes (documentName path) bytes := by
  rw [ofFile]
  rcases Nat.lt_or_ge maxBytes bytes.size with hlong | hshort
  · have hread : maxBytes < (bytes.extract 0 (maxBytes + 1)).size := by
      rw [ByteArray.size_extract]
      omega
    rw [ofBytes, ofBytes, if_pos hlong, if_pos hread]
  · have hread := ByteArray.extract_zero_max_size (a := bytes) (i := maxBytes + 1)
    rw [Nat.max_eq_left (by omega)] at hread
    rw [hread]

/-- A file gives a document when it can be read, is not too long and is text. -/
theorem Document.ofFile_eq_ok_iff {path : String} {contents : Except FileError ByteArray}
    {doc : Document} :
    ofFile path contents = .ok doc ↔
      ∃ bytes, contents = .ok bytes ∧ bytes.size ≤ maxBytes ∧
        String.fromUTF8? bytes = some doc.text ∧ doc.name = documentName path := by
  rcases contents with ⟨attempt, e⟩ | bytes
  · simp [ofFile]
  · rw [ofFile_ok]
    rcases Nat.lt_or_ge maxBytes bytes.size with hlong | hshort
    · simp [ofBytes, hlong, Nat.not_le_of_lt hlong]
    · rcases htext : String.fromUTF8? bytes with - | text
      · simp [ofBytes, Nat.not_lt_of_le hshort, htext]
      · obtain ⟨name, text'⟩ := doc
        simp [ofBytes, Nat.not_lt_of_le hshort, hshort, htext, and_comm, eq_comm]

/-- Documents are read when the files are found and each of them gives one. -/
theorem readDocuments_eq_ok_iff {dir : String} {listing : Except ListingError Listing}
    {docs : List Document} :
    readDocuments dir listing = .ok docs ↔
      ∃ files, findConfigFiles dir listing = .ok files ∧
        List.Forall₂ (fun f doc ↦ Document.ofFile (entryPath dir f.name) f.contents = .ok doc)
          files docs := by
  rw [readDocuments, Except.bind_eq_ok_iff]
  exact exists_congr fun files ↦ and_congr_right fun _ ↦ Except.mapM_eq_ok_iff

end TrustRouter
