import Mathlib.Data.Nat.Notation
import TrustRouter.Name

/-! # Names that are texts

A name made of a text is read back as that text. The reader of ill-formed UTF-8 has nothing to
replace there: it takes the bytes of a character one by one and ends between characters, with that
character read (`Utf8.foldl_step_utf8EncodeChar`). So showing such a name loses nothing, and it can
be had as a text.
-/

namespace TrustRouter

namespace Utf8

variable {n : ℕ} {read : List Char}

/-! ### First bytes -/

/-- The only byte of a character. -/
theorem enter_whole (h : n < 128) :
    Reading.enter read (.ofNat n) = ⟨none, Char.ofNat n :: read⟩ := by
  have hn : (UInt8.ofNat n).toNat = n := UInt8.toNat_ofNat_of_lt' (show n < 256 by omega)
  have hlt : UInt8.ofNat n < 0x80 := by
    rw [UInt8.lt_iff_toNat_lt, hn]
    exact h
  rw [Reading.enter, lead, if_pos hlt, hn]

/-- The first byte of two. -/
theorem enter_opens_one (hlow : 2 ≤ n) (hhigh : n < 32) :
    Reading.enter read (.ofNat (n + 192)) = ⟨some ⟨n, 1, 0x80, 0xBF⟩, read⟩ := by
  have hn : (UInt8.ofNat (n + 192)).toNat = n + 192 :=
    UInt8.toNat_ofNat_of_lt' (show n + 192 < 256 by omega)
  simp only [Reading.enter, lead, UInt8.lt_iff_toNat_lt, UInt8.le_iff_toNat_le, hn]
  rw [if_neg (by simp), if_pos (by simp; omega), Nat.add_sub_cancel]

/-- The first byte of three. -/
theorem enter_opens_two (h : n < 16) :
    Reading.enter read (.ofNat (n + 224)) =
      ⟨some ⟨n, 2, if n = 0 then 0xA0 else 0x80, if n = 13 then 0x9F else 0xBF⟩, read⟩ := by
  have hn : (UInt8.ofNat (n + 224)).toNat = n + 224 :=
    UInt8.toNat_ofNat_of_lt' (show n + 224 < 256 by omega)
  simp only [Reading.enter, lead, UInt8.lt_iff_toNat_lt, UInt8.le_iff_toNat_le, ← UInt8.toNat_inj,
    hn]
  rw [if_neg (by simp), if_neg (by simp), if_pos (by simp; omega), Nat.add_sub_cancel]
  simp

/-- The first byte of four. -/
theorem enter_opens_three (h : n < 5) :
    Reading.enter read (.ofNat (n + 240)) =
      ⟨some ⟨n, 3, if n = 0 then 0x90 else 0x80, if n = 4 then 0x8F else 0xBF⟩, read⟩ := by
  have hn : (UInt8.ofNat (n + 240)).toNat = n + 240 :=
    UInt8.toNat_ofNat_of_lt' (show n + 240 < 256 by omega)
  simp only [Reading.enter, lead, UInt8.lt_iff_toNat_lt, UInt8.le_iff_toNat_le, ← UInt8.toNat_inj,
    hn]
  rw [if_neg (by simp), if_neg (by simp), if_neg (by simp), if_pos (by simp; omega),
    Nat.add_sub_cancel]
  simp

/-! ### Further bytes -/

variable {bits owed : ℕ} {low high : UInt8}

/-- A byte in range continues the pending character, and ends it if it is the last. -/
theorem step_of_pending (h : n < 64) (hlow : low.toNat ≤ n + 128) (hhigh : n + 128 ≤ high.toNat) :
    Reading.step ⟨some ⟨bits, owed, low, high⟩, read⟩ (.ofNat (n + 128)) =
      if owed ≤ 1 then ⟨none, Char.ofNat (bits * 64 + n) :: read⟩
      else ⟨some ⟨bits * 64 + n, owed - 1, 0x80, 0xBF⟩, read⟩ := by
  have hn : (UInt8.ofNat (n + 128)).toNat = n + 128 :=
    UInt8.toNat_ofNat_of_lt' (show n + 128 < 256 by omega)
  simp only [Reading.step, UInt8.le_iff_toNat_le, hn]
  rw [if_pos ⟨hlow, hhigh⟩, Nat.add_sub_cancel]

/-- A byte that is restricted in no other way than further bytes are. -/
theorem step_of_tail (h : n < 64) :
    Reading.step ⟨some ⟨bits, owed, 0x80, 0xBF⟩, read⟩ (.ofNat (n + 128)) =
      if owed ≤ 1 then ⟨none, Char.ofNat (bits * 64 + n) :: read⟩
      else ⟨some ⟨bits * 64 + n, owed - 1, 0x80, 0xBF⟩, read⟩ :=
  step_of_pending h (by show 128 ≤ _; omega) (by show _ ≤ 191; omega)

/-! ### Characters -/

/-- **A character is read from its bytes.** Its number is put together again from the bits that
each byte has of it. -/
theorem foldl_step_utf8EncodeChar (c : Char) (read : List Char) :
    (String.utf8EncodeChar c).foldl Reading.step ⟨none, read⟩ = ⟨none, c :: read⟩ := by
  have hc : Char.ofNat c.val.toNat = c := Char.ofNat_toNat c
  have hvalid : c.val.toNat < 0xD800 ∨ 0xDFFF < c.val.toNat ∧ c.val.toNat < 0x110000 := c.valid
  rw [String.utf8EncodeChar]
  generalize c.val.toNat = v at hc hvalid
  show (if v ≤ 127 then _ else _ : List UInt8).foldl _ _ = _
  split
  · show Reading.enter read (.ofNat v) = _
    rw [enter_whole (by omega), hc]
  split
  · have hbits : v / 64 % 32 * 64 + v % 64 = v := by omega
    show Reading.step (Reading.enter read _) _ = _
    rw [enter_opens_one (by omega) (by omega), step_of_tail (by omega), if_pos (by decide), hbits,
      hc]
  split
  · have hbits : (v / 4096 % 16 * 64 + v / 64 % 64) * 64 + v % 64 = v := by omega
    show Reading.step (Reading.step (Reading.enter read _) _) _ = _
    rw [enter_opens_two (by omega), step_of_pending (by omega), if_neg (by decide),
      step_of_tail (by omega), if_pos (by decide), hbits, hc]
    · split
      · show 160 ≤ _
        omega
      · show 128 ≤ _
        omega
    · split
      · show _ ≤ 159
        omega
      · show _ ≤ 191
        omega
  · have hbits : ((v / 262144 % 8 * 64 + v / 4096 % 64) * 64 + v / 64 % 64) * 64 + v % 64 = v := by
      omega
    show Reading.step (Reading.step (Reading.step (Reading.enter read _) _) _) _ = _
    rw [enter_opens_three (by omega), step_of_pending (by omega), if_neg (by decide),
      step_of_tail (by omega), if_neg (by decide), step_of_tail (by omega), if_pos (by decide),
      hbits, hc]
    · split
      · show 144 ≤ _
        omega
      · show 128 ≤ _
        omega
    · split
      · show _ ≤ 143
        omega
      · show _ ≤ 191
        omega

/-- The characters of a text are read one after the other. -/
theorem foldl_step_flatMap_utf8EncodeChar (l read : List Char) :
    (l.flatMap String.utf8EncodeChar).foldl Reading.step ⟨none, read⟩ =
      ⟨none, l.reverse ++ read⟩ := by
  induction l generalizing read with
  | nil => rfl
  | cons c l ih =>
    rw [List.flatMap_cons, List.foldl_append, foldl_step_utf8EncodeChar, ih, List.reverse_cons,
      List.append_assoc, List.singleton_append]

/-- The characters of a text are those read from its bytes. -/
theorem decode_flatMap_utf8EncodeChar (l : List Char) :
    decode (l.flatMap String.utf8EncodeChar) = l := by
  rw [decode, foldl_step_flatMap_utf8EncodeChar, List.append_nil, Reading.finish]
  exact l.reverse_reverse

/-- Bytes are read as a text exactly when they are the bytes of that text. -/
theorem fromUTF8?_eq_some_iff {bytes : ByteArray} {s : String} :
    String.fromUTF8? bytes = some s ↔ bytes = s.toUTF8 := by
  unfold String.fromUTF8?
  constructor
  · intro h
    obtain ⟨_, hs⟩ := Option.dite_none_right_eq_some.1 h
    cases hs
    rfl
  · rintro rfl
    exact dif_pos s.isValidUTF8

end Utf8

namespace Name

/-- The bytes of a name are UTF-8: it can be had as a text, and the text shown has its bytes. -/
structure IsText (n : Name) : Prop where
  text? : n.text? = some n.text
  ofString_text : .ofString n.text = n

/-- The bytes of a text, character by character. -/
theorem bytes_ofString (s : String) :
    (ofString s).bytes = s.toList.flatMap String.utf8EncodeChar := by
  have hs : s.toUTF8 = (s.toList.flatMap String.utf8EncodeChar).toByteArray := by
    show s.toByteArray = s.toList.utf8Encode
    rw [← String.toByteArray_ofList, String.ofList_toList]
  rw [ofString, hs, List.toList_data_toByteArray]

/-- **Showing loses nothing**: the name of a text is shown as that text. -/
theorem text_ofString (s : String) : (ofString s).text = s := by
  rw [text, Utf8.lossy, bytes_ofString, Utf8.decode_flatMap_utf8EncodeChar, String.ofList_toList]

theorem text?_ofString (s : String) : (ofString s).text? = some s := by
  have hbytes : (⟨s.toUTF8.data.toList.toArray⟩ : ByteArray) = s.toUTF8 := by simp
  rw [text?, ofString, hbytes]
  exact Utf8.fromUTF8?_eq_some_iff.2 rfl

theorem ofString_injective : Function.Injective ofString := by
  intro s s' h
  rw [← text_ofString s, h, text_ofString]

theorem isText_ofString (s : String) : (ofString s).IsText := by
  constructor
  · rw [text?_ofString, text_ofString]
  · rw [text_ofString]

/-- Only the empty text makes the empty name. -/
theorem ofString_eq_empty_iff {s : String} : ofString s = .empty ↔ s = "" :=
  ofString_injective.eq_iff (b := "")

end Name

end TrustRouter
