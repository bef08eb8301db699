import TrustRouter.Json.Token
import TrustRouter.Proofs.Number.Digits
import TrustRouter.Proofs.Number.Rounding

/-!
# Numbers as they are written and read

A number that is written out spells that number (`Number.spells_chars`), an integer an integer and a
double a double, the sign of a zero included; and what spells a number is read as that number
(`Number.Spells.scan_append`). What follows has to end the numeral (`Numeral.Ends`): digits, a point
or an exponent would be taken for part of it.

* Numerals are written in four ways: an integer, positionally with the point among the digits or in
  front of them, and scientifically. All four are a `Spelling`, the parts that a scanner takes one
  after the other, so scanning is looked at once (`Spelling.scan_append`).
* Digits that are too many for an integer still spell a number, the nearest double
  (`Number.exists_spells_toDigits`).
* A double is not written with the digits and the scale of its shortest decimal. Zeros are dropped
  or added and the point is moved, so what is read is another decimal of the same value
  (`Decimal.Same`); `Decimal.rank` sees no difference.
-/

namespace TrustRouter

/-! ### Decimals of the same value -/

namespace Decimal

/-- Two decimals of the same value. -/
def Same (x y : Decimal) : Prop := x.numerator * y.denominator = y.numerator * x.denominator

theorem Same.refl (x : Decimal) : x.Same x :=
  rfl

theorem Same.symm {x y : Decimal} (h : x.Same y) : y.Same x :=
  Eq.symm h

theorem Same.trans {x y z : Decimal} (h : x.Same y) (h' : y.Same z) : x.Same z := by
  have hpos : 0 < y.denominator := y.denominator_pos
  refine Nat.eq_of_mul_eq_mul_right hpos ?_
  calc x.numerator * z.denominator * y.denominator
      = x.numerator * y.denominator * z.denominator := Nat.mul_right_comm ..
    _ = y.numerator * z.denominator * x.denominator := by rw [h, Nat.mul_right_comm]
    _ = z.numerator * x.denominator * y.denominator := by rw [h', Nat.mul_right_comm]

theorem Same.rank_eq_iff {x y : Decimal} (h : x.Same y) {r : ℕ} (hr : r < Double.ranks) :
    x.rank = r ↔ y.rank = r :=
  rank_eq_iff_of_value_eq hr h

/-- Zeros at the end of the digits are as good as a greater scale. -/
theorem same_mul_pow (n k : ℕ) (scale : Int) : Same ⟨n * 10 ^ k, scale⟩ ⟨n, scale + k⟩ := by
  have hexponents : k + scale.toNat + (-(scale + k)).toNat =
      (scale + k).toNat + (-scale).toNat := by
    omega
  show n * 10 ^ k * 10 ^ scale.toNat * 10 ^ (-(scale + k)).toNat =
    n * 10 ^ (scale + k).toNat * 10 ^ (-scale).toNat
  rw [Nat.mul_assoc n, ← pow_add, Nat.mul_assoc n, ← pow_add, Nat.mul_assoc n, ← pow_add,
    hexponents]

theorem same_zero (scale scale' : Int) : Same ⟨0, scale⟩ ⟨0, scale'⟩ := by
  simp [Same, numerator]

/-- Digits that are not too many, zeros in front aside, stand for their value. -/
theorem ofDigits_eq {digits : List Char} (h : (Digits.dropZeros digits).length ≤ tieDigits)
    (scale : Int) : ofDigits digits scale = ⟨Digits.value digits, scale⟩ := by
  have hjammed : (Digits.dropZeros digits).length - tieDigits = 0 := by omega
  simp only [ofDigits, hjammed, if_true, Digits.value_dropZeros]

theorem text_of_ne_zero {layout : Layout} {n : ℕ} {scale : Int} (hn : n ≠ 0) :
    text layout ⟨n, scale⟩ =
      if layout.least ≤ scale + (Nat.toDigits 10 n).length - 1 ∧
          scale + (Nat.toDigits 10 n).length - 1 ≤ layout.greatest then
        positional (Digits.trimZeros (Nat.toDigits 10 n)) (scale + (Nat.toDigits 10 n).length - 1)
      else
        scientific (Digits.trimZeros (Nat.toDigits 10 n))
          (scale + (Nat.toDigits 10 n).length - 1) :=
  if_neg hn

end Decimal

namespace Json

/-! ### Scanning -/

namespace Numeral

/-- A text that cannot continue a numeral. -/
def Ends (rest : List Char) : Prop :=
  ∀ c ∈ rest.head?, c.isDigit = false ∧ c ≠ '.' ∧ c ≠ 'e' ∧ c ≠ 'E'

theorem Ends.not_digit {rest : List Char} (h : Ends rest) : ∀ c ∈ rest.head?, c.isDigit = false :=
  fun c hc ↦ (h c hc).1

variable {rest : List Char}

theorem scanDigits_append {digits : List Char} (hne : digits ≠ [])
    (hdigits : ∀ c ∈ digits, c.isDigit = true) (hrest : ∀ c ∈ rest.head?, c.isDigit = false) :
    scanDigits (digits ++ rest) = some (digits, rest) := by
  have htake : rest.takeWhile Char.isDigit = [] ∧ rest.dropWhile Char.isDigit = rest := by
    cases rest with
    | nil => exact ⟨rfl, rfl⟩
    | cons c rest =>
      have hc := hrest c rfl
      exact ⟨by rw [List.takeWhile_cons_of_neg (by simp [hc])],
        by rw [List.dropWhile_cons_of_neg (by simp [hc])]⟩
  rw [scanDigits, List.takeWhile_append_of_pos hdigits, List.dropWhile_append_of_pos hdigits,
    htake.1, htake.2, List.append_nil]
  simp [hne]

/-- The parts of a numeral without its sign. -/
structure Spelling where
  whole : List Char
  fraction : List Char
  exponent : Option Int
  whole_ne_nil : whole ≠ []
  whole_digits : ∀ c ∈ whole, c.isDigit = true
  /-- A zero stands alone. -/
  whole_head : whole = ['0'] ∨ whole.head? ≠ some '0'
  fraction_digits : ∀ c ∈ fraction, c.isDigit = true

namespace Spelling

/-- The fraction part, with its point. -/
def fractionChars (p : Spelling) : List Char := if p.fraction.isEmpty then [] else '.' :: p.fraction

/-- The exponent part, with its letter and its sign. -/
def exponentChars (p : Spelling) : List Char :=
  p.exponent.elim [] fun e ↦ 'e' :: (if e < 0 then '-' else '+') :: Nat.toDigits 10 e.natAbs

/-- The numeral, without its sign. -/
def chars (p : Spelling) : List Char := p.whole ++ (p.fractionChars ++ p.exponentChars)

/-- The decimal that the numeral stands for. -/
def value (p : Spelling) : Decimal :=
  .ofDigits (p.whole ++ Digits.trimZeros p.fraction)
    (p.exponent.getD 0 - (Digits.trimZeros p.fraction).length)

/-- Whether there is neither fraction nor exponent. -/
def plain (p : Spelling) : Bool := p.fraction.isEmpty && p.exponent.isNone

variable (p : Spelling)

theorem scanExponent_append (hrest : Ends rest) :
    scanExponent (p.exponentChars ++ rest) = some (p.exponent, rest) := by
  unfold exponentChars
  cases p.exponent with
  | none =>
    cases rest with
    | nil => rfl
    | cons c rest =>
      obtain ⟨-, -, he, hE⟩ := hrest c rfl
      exact if_neg (by simp [he, hE])
  | some e =>
    have hdigits : scanDigits (Nat.toDigits 10 e.natAbs ++ rest) =
        some (Nat.toDigits 10 e.natAbs, rest) :=
      scanDigits_append Nat.toDigits_ne_nil
        (fun c hc ↦ Nat.isDigit_of_mem_toDigits (by decide) (by decide) hc) hrest.not_digit
    by_cases hneg : e < 0
    · have habs : some (some e, rest) = some (some (-(e.natAbs : Int)), rest) := by
        rw [show -(e.natAbs : Int) = e by omega]
      rw [habs]
      simp [hneg, scanExponent, hdigits, Digits.value_toDigits]
    · have habs : some (some e, rest) = some (some (e.natAbs : Int), rest) := by
        rw [show (e.natAbs : Int) = e by omega]
      rw [habs]
      simp [hneg, scanExponent, hdigits, Digits.value_toDigits]

/-- What follows the fraction is no digit and no point. -/
theorem head?_exponentChars_append (hrest : Ends rest) :
    ∀ c ∈ (p.exponentChars ++ rest).head?, c.isDigit = false ∧ c ≠ '.' := by
  unfold exponentChars
  cases p.exponent with
  | none => exact fun c hc ↦ ⟨(hrest c hc).1, (hrest c hc).2.1⟩
  | some e =>
    rintro c ⟨⟩
    decide

theorem scanFraction_append (hrest : Ends rest) :
    scanFraction (p.fractionChars ++ (p.exponentChars ++ rest)) =
      some (p.fraction, p.exponentChars ++ rest) := by
  have hnext := p.head?_exponentChars_append hrest
  generalize p.exponentChars ++ rest = next at hnext ⊢
  unfold fractionChars
  cases hfraction : p.fraction with
  | nil =>
    cases next with
    | nil => rfl
    | cons c next =>
      have hc : c ≠ '.' := (hnext c rfl).2
      simp [scanFraction, hc]
  | cons c fraction =>
    rw [← hfraction]
    have hne : p.fraction ≠ [] := by simp [hfraction]
    rw [if_neg (by simpa using hne)]
    exact scanDigits_append hne p.fraction_digits fun c hc ↦ (hnext c hc).1

/-- What follows the integer part is no digit. -/
theorem head?_fractionChars_append (hrest : Ends rest) :
    ∀ c ∈ (p.fractionChars ++ (p.exponentChars ++ rest)).head?, c.isDigit = false := by
  have hnext := p.head?_exponentChars_append hrest
  unfold fractionChars
  split
  · exact fun c hc ↦ (hnext c hc).1
  · rintro c ⟨⟩
    decide

theorem scanWhole_append (hrest : ∀ c ∈ rest.head?, c.isDigit = false) :
    scanWhole (p.whole ++ rest) = some (p.whole, rest) := by
  rcases p.whole_head with hzero | hhead
  · rw [hzero]
    rfl
  · have hscan := scanDigits_append p.whole_ne_nil p.whole_digits hrest
    obtain ⟨c, whole, hwhole⟩ := List.exists_cons_of_ne_nil p.whole_ne_nil
    rw [hwhole] at hscan hhead ⊢
    have hc : c ≠ '0' := fun h ↦ hhead (congrArg some h)
    rw [← hscan]
    simp [scanWhole, hc]

theorem scanUnsigned_append (negative : Bool) (hrest : Ends rest) :
    scanUnsigned negative (p.chars ++ rest) = some (⟨negative, p.value, p.plain⟩, rest) := by
  have hwhole := p.scanWhole_append (p.head?_fractionChars_append hrest)
  rw [scanUnsigned, chars, List.append_assoc, List.append_assoc, hwhole]
  simp only [Option.bind_eq_bind, Option.bind_some, p.scanFraction_append hrest,
    p.scanExponent_append hrest]
  rfl

/-- A numeral is scanned as a whole, with its sign. -/
theorem scan_append (negative : Bool) (hrest : Ends rest) :
    scan ((if negative then ['-'] else []) ++ p.chars ++ rest) =
      some (⟨negative, p.value, p.plain⟩, rest) := by
  cases negative with
  | true => exact p.scanUnsigned_append true hrest
  | false =>
    have hscan := p.scanUnsigned_append false hrest
    obtain ⟨c, whole, hwhole⟩ := List.exists_cons_of_ne_nil p.whole_ne_nil
    have hc : c ≠ '-' := by
      rintro rfl
      have hdigit := p.whole_digits '-' (by rw [hwhole]; exact List.mem_cons_self)
      exact absurd hdigit (by decide)
    have hchars : p.chars ++ rest =
        c :: (whole ++ (p.fractionChars ++ p.exponentChars) ++ rest) := by
      rw [chars, hwhole]
      rfl
    rw [hchars] at hscan
    rw [if_neg Bool.false_ne_true, List.nil_append, hchars, ← hscan]
    simp [scan, hc]

/-- The characters of a numeral. -/
theorem isDigit_or_mem_of_mem_chars {c : Char} (h : c ∈ p.chars) :
    c.isDigit = true ∨ c ∈ ['.', 'e', '+', '-'] := by
  rw [chars, List.mem_append, List.mem_append] at h
  rcases h with hwhole | hfraction | hexponent
  · exact .inl (p.whole_digits c hwhole)
  · unfold fractionChars at hfraction
    split at hfraction
    · cases hfraction
    · rcases List.mem_cons.1 hfraction with rfl | hfraction
      · exact .inr (by decide)
      · exact .inl (p.fraction_digits c hfraction)
  · unfold exponentChars at hexponent
    generalize p.exponent = exponent at hexponent
    cases exponent with
    | none => cases hexponent
    | some e =>
      rcases List.mem_cons.1 hexponent with rfl | hexponent
      · exact .inr (by decide)
      · rcases List.mem_cons.1 hexponent with rfl | hdigits
        · split <;> exact .inr (by decide)
        · exact .inl (Nat.isDigit_of_mem_toDigits (by decide) (by decide) hdigits)

end Spelling

/-! ### Layouts -/

/-- Digits without zeros at either end, and not too many. -/
structure Significant (sig : List Char) : Prop where
  ne_nil : sig ≠ []
  digits : ∀ c ∈ sig, c.isDigit = true
  head_ne : sig.head? ≠ some '0'
  last_ne : sig.getLast? ≠ some '0'
  length_le : sig.length ≤ Decimal.tieDigits

theorem isDigit_of_mem_replicate {k : ℕ} : ∀ c ∈ List.replicate k '0', c.isDigit = true := by
  intro c hc
  rw [List.eq_of_mem_replicate hc]
  rfl

theorem isDigit_of_mem_append {l l' : List Char} (h : ∀ c ∈ l, c.isDigit = true)
    (h' : ∀ c ∈ l', c.isDigit = true) : ∀ c ∈ l ++ l', c.isDigit = true :=
  List.forall_mem_append.2 ⟨h, h'⟩

variable {sig : List Char}

theorem Significant.ofDigits_eq (h : Significant sig) (scale : Int) :
    Decimal.ofDigits sig scale = ⟨Digits.value sig, scale⟩ :=
  Decimal.ofDigits_of_length_le h.length_le scale

/-- What is left after the leading digits does not end in a zero either. -/
theorem Significant.trimZeros_drop (h : Significant sig) (places : ℕ) :
    Digits.trimZeros (sig.drop places) = sig.drop places := by
  refine Digits.trimZeros_eq_self ?_
  rw [List.getLast?_drop]
  split
  · exact nofun
  · exact h.last_ne

/-- Scientific notation stands for the digits at that exponent. -/
theorem Significant.exists_scientific (h : Significant sig) (exponent : Int) :
    ∃ p : Spelling, p.chars = Decimal.scientific sig exponent ∧ p.plain = false ∧
      p.value = ⟨Digits.value sig, exponent + 1 - sig.length⟩ := by
  have hdrop := h.trimZeros_drop 1
  have hvalue := h.ofDigits_eq
  obtain ⟨c, fraction, rfl⟩ := List.exists_cons_of_ne_nil h.ne_nil
  let p : Spelling :=
    { whole := [c]
      fraction := fraction
      exponent := some exponent
      whole_ne_nil := List.cons_ne_nil _ _
      whole_digits := fun c' hc' ↦ h.digits c' (List.mem_cons.2 (.inl (List.mem_singleton.1 hc')))
      whole_head := .inr h.head_ne
      fraction_digits := fun c' hc' ↦ h.digits c' (List.mem_cons_of_mem _ hc') }
  refine ⟨p, (List.append_assoc ..).symm, Bool.and_false _, ?_⟩
  have hscale : exponent - fraction.length = exponent + 1 - (c :: fraction).length := by
    rw [List.length_cons]
    omega
  show Decimal.ofDigits (c :: Digits.trimZeros (List.drop 1 (c :: fraction)))
    (exponent - (Digits.trimZeros (List.drop 1 (c :: fraction))).length) = _
  rw [hdrop, ← hscale]
  exact hvalue _

/-- In front of the digits: a point, and zeros up to the first of them. -/
theorem Significant.exists_small (h : Significant sig) {exponent : Int} (hneg : exponent < 0) :
    ∃ p : Spelling,
      p.chars = '0' :: '.' :: (List.replicate (-exponent - 1).toNat '0' ++ sig) ∧
      p.plain = false ∧ p.value = ⟨Digits.value sig, exponent + 1 - sig.length⟩ := by
  let k := (-exponent - 1).toNat
  let p : Spelling :=
    { whole := ['0']
      fraction := List.replicate k '0' ++ sig
      exponent := none
      whole_ne_nil := List.cons_ne_nil _ _
      whole_digits := isDigit_of_mem_replicate (k := 1)
      whole_head := .inl rfl
      fraction_digits := isDigit_of_mem_append isDigit_of_mem_replicate h.digits }
  have hne : (List.replicate k '0' ++ sig).isEmpty = false := by simp [h.ne_nil]
  have hfraction : Digits.trimZeros (List.replicate k '0' ++ sig) =
      List.replicate k '0' ++ sig := by
    refine Digits.trimZeros_eq_self ?_
    rw [List.getLast?_append_of_ne_nil _ h.ne_nil]
    exact h.last_ne
  have hdrop : Digits.dropZeros (['0'] ++ (List.replicate k '0' ++ sig)) = sig := by
    obtain ⟨c, rest, hsig⟩ := List.exists_cons_of_ne_nil h.ne_nil
    have hc : c ≠ '0' := fun hzero ↦ h.head_ne (by rw [hsig, hzero]; rfl)
    rw [Digits.dropZeros, ← List.append_assoc, List.dropWhile_append_of_pos (by simp), hsig,
      List.dropWhile_cons_of_neg (by simpa using hc)]
  refine ⟨p, ?_, ?_, ?_⟩
  · show ['0'] ++ ((if (List.replicate k '0' ++ sig).isEmpty then [] else _) ++ []) = _
    rw [hne, List.append_nil]
    rfl
  · show ((List.replicate k '0' ++ sig).isEmpty && true) = false
    rw [hne]
    rfl
  · show Decimal.ofDigits (['0'] ++ Digits.trimZeros (List.replicate k '0' ++ sig))
      (0 - (Digits.trimZeros (List.replicate k '0' ++ sig)).length) = _
    have hscale : (0 : Int) - (List.replicate k '0' ++ sig).length = exponent + 1 - sig.length := by
      have hk : (k : Int) = -exponent - 1 := Int.toNat_of_nonneg (by omega)
      rw [List.length_append, List.length_replicate]
      omega
    rw [hfraction, hscale, Decimal.ofDigits_eq (by rw [hdrop]; exact h.length_le),
      ← Digits.value_dropZeros, hdrop]

/-- Among the digits: the point at its place. -/
theorem Significant.exists_middle (h : Significant sig) {places : ℕ} (hplaces : 0 < places)
    (hlt : places < sig.length) :
    ∃ p : Spelling, p.chars = sig.take places ++ '.' :: sig.drop places ∧ p.plain = false ∧
      p.value = ⟨Digits.value sig, (places : Int) - sig.length⟩ := by
  have htake : (sig.take places).head? = sig.head? := by
    rw [List.head?_take, if_neg hplaces.ne']
  let p : Spelling :=
    { whole := sig.take places
      fraction := sig.drop places
      exponent := none
      whole_ne_nil := by simp [h.ne_nil, hplaces.ne']
      whole_digits := fun c hc ↦ h.digits c (List.mem_of_mem_take hc)
      whole_head := .inr (htake ▸ h.head_ne)
      fraction_digits := fun c hc ↦ h.digits c (List.mem_of_mem_drop hc) }
  have hne : (sig.drop places).isEmpty = false := by simp [hlt]
  refine ⟨p, ?_, ?_, ?_⟩
  · show sig.take places ++ ((if (sig.drop places).isEmpty then [] else _) ++ []) = _
    rw [hne, List.append_nil]
    rfl
  · show ((sig.drop places).isEmpty && true) = false
    rw [hne]
    rfl
  · show Decimal.ofDigits (sig.take places ++ Digits.trimZeros (sig.drop places))
      (0 - (Digits.trimZeros (sig.drop places)).length) = _
    have hscale : (0 : Int) - (sig.drop places).length = (places : Int) - sig.length := by
      rw [List.length_drop]
      omega
    rw [h.trimZeros_drop, List.take_append_drop, hscale, h.ofDigits_eq]

/-- Behind the digits: zeros up to the point, and one after it. -/
theorem Significant.exists_great (h : Significant sig) {places : ℕ} (hplaces : places ≤ 16)
    (hle : sig.length ≤ places) :
    ∃ p : Spelling,
      p.chars = sig ++ List.replicate (places - sig.length) '0' ++ ['.', '0'] ∧
      p.plain = false ∧ p.value.Same ⟨Digits.value sig, (places : Int) - sig.length⟩ := by
  let zeros := List.replicate (places - sig.length) '0'
  have hhead : (sig ++ zeros).head? = sig.head? := List.head?_append_of_ne_nil _ h.ne_nil
  let p : Spelling :=
    { whole := sig ++ zeros
      fraction := ['0']
      exponent := none
      whole_ne_nil := by simp [h.ne_nil]
      whole_digits := isDigit_of_mem_append h.digits isDigit_of_mem_replicate
      whole_head := .inr (hhead ▸ h.head_ne)
      fraction_digits := isDigit_of_mem_replicate (k := 1) }
  have hlength : (sig ++ zeros).length ≤ Decimal.tieDigits := by
    have hties : Decimal.tieDigits = 768 := rfl
    rw [List.length_append, List.length_replicate]
    omega
  refine ⟨p, rfl, rfl, ?_⟩
  have hvalue : p.value = ⟨Digits.value sig * 10 ^ (places - sig.length), 0⟩ := by
    show Decimal.ofDigits (sig ++ zeros ++ []) 0 = _
    rw [List.append_nil, Decimal.ofDigits_of_length_le hlength,
      Digits.value_append_replicate_zero]
  have hscale : (places : Int) - sig.length = 0 + (places - sig.length : ℕ) := by omega
  rw [hvalue, hscale]
  exact Decimal.same_mul_pow _ _ _

/-- Positional notation stands for the digits at that exponent. -/
theorem Significant.exists_positional (h : Significant sig) {exponent : Int}
    (hle : exponent ≤ 15) :
    ∃ p : Spelling, p.chars = Decimal.positional sig exponent ∧ p.plain = false ∧
      p.value.Same ⟨Digits.value sig, exponent + 1 - sig.length⟩ := by
  unfold Decimal.positional
  split
  case isTrue hneg =>
    obtain ⟨p, hchars, hplain, hvalue⟩ := h.exists_small hneg
    exact ⟨p, hchars, hplain, hvalue ▸ .refl _⟩
  case isFalse hnonneg =>
    have hplaces : exponent + 1 = (exponent.toNat + 1 : ℕ) := by omega
    rw [hplaces]
    by_cases hlength : sig.length ≤ exponent.toNat + 1
    · obtain ⟨p, hchars, hplain, hvalue⟩ := h.exists_great (by omega) hlength
      refine ⟨p, ?_, hplain, hvalue⟩
      simp only [List.drop_eq_nil_of_le hlength, List.take_of_length_le hlength]
      exact hchars
    · have hlt : exponent.toNat + 1 < sig.length := Nat.lt_of_not_le hlength
      obtain ⟨p, hchars, hplain, hvalue⟩ := h.exists_middle (Nat.succ_pos _) hlt
      refine ⟨p, ?_, hplain, hvalue ▸ .refl _⟩
      have hne : (sig.drop (exponent.toNat + 1)).isEmpty = false := by simp [hlt]
      simp only [hne, Nat.sub_eq_zero_of_le hlt.le, List.replicate_zero, List.append_nil]
      exact hchars

/-- The digits of a number, without the zeros at the end. -/
theorem exists_significant {n : ℕ} (hn : n ≠ 0) (hlt : n < 10 ^ Decimal.tieDigits) :
    ∃ k, Significant (Digits.trimZeros (Nat.toDigits 10 n)) ∧
      n = Digits.value (Digits.trimZeros (Nat.toDigits 10 n)) * 10 ^ k ∧
      (Nat.toDigits 10 n).length = (Digits.trimZeros (Nat.toDigits 10 n)).length + k := by
  obtain ⟨k, hdigits⟩ := Digits.exists_eq_trimZeros_append (Nat.toDigits 10 n)
  generalize hsig : Digits.trimZeros (Nat.toDigits 10 n) = sig at hdigits
  have hlength : (Nat.toDigits 10 n).length = sig.length + k := by
    rw [hdigits, List.length_append, List.length_replicate]
  have hvalue : n = Digits.value sig * 10 ^ k := by
    rw [← Digits.value_append_replicate_zero, ← hdigits, Digits.value_toDigits]
  have hne : sig ≠ [] := by
    rintro rfl
    rw [Digits.value_eq_horner] at hvalue
    exact hn (hvalue.trans (Nat.zero_mul _))
  refine ⟨k, ?_, hvalue, hlength⟩
  constructor
  · exact hne
  · intro c hc
    refine Nat.isDigit_of_mem_toDigits (b := 10) (n := n) (by decide) (by decide) ?_
    rw [hdigits]
    exact List.mem_append_left _ hc
  · have hhead : (sig ++ List.replicate k '0').head? = sig.head? :=
      List.head?_append_of_ne_nil sig hne
    rw [← hhead, ← hdigits]
    exact Digits.head?_toDigits_ne hn
  · rw [← hsig]
    exact Digits.getLast?_trimZeros_ne _
  · have hle := (Nat.length_toDigits_le_iff (by decide) (by decide)).2 hlt
    omega

/-- A decimal that is written out stands for a decimal of the same value, and it is no integer. -/
theorem exists_spelling_text {x : Decimal} (hx : x.digits < 10 ^ Decimal.tieDigits) :
    ∃ p : Spelling, p.chars = x.text Number.layout ∧ p.plain = false ∧ p.value.Same x := by
  obtain ⟨n, scale⟩ := x
  by_cases hzero : n = 0
  · let p : Spelling :=
      { whole := ['0']
        fraction := ['0']
        exponent := none
        whole_ne_nil := List.cons_ne_nil _ _
        whole_digits := isDigit_of_mem_replicate (k := 1)
        whole_head := .inl rfl
        fraction_digits := isDigit_of_mem_replicate (k := 1) }
    have hvalue : p.value = ⟨0, 0⟩ := Decimal.ofDigits_of_length_le (by decide) 0
    subst hzero
    exact ⟨p, (if_pos rfl).symm, rfl, hvalue ▸ Decimal.same_zero 0 scale⟩
  · obtain ⟨k, hsig, hn, hlength⟩ := exists_significant hzero hx
    rw [Decimal.text_of_ne_zero hzero, hlength]
    generalize Digits.trimZeros (Nat.toDigits 10 n) = sig at hsig hn ⊢
    have hsame {exponent : Int} (h : exponent = scale + (sig.length + k : ℕ) - 1) :
        Decimal.Same ⟨Digits.value sig, exponent + 1 - sig.length⟩ ⟨n, scale⟩ := by
      have hscale : exponent + 1 - sig.length = scale + k := by omega
      rw [hscale, hn]
      exact (Decimal.same_mul_pow _ _ _).symm
    split
    case isTrue hlayout =>
      obtain ⟨p, hchars, hplain, hvalue⟩ := hsig.exists_positional hlayout.2
      exact ⟨p, hchars, hplain, hvalue.trans (hsame rfl)⟩
    case isFalse =>
      obtain ⟨p, hchars, hplain, hvalue⟩ := hsig.exists_scientific _
      exact ⟨p, hchars, hplain, hvalue ▸ hsame rfl⟩

end Numeral

namespace Number

open Numeral

variable {rest : List Char}

/-- A text spells a number: it is a numeral that denotes it. -/
def Spells (s : List Char) (n : Number) : Prop :=
  ∃ (negative : Bool) (p : Spelling), s = (if negative then ['-'] else []) ++ p.chars ∧
    ofNumeral? ⟨negative, p.value, p.plain⟩ = some n

/-- The digits of an integer. -/
theorem exists_spelling_toDigits {n : ℕ} (hlt : n < 10 ^ Decimal.tieDigits) :
    ∃ p : Spelling, p.chars = Nat.toDigits 10 n ∧ p.plain = true ∧ p.value = ⟨n, 0⟩ := by
  have hhead : Nat.toDigits 10 n = ['0'] ∨ (Nat.toDigits 10 n).head? ≠ some '0' := by
    by_cases hn : n = 0
    · exact .inl (by rw [hn]; rfl)
    · exact .inr (Digits.head?_toDigits_ne hn)
  let p : Spelling :=
    { whole := Nat.toDigits 10 n
      fraction := []
      exponent := none
      whole_ne_nil := Nat.toDigits_ne_nil
      whole_digits := fun c hc ↦ Nat.isDigit_of_mem_toDigits (by decide) (by decide) hc
      whole_head := hhead
      fraction_digits := nofun }
  refine ⟨p, List.append_nil _, rfl, ?_⟩
  have hle := (Nat.length_toDigits_le_iff (by decide) (by decide)).2 hlt
  show Decimal.ofDigits (Nat.toDigits 10 n ++ []) 0 = _
  rw [List.append_nil, Decimal.ofDigits_of_length_le hle, Digits.value_toDigits]

theorem spells_integer {n : Int} (fits : least ≤ n ∧ n < bound) :
    Spells (integer n fits).chars (integer n fits) := by
  have hlt : n.natAbs < 10 ^ Decimal.tieDigits := by
    have hword : n.natAbs < 10 ^ 20 := by
      unfold least bound at fits
      omega
    exact hword.trans_le (Nat.pow_le_pow_right (by decide) (by decide))
  obtain ⟨p, hchars, hplain, hvalue⟩ := exists_spelling_toDigits hlt
  refine ⟨decide (n < 0), p, ?_, ?_⟩
  · simp only [chars, hchars, decide_eq_true_eq]
  · have hsigned : (if decide (n < 0) = true then -(n.natAbs : Int) else n.natAbs) = n := by
      by_cases hneg : n < 0
      · rw [if_pos (decide_eq_true hneg)]
        omega
      · rw [if_neg (by simpa using hneg)]
        omega
    -- A zero has no sign here, or it would be read as a double.
    have hzero : ¬(decide (n < 0) = true ∧ n = 0) := by
      rintro ⟨hneg, rfl⟩
      cases hneg
    have hinteger : Numeral.integer? ⟨decide (n < 0), p.value, p.plain⟩ =
        some (integer n fits) := by
      simp only [Numeral.integer?, hvalue, hsigned]
      rw [dif_pos ⟨hplain, hzero, fits⟩]
    rw [ofNumeral?, hinteger]

theorem spells_double (d : Double) : Spells (double d).chars (double d) := by
  obtain ⟨p, hchars, hplain, hvalue⟩ := exists_spelling_text d.digits_shortest_lt
  refine ⟨d.negative, p, by rw [chars, hchars], ?_⟩
  have hrank : p.value.rank = d.rank := (hvalue.rank_eq_iff d.rank_lt).2 d.rank_shortest
  have hinteger : Numeral.integer? ⟨d.negative, p.value, p.plain⟩ = none :=
    dif_neg fun h ↦ Bool.false_ne_true (hplain.symm.trans h.1)
  have hdouble := Double.ofDecimal?_eq_some hrank
  simp only [ofNumeral?, hinteger, hdouble, Option.map_some]

/-- **Every number is written as a numeral that denotes it.** -/
theorem spells_chars (n : Number) : Spells n.chars n := by
  cases n with
  | integer n fits => exact spells_integer fits
  | double d => exact spells_double d

/-- Digits of numbers too great for an integer spell a double, as long as there is one. -/
theorem exists_spells_toDigits {n : ℕ} (hn : n < 2 ^ 128) : ∃ m, Spells (Nat.toDigits 10 n) m := by
  have hlt : n < 10 ^ Decimal.tieDigits := by
    calc n < 2 ^ 128 := hn
      _ ≤ 10 ^ 128 := Nat.pow_le_pow_left (by decide) 128
      _ ≤ 10 ^ Decimal.tieDigits := Nat.pow_le_pow_right (by decide) (by decide)
  obtain ⟨p, hchars, -, hvalue⟩ := exists_spelling_toDigits hlt
  have hrank : p.value.rank < Double.ranks := by
    rw [hvalue]
    exact Decimal.rank_lt_of_lt_two_pow hn
  have hdouble : Double.ofDecimal? false p.value = some ⟨false, p.value.rank, hrank⟩ :=
    dif_pos hrank
  cases hinteger : Numeral.integer? ⟨false, p.value, p.plain⟩ with
  | some m => exact ⟨m, false, p, hchars.symm, by rw [ofNumeral?, hinteger]⟩
  | none =>
    refine ⟨double ⟨false, p.value.rank, hrank⟩, false, p, hchars.symm, ?_⟩
    simp only [ofNumeral?, hinteger, hdouble, Option.map_some]

namespace Spells

variable {s : List Char} {n : Number}

theorem isDigit_or_mem (h : Spells s n) {c : Char} (hc : c ∈ s) :
    c.isDigit = true ∨ c ∈ ['.', 'e', '+', '-'] := by
  obtain ⟨negative, p, rfl, -⟩ := h
  rcases List.mem_append.1 hc with hsign | hnumeral
  · cases negative with
    | true =>
      rw [List.mem_singleton.1 hsign]
      exact .inr (by decide)
    | false => cases hsign
  · exact p.isDigit_or_mem_of_mem_chars hnumeral

/-- A number begins with its sign or with a digit. -/
theorem exists_eq_cons (h : Spells s n) :
    ∃ c tail, s = c :: tail ∧ (c = '-' ∨ c.isDigit = true) := by
  obtain ⟨negative, p, rfl, -⟩ := h
  cases negative with
  | true => exact ⟨'-', p.chars, rfl, .inl rfl⟩
  | false =>
    obtain ⟨c, whole, hwhole⟩ := List.exists_cons_of_ne_nil p.whole_ne_nil
    have hdigit := p.whole_digits c (by rw [hwhole]; exact List.mem_cons_self)
    refine ⟨c, whole ++ (p.fractionChars ++ p.exponentChars), ?_, .inr hdigit⟩
    rw [Spelling.chars, hwhole]
    rfl

/-- **A number is read as it is spelled.** -/
theorem scan_append (h : Spells s n) (hrest : Ends rest) :
    ∃ x, scan (s ++ rest) = some (x, rest) ∧ ofNumeral? x = some n := by
  obtain ⟨negative, p, rfl, hvalue⟩ := h
  exact ⟨_, p.scan_append negative hrest, hvalue⟩

end Spells

end Number

end Json

end TrustRouter
