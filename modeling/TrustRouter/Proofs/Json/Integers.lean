import TrustRouter.Proofs.Json.RoundTrip

/-!
# Texts of integers

A text is read as an integer exactly when it is that integer in decimal, between blanks
(`Json.integer?_ofText?_iff`). A fraction or an exponent, even one that stands for nothing, as in
`1.0` and `1e0`, a zero with a sign, and digits beyond 64 bits make no integer; nor do zeros in
front, which are no JSON at all.

From right to left this is how an integer is written. From left to right every stage of reading is
taken back:

* the reader ends with a number only when it is given that one token (`ofTokens?_eq_number`);
* a text of one token is that token between blanks (`tokens_eq_singleton`);
* a numeral without fraction and exponent is a sign and digits (`Numeral.eq_of_scanUnsigned_plain`);
* the digits of an integer are those of its value, since none of the digits of a number of 64 bits
  are jammed (`Numeral.toDigits_of_lt`).
-/

namespace TrustRouter.Json

/-- An integer in decimal. -/
def decimal (n : Int) : List Char := (if n < 0 then ['-'] else []) ++ Nat.toDigits 10 n.natAbs

theorem integer?_eq_some_iff {v : Json} {n : Int} :
    v.integer? = some n ↔ ∃ fits, v = .number (.integer n fits) := by
  unfold integer?
  constructor
  · intro h
    obtain ⟨m, hm, hn⟩ := Option.bind_eq_some_iff.1 h
    cases v <;> cases hm
    cases m <;> cases hn
    exact ⟨_, rfl⟩
  · rintro ⟨fits, rfl⟩
    rfl

/-! ### Numerals -/

namespace Numeral

variable {s rest : List Char}

theorem scanDigits_eq_some {digits : List Char} (h : scanDigits s = some (digits, rest)) :
    digits ≠ [] ∧ (∀ c ∈ digits, c.isDigit = true) ∧ s = digits ++ rest := by
  simp only [scanDigits] at h
  split at h
  · cases h
  · next hne =>
    cases h
    refine ⟨fun hnil ↦ hne (List.isEmpty_iff.2 hnil), ?_, List.takeWhile_append_dropWhile.symm⟩
    exact List.all_eq_true.1 List.all_takeWhile

theorem scanWhole_eq_some {whole : List Char} (h : scanWhole s = some (whole, rest)) :
    whole ≠ [] ∧ (∀ c ∈ whole, c.isDigit = true) ∧ (whole = ['0'] ∨ whole.head? ≠ some '0') ∧
      s = whole ++ rest := by
  unfold scanWhole at h
  split at h
  case h_1 =>
    cases h
    exact ⟨List.cons_ne_nil _ _, by simp, .inl rfl, rfl⟩
  case h_2 s hzero =>
    obtain ⟨hne, hdigits, rfl⟩ := scanDigits_eq_some h
    obtain ⟨c, tail, rfl⟩ := List.exists_cons_of_ne_nil hne
    refine ⟨hne, hdigits, .inr ?_, rfl⟩
    rintro ⟨⟩
    exact hzero _ rfl

theorem eq_of_scanFraction_nil (h : scanFraction s = some ([], rest)) : s = rest := by
  unfold scanFraction at h
  split at h
  · exact absurd rfl (scanDigits_eq_some h).1
  · cases h
    rfl

theorem eq_of_scanExponent_none (h : scanExponent s = some (none, rest)) : s = rest := by
  unfold scanExponent at h
  split at h
  · split at h
    · split at h <;>
      · obtain ⟨_, -, hsome⟩ := Option.map_eq_some_iff.1 h
        cases hsome
    · cases h
      rfl
  · cases h
    rfl

/-- A numeral without fraction and exponent is its digits. -/
theorem eq_of_scanUnsigned_plain {negative : Bool} {x : Numeral}
    (h : scanUnsigned negative s = some (x, rest)) (hplain : x.plain = true) :
    ∃ whole, whole ≠ [] ∧ (∀ c ∈ whole, c.isDigit = true) ∧
      (whole = ['0'] ∨ whole.head? ≠ some '0') ∧ s = whole ++ rest ∧
      x = ⟨negative, .ofDigits whole 0, true⟩ := by
  simp only [scanUnsigned, Option.bind_eq_bind, Option.bind_eq_some_iff] at h
  obtain ⟨⟨whole, s₁⟩, hwhole, ⟨fraction, s₂⟩, hfraction, ⟨exponent, s₃⟩, hexponent, h⟩ := h
  cases h
  obtain ⟨hnil, hnone⟩ := Bool.and_eq_true_iff.1 hplain
  obtain rfl := List.isEmpty_iff.1 hnil
  obtain rfl := Option.isNone_iff_eq_none.1 hnone
  obtain rfl := eq_of_scanFraction_nil hfraction
  obtain rfl := eq_of_scanExponent_none hexponent
  obtain ⟨hne, hdigits, hhead, hs⟩ := scanWhole_eq_some hwhole
  refine ⟨whole, hne, hdigits, hhead, hs, ?_⟩
  show (⟨negative, .ofDigits (whole ++ []) 0, true⟩ : Numeral) = _
  rw [List.append_nil]

theorem scan_eq_some {x : Numeral} (h : scan s = some (x, rest)) :
    ∃ negative s', s = (if negative then ['-'] else []) ++ s' ∧
      scanUnsigned negative s' = some (x, rest) := by
  unfold scan at h
  split at h
  · exact ⟨true, _, rfl, h⟩
  · exact ⟨false, _, rfl, h⟩

/-- Digits that are too many to be kept stand for a number beyond 64 bits: what is kept of them has
many digits itself. -/
theorem pow_le_digits_of_lt_length {whole : List Char} (hdigits : ∀ c ∈ whole, c.isDigit = true)
    (hhead : whole.head? ≠ some '0') (hlength : Decimal.tieDigits < whole.length) :
    10 ^ 20 ≤ (Decimal.ofDigits whole 0).digits := by
  let kept := whole.take Decimal.tieDigits
  have hvalue : (Decimal.ofDigits whole 0).digits = 10 * Digits.value kept + 1 := by
    rw [Decimal.ofDigits, Digits.dropZeros_eq_self hhead, if_neg (by omega)]
  have hkept : kept.length = Decimal.tieDigits := List.length_take_of_le (Nat.le_of_lt hlength)
  have hne : kept ≠ [] := List.ne_nil_of_length_pos (hkept ▸ by decide)
  have hkeptHead : kept.head? ≠ some '0' := by
    rw [List.head?_take, if_neg (by decide)]
    exact hhead
  have hkeptDigits : Nat.toDigits 10 (Digits.value kept) = kept :=
    Digits.toDigits_value hne (fun c hc ↦ hdigits c (List.mem_of_mem_take hc)) (.inr hkeptHead)
  have hlarge : ¬Digits.value kept < 10 ^ 20 := by
    rw [← Nat.length_toDigits_le_iff (by decide) (by decide), hkeptDigits, hkept]
    decide
  omega

/-- Digits that stand for a number of 64 bits are those of the number. -/
theorem toDigits_of_lt {whole : List Char} (hne : whole ≠ [])
    (hdigits : ∀ c ∈ whole, c.isDigit = true)
    (hhead : whole = ['0'] ∨ whole.head? ≠ some '0')
    (hlt : (Decimal.ofDigits whole 0).digits < 10 ^ 20) :
    Nat.toDigits 10 (Decimal.ofDigits whole 0).digits = whole := by
  have hlength : whole.length ≤ Decimal.tieDigits := by
    rcases hhead with rfl | hhead
    · decide
    · refine Nat.le_of_not_lt fun hlength ↦ ?_
      exact Nat.not_le_of_lt hlt (pow_le_digits_of_lt_length hdigits hhead hlength)
  rw [Decimal.ofDigits_of_length_le hlength]
  exact Digits.toDigits_value hne hdigits hhead

theorem integer?_eq_some {x : Numeral} {n : Int} {fits : Number.least ≤ n ∧ n < Number.bound}
    (h : x.integer? = some (.integer n fits)) :
    x.plain = true ∧ ¬(x.negative = true ∧ n = 0) ∧
      n = if x.negative then -(x.value.digits : Int) else x.value.digits := by
  unfold integer? at h
  obtain ⟨hplain, hn⟩ := Option.dite_none_right_eq_some.1 h
  cases hn
  exact ⟨hplain.1, hplain.2.1, rfl⟩

/-- A numeral that denotes an integer is read from how the integer is written. -/
theorem eq_decimal_append_of_scan {x : Numeral} {n : Int}
    {fits : Number.least ≤ n ∧ n < Number.bound} (h : scan s = some (x, rest))
    (hn : Number.ofNumeral? x = some (.integer n fits)) :
    s = decimal n ++ rest := by
  have hinteger : x.integer? = some (.integer n fits) := by
    unfold Number.ofNumeral? at hn
    split at hn
    · next hsome => rw [hsome, hn]
    · obtain ⟨_, -, hdouble⟩ := Option.map_eq_some_iff.1 hn
      cases hdouble
  obtain ⟨hplain, hzero, hvalue⟩ := integer?_eq_some hinteger
  obtain ⟨negative, s', rfl, hscan⟩ := scan_eq_some h
  obtain ⟨whole, hne, hdigits, hhead, rfl, rfl⟩ := eq_of_scanUnsigned_plain hscan hplain
  have hbounds : -0x8000000000000000 ≤ n ∧ n < 0x10000000000000000 := fits
  have hvalue : n = if negative then -((Decimal.ofDigits whole 0).digits : Int)
      else (Decimal.ofDigits whole 0).digits := hvalue
  have habs : n.natAbs = (Decimal.ofDigits whole 0).digits := by
    rw [hvalue]
    split <;> omega
  have hsign : negative = true ↔ n < 0 := by
    split at hvalue
    · next hnegative =>
      have hne : n ≠ 0 := fun h ↦ hzero ⟨hnegative, h⟩
      exact iff_of_true hnegative (by omega)
    · next hnegative => exact iff_of_false hnegative (by omega)
  have hwhole := toDigits_of_lt hne hdigits hhead (by omega)
  rw [← habs] at hwhole
  rw [decimal, hwhole, List.append_assoc]
  simp only [hsign]

end Numeral

/-! ### Tokens -/

theorem Token.scan_eq_number {s rest : List Char} {m : Number}
    (h : Token.scan s = some (.number m, rest)) :
    ∃ x, Numeral.scan s = some (x, rest) ∧ Number.ofNumeral? x = some m := by
  unfold Token.scan at h
  split at h
  case h_7 =>
    obtain ⟨_, -, hstring⟩ := Option.map_eq_some_iff.1 h
    cases hstring
  case h_11 =>
    simp only [Option.bind_eq_bind, Option.bind_eq_some_iff] at h
    obtain ⟨⟨x, _⟩, hx, n, hn, heq⟩ := h
    cases heq
    exact ⟨x, hx, hn⟩
  all_goals cases h

namespace Token

variable {s : List Char} {read ts : List Token}

/-- No token is lost. -/
theorem length_le_of_scanAll (h : scanAll read s = some ts) : read.length ≤ ts.length := by
  fun_induction scanAll read s with
  | case1 =>
    cases h
    exact (List.length_reverse ..).ge
  | case2 _ _ _ _ ih => exact ih h
  | case3 => cases h
  | case4 _ _ _ _ _ _ _ ih => exact Nat.le_of_succ_le (ih h)

/-- What has no token is blanks. -/
theorem blank_of_scanAll (h : scanAll read s = some ts) (hlength : ts.length = read.length) :
    ∀ c ∈ s, isBlank c = true := by
  fun_induction scanAll read s with
  | case1 => exact nofun
  | case2 _ _ _ hblank ih => exact List.forall_mem_cons.2 ⟨hblank, ih h hlength⟩
  | case3 => cases h
  | case4 =>
    have hlonger := length_le_of_scanAll h
    rw [List.length_cons] at hlonger
    omega

theorem scanAll_blanks_append {blanks : List Char} (hblanks : ∀ c ∈ blanks, isBlank c = true)
    (read : List Token) (s : List Char) : scanAll read (blanks ++ s) = scanAll read s := by
  induction blanks with
  | nil => rfl
  | cons c blanks ih =>
    obtain ⟨hc, hrest⟩ := List.forall_mem_cons.1 hblanks
    rw [List.cons_append, scanAll, if_pos hc, ih hrest]

end Token

/-- A text of one token is that token between blanks. -/
theorem tokens_eq_singleton {s : List Char} {t : Token} (h : tokens s = some [t]) :
    ∃ before middle after, s = before ++ middle ∧ (∀ c ∈ before, isBlank c = true) ∧
      Token.scan middle = some (t, after) ∧ ∀ c ∈ after, isBlank c = true := by
  unfold tokens at h
  induction s with
  | nil =>
    rw [Token.scanAll] at h
    cases h
  | cons c s ih =>
    by_cases hc : isBlank c = true
    · rw [Token.scanAll, if_pos hc] at h
      obtain ⟨before, middle, after, rfl, hbefore, hscan, hafter⟩ := ih h
      exact ⟨c :: before, middle, after, rfl, List.forall_mem_cons.2 ⟨hc, hbefore⟩, hscan, hafter⟩
    · have hblank := Bool.eq_false_iff.2 hc
      cases hscan : Token.scan (c :: s) with
      | none =>
        rw [Token.scanAll, hblank] at h
        simp only [Bool.false_eq_true, if_false] at h
        split at h
        · cases h
        · next hsome =>
          rw [hscan] at hsome
          cases hsome
      | some scanned =>
        obtain ⟨t', after⟩ := scanned
        rw [scanAll_cons hblank hscan] at h
        have hafter := Token.blank_of_scanAll h rfl
        rw [scanAll_blanks hafter] at h
        cases h
        exact ⟨[], c :: s, after, rfl, List.forall_mem_nil _, hscan, hafter⟩

/-! ### Readers -/

namespace Reader

/-- The last step of a run. -/
theorem exists_step_of_foldlM {ts : List Token} {t : Token} {r r' : Reader}
    (h : (ts ++ [t]).foldlM step r = some r') :
    ∃ r'', ts.foldlM step r = some r'' ∧ r''.step t = some r' := by
  rw [List.foldlM_append] at h
  obtain ⟨r'', hr, hstep⟩ := Option.bind_eq_some_iff.1 h
  simp only [List.foldlM_cons, List.foldlM_nil, bind_pure] at hstep
  exact ⟨r'', hr, hstep⟩

/-- A step takes a value of one token where a value is expected, or it begins, goes on with or ends
a container; and no container is a number. -/
theorem step_cases {r r' : Reader} {t : Token} (h : r.step t = some r') :
    (∃ stack first v, r = .value stack first ∧ scalar? t = some v ∧ r' = .after stack v) ∨
      (∀ first, r' ≠ .value [] first) ∧ ∀ stack m, r' ≠ .after stack (.number m) := by
  unfold step at h
  split at h
  case h_4 =>
    obtain ⟨v, hv, rfl⟩ := Option.map_eq_some_iff.1 h
    exact .inl ⟨_, _, v, rfl, hv, rfl⟩
  -- only the beginning of a container depends on how many are open
  case h_1 =>
    split at h <;> cases h
    exact .inr ⟨fun _ ↦ nofun, fun _ _ ↦ nofun⟩
  case h_2 =>
    split at h <;> cases h
    exact .inr ⟨fun _ ↦ nofun, fun _ _ ↦ nofun⟩
  case h_12 => cases h
  all_goals
    cases h
    exact .inr ⟨fun _ ↦ nofun, fun _ _ ↦ nofun⟩

/-- Once a token is taken, a value that is expected has a place in a container. -/
theorem step_ne_value_nil (r : Reader) (t : Token) (first : Bool) :
    r.step t ≠ some (.value [] first) := by
  intro h
  rcases step_cases h with ⟨_, _, _, -, -, hafter⟩ | ⟨hne, -⟩
  · cases hafter
  · exact hne first rfl

/-- What makes a number complete is its token, where a value is expected. -/
theorem step_eq_after_number {r : Reader} {t : Token} {m : Number}
    (h : r.step t = some (.after [] (.number m))) :
    t = .number m ∧ ∃ first, r = .value [] first := by
  rcases step_cases h with ⟨_, first, _, rfl, hv, hafter⟩ | ⟨-, hne⟩
  · cases hafter
    refine ⟨?_, first, rfl⟩
    unfold scalar? at hv
    split at hv
    all_goals cases hv
    rfl
  · exact absurd rfl (hne [] m)

end Reader

/-- A number is read from its token and no other. -/
theorem ofTokens?_eq_number {ts : List Token} {m : Number} (h : ofTokens? ts = some (.number m)) :
    ts = [.number m] := by
  obtain ⟨r, hr, hresult⟩ := Option.bind_eq_some_iff.1 h
  obtain rfl : r = .after [] (.number m) := by
    unfold Reader.result? at hresult
    split at hresult
    · cases hresult
      rfl
    · cases hresult
  rcases List.eq_nil_or_concat' ts with rfl | ⟨before, t, rfl⟩
  · cases hr
  · obtain ⟨_, hbefore, hstep⟩ := Reader.exists_step_of_foldlM hr
    obtain ⟨rfl, first, rfl⟩ := Reader.step_eq_after_number hstep
    rcases List.eq_nil_or_concat' before with rfl | ⟨before, t, rfl⟩
    · rfl
    · obtain ⟨r, -, hfirst⟩ := Reader.exists_step_of_foldlM hbefore
      exact absurd hfirst (r.step_ne_value_nil t first)

/-! ### Texts -/

/-- **A text is read as an integer exactly when it is that integer in decimal, between blanks**, and
the integer fits 64 bits. -/
theorem integer?_ofText?_iff {text : String} {n : Int} :
    (ofText? text).bind integer? = some n ↔ (Number.least ≤ n ∧ n < Number.bound) ∧
      ∃ before after, (∀ c ∈ before, isBlank c = true) ∧ (∀ c ∈ after, isBlank c = true) ∧
        text.toList = before ++ decimal n ++ after := by
  constructor
  · intro h
    obtain ⟨v, hv, hinteger⟩ := Option.bind_eq_some_iff.1 h
    obtain ⟨fits, rfl⟩ := integer?_eq_some_iff.1 hinteger
    obtain ⟨ts, hts, hread⟩ := Option.bind_eq_some_iff.1 hv
    rw [ofTokens?_eq_number hread] at hts
    obtain ⟨before, middle, after, htext, hbefore, hscan, hafter⟩ := tokens_eq_singleton hts
    obtain ⟨x, hx, hn⟩ := Token.scan_eq_number hscan
    refine ⟨fits, before, after, hbefore, hafter, ?_⟩
    rw [htext, Numeral.eq_decimal_append_of_scan hx hn, List.append_assoc]
  · rintro ⟨fits, before, after, hbefore, hafter, htext⟩
    have hscans := (scans_number (Number.integer n fits).spells_chars).ofText?_append hafter
      (Nat.zero_le _)
    rw [ofText?, String.toList_ofList] at hscans
    rw [ofText?, htext, tokens, List.append_assoc, Token.scanAll_blanks_append hbefore]
    show ((tokens ((Number.integer n fits).chars ++ after)).bind ofTokens?).bind integer? = some n
    rw [hscans]
    rfl

end TrustRouter.Json
