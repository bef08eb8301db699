import Mathlib.Data.List.Forall2
import TrustRouter.Json.Read
import TrustRouter.Json.Write
import TrustRouter.Proofs.Json.Numerals

/-!
# What is written is read

A value that is written as text is read as that value again (`Json.ofText?_text`), whatever its
strings are made of, as long as it is not nested deeper than a reader follows. And its text has no
character below the space in it (`Json.unbroken_chars`), so in particular no line feed: the end of a
line cannot be forged by what is inside it.

* Both halves of reading are inverted one after the other. The tokens of a value are written down
  beside its characters (`Json.tokenList`); scanning its text gives these tokens, and the machine
  that takes tokens comes from them to the value.
* Scanning is about texts, not only about those that values are written as: `Json.Scans s v` says
  that `s` is scanned as the tokens of `v`. So an object can be read whose values are no values that
  could be written, such as an integer with too many digits (`Json.scans_writtenObject`).
* All facts are by induction on values (`Json.induction`), with an induction on the elements or
  members inside.
-/

namespace TrustRouter.Json

/-! ### Values -/

/-- Induction on values: an array or object may rely on what it holds. -/
@[elab_as_elim]
theorem induction {P : Json → Prop} (null : P .null) (bool : ∀ b, P (.bool b))
    (number : ∀ n, P (.number n)) (string : ∀ s, P (.string s))
    (array : ∀ items, (∀ v ∈ items, P v) → P (.array items))
    (object : ∀ members : Members, (∀ m ∈ members, P m.2) → P (.object members)) :
    ∀ v, P v
  | .null => null
  | .bool b => bool b
  | .number n => number n
  | .string s => string s
  | .array items => array items fun v _ ↦ induction null bool number string array object v
  | .object members => object members fun m hm ↦ by
    have hlt : sizeOf m.2 < sizeOf members :=
      Nat.lt_trans (by cases m; simp +arith) (List.sizeOf_lt_of_mem hm)
    exact induction null bool number string array object m.2
termination_by v => v

mutual

/-- How deep containers are nested. -/
def depth : Json → ℕ
  | .array items => itemDepth items + 1
  | .object members => memberDepth members + 1
  | _ => 0

/-- How deep containers are nested in elements. -/
def itemDepth : List Json → ℕ
  | [] => 0
  | v :: items => max v.depth (itemDepth items)

/-- How deep containers are nested in members. -/
def memberDepth : List (String × Json) → ℕ
  | [] => 0
  | (_, v) :: members => max v.depth (memberDepth members)

end

mutual

/-- The tokens that a value is written with. -/
def tokenList : Json → List Token
  | .null => [.null]
  | .bool b => [.bool b]
  | .number n => [.number n]
  | .string s => [.string s]
  | .array [] => [.beginArray, .endArray]
  | .array (v :: items) => .beginArray :: (v.tokenList ++ itemTokens items)
  | .object [] => [.beginObject, .endObject]
  | .object ((key, v) :: members) =>
    .beginObject :: .string key :: .colon :: (v.tokenList ++ memberTokens members)

/-- The tokens of the elements after the first, and of the end of the array. -/
def itemTokens : List Json → List Token
  | [] => [.endArray]
  | v :: items => .comma :: (v.tokenList ++ itemTokens items)

/-- The tokens of the members after the first, and of the end of the object. -/
def memberTokens : List (String × Json) → List Token
  | [] => [.endObject]
  | (key, v) :: members => .comma :: .string key :: .colon :: (v.tokenList ++ memberTokens members)

end

/-! ### From tokens to values -/

/-- The machine comes from the tokens of a value to the value. -/
def Reads (v : Json) : Prop :=
  ∀ (stack : List Frame) (first : Bool), stack.length + v.depth ≤ maxDepth →
    v.tokenList.foldlM Reader.step (.value stack first) = some (.after stack v)

theorem foldlM_itemTokens {items : List Json} (h : ∀ v ∈ items, Reads v) (stack : List Frame)
    (before : List Json) (v : Json) (hdepth : stack.length + 1 + itemDepth items ≤ maxDepth) :
    (itemTokens items).foldlM Reader.step (.after (.element before :: stack) v) =
      some (.after stack (.array (before.reverse ++ v :: items))) := by
  induction items generalizing before v with
  | nil => simp [itemTokens, Reader.step]
  | cons w items ih =>
    rw [itemDepth] at hdepth
    have hw := h w List.mem_cons_self (.element (v :: before) :: stack) false
      (by rw [List.length_cons]; omega)
    have hrest := ih (fun u hu ↦ h u (List.mem_cons_of_mem w hu)) (v :: before) w (by omega)
    rw [itemTokens, List.foldlM_cons, Reader.step]
    show List.foldlM Reader.step _ (w.tokenList ++ itemTokens items) = _
    rw [List.foldlM_append, hw]
    show List.foldlM Reader.step _ (itemTokens items) = _
    rw [hrest, List.reverse_cons, List.append_assoc]
    rfl

theorem foldlM_memberTokens {members : Members} (h : ∀ m ∈ members, Reads m.2)
    (stack : List Frame) (before : Members) (key : String) (v : Json)
    (hdepth : stack.length + 1 + memberDepth members ≤ maxDepth) :
    (memberTokens members).foldlM Reader.step (.after (.member before key :: stack) v) =
      some (.after stack (.object (before.reverse ++ (key, v) :: members))) := by
  induction members generalizing before key v with
  | nil => simp [memberTokens, Reader.step]
  | cons m members ih =>
    obtain ⟨key', w⟩ := m
    rw [memberDepth] at hdepth
    have hreads : Reads w := h (key', w) List.mem_cons_self
    have hw := hreads (.member ((key, v) :: before) key' :: stack) false
      (by rw [List.length_cons]; omega)
    have hrest := ih (fun m hm ↦ h m (List.mem_cons_of_mem _ hm)) ((key, v) :: before) key' w
      (by omega)
    show List.foldlM Reader.step (.value (.member ((key, v) :: before) key' :: stack) false)
      (w.tokenList ++ memberTokens members) = _
    rw [List.foldlM_append, hw]
    show List.foldlM Reader.step _ (memberTokens members) = _
    rw [hrest, List.reverse_cons, List.append_assoc]
    rfl

/-- The machine comes from the tokens of every value to the value. -/
theorem reads (v : Json) : Reads v := by
  induction v using Json.induction with
  | null => exact fun _ _ _ ↦ rfl
  | bool b => exact fun _ _ _ ↦ rfl
  | number n => exact fun _ _ _ ↦ rfl
  | string s => exact fun _ _ _ ↦ rfl
  | array items ih =>
    intro stack first hdepth
    rw [depth] at hdepth
    have hopen : stack.length < maxDepth := by omega
    cases items with
    | nil => simp [tokenList, Reader.step, hopen]
    | cons v items =>
      rw [itemDepth] at hdepth
      have hv := ih v List.mem_cons_self (.element [] :: stack) true
        (by rw [List.length_cons]; omega)
      have hrest := foldlM_itemTokens (fun u hu ↦ ih u (List.mem_cons_of_mem v hu)) stack [] v
        (by omega)
      have hstep : Reader.step (.value stack first) .beginArray =
          some (.value (.element [] :: stack) true) := if_pos hopen
      rw [tokenList, List.foldlM_cons, hstep]
      show List.foldlM Reader.step _ (v.tokenList ++ itemTokens items) = _
      rw [List.foldlM_append, hv]
      exact hrest
  | object members ih =>
    intro stack first hdepth
    rw [depth] at hdepth
    have hopen : stack.length < maxDepth := by omega
    cases members with
    | nil => simp [tokenList, Reader.step, hopen]
    | cons m members =>
      obtain ⟨key, v⟩ := m
      rw [memberDepth] at hdepth
      have hreads : Reads v := ih (key, v) List.mem_cons_self
      have hv := hreads (.member [] key :: stack) false (by rw [List.length_cons]; omega)
      have hrest := foldlM_memberTokens (fun m hm ↦ ih m (List.mem_cons_of_mem _ hm)) stack [] key v
        (by omega)
      have hstep : Reader.step (.value stack first) .beginObject =
          some (.key stack [] true) := if_pos hopen
      rw [tokenList, List.foldlM_cons, hstep]
      show List.foldlM Reader.step (.value (.member [] key :: stack) false)
        (v.tokenList ++ memberTokens members) = _
      rw [List.foldlM_append, hv]
      exact hrest

theorem ofTokens?_tokenList {v : Json} (h : v.depth ≤ maxDepth) :
    ofTokens? v.tokenList = some v := by
  have hreads := v.reads [] false (by simpa using h)
  rw [ofTokens?, hreads]
  rfl

/-! ### From text to tokens -/

/-! #### Strings -/

/-- The escape of a character below the space gives its code point. -/
theorem codeUnit?_hexDigit : ∀ n < 32,
    codeUnit? '0' '0' (hexDigit (n / 16)) (hexDigit (n % 16)) = some n := by
  decide

/-- An escaped character is read as that character. -/
theorem scanString_escape (c : Char) (read rest : List Char) :
    scanString none read (escape c ++ rest) = scanString none (c :: read) rest := by
  unfold escape
  split
  case h_8 hquote hbackslash _ _ _ _ _ =>
    split
    case isTrue hlow =>
      have hlow : c.toNat < 32 := hlow
      have hunit := codeUnit?_hexDigit c.toNat hlow
      have hpair : pair? none c.toNat = some (none, some c) := by
        rw [pair?, if_neg (by omega), if_neg (by omega), Char.ofNat_toNat]
      show scanString none read ('\\' :: 'u' :: '0' :: '0' :: hexDigit (c.toNat / 16) ::
        hexDigit (c.toNat % 16) :: rest) = _
      rw [scanString, hunit, Option.bind_some, hpair]
    case isFalse hhigh =>
      have hc : ¬(c < ' ' ∨ c = '\\') := fun h ↦ h.elim hhigh hbackslash
      show scanString none read (c :: rest) = _
      rw [scanString]
      · simp_all
      · exact fun _ _ _ _ _ h _ ↦ hbackslash h
      · exact fun _ _ h _ ↦ hbackslash h
  all_goals rfl

theorem scanString_flatMap_escape (s read rest : List Char) :
    scanString none read (s.flatMap escape ++ '"' :: rest) =
      some (String.ofList (read.reverse ++ s), rest) := by
  induction s generalizing read with
  | nil =>
    rw [List.flatMap_nil, List.append_nil]
    rfl
  | cons c s ih =>
    rw [List.flatMap_cons, List.append_assoc, scanString_escape, ih, List.reverse_cons,
      List.append_assoc]
    rfl

/-- A string between quotes is one token. -/
theorem scan_quote (s : String) (rest : List Char) :
    Token.scan (quote s ++ rest) = some (.string s, rest) := by
  have hscan := scanString_flatMap_escape s.toList [] rest
  show Token.scan ('"' :: (s.toList.flatMap escape ++ ['"'] ++ rest)) = _
  rw [List.append_assoc, List.singleton_append, Token.scan, hscan]
  simp

/-! #### Numbers -/

/-- No other token begins like a numeral. -/
theorem scan_of_numeral {c : Char} {s : List Char} (hc : c = '-' ∨ c.isDigit = true) :
    Token.scan (c :: s) = (Numeral.scan (c :: s)).bind fun scanned ↦
      (Number.ofNumeral? scanned.1).map fun n ↦ (.number n, scanned.2) := by
  unfold Token.scan
  split
  case h_11 =>
    cases Numeral.scan (c :: s) with
    | none => rfl
    | some scanned =>
      show (Number.ofNumeral? scanned.1).bind _ = (Number.ofNumeral? scanned.1).map _
      cases Number.ofNumeral? scanned.1 <;> rfl
  all_goals
    rename_i hs
    cases hs
    exact absurd hc (by decide)

theorem scan_of_spells {s : List Char} {n : Number} (h : Number.Spells s n) {rest : List Char}
    (hrest : Numeral.Ends rest) : Token.scan (s ++ rest) = some (.number n, rest) := by
  obtain ⟨x, hscan, hvalue⟩ := h.scan_append hrest
  obtain ⟨c, tail, rfl, hc⟩ := h.exists_eq_cons
  rw [List.cons_append] at hscan ⊢
  rw [scan_of_numeral hc, hscan, Option.bind_some, hvalue, Option.map_some]

/-! #### Values -/

theorem isBlank_of_isDigit {c : Char} (h : c.isDigit = true) : isBlank c = false := by
  rw [Bool.eq_false_iff]
  intro hblank
  simp only [isBlank, Bool.or_eq_true, beq_iff_eq] at hblank
  rcases hblank with ((rfl | rfl) | rfl) | rfl <;> cases h

/-- What is left after the first token, if no blank comes before it. -/
theorem scanAll_cons {c : Char} {s rest : List Char} {t : Token} (hblank : isBlank c = false)
    (hscan : Token.scan (c :: s) = some (t, rest)) (read : List Token) :
    Token.scanAll read (c :: s) = Token.scanAll (t :: read) rest := by
  rw [Token.scanAll, hblank]
  simp only [Bool.false_eq_true, if_false]
  split
  case h_1 hnone =>
    rw [hscan] at hnone
    cases hnone
  case h_2 hsome =>
    rw [hscan] at hsome
    cases hsome
    rfl

/-- A text is scanned as the tokens of a value, if nothing continues a numeral at its end. -/
def Scans (s : List Char) (v : Json) : Prop :=
  ∀ (rest : List Char) (read : List Token), Numeral.Ends rest →
    Token.scanAll read (s ++ rest) = Token.scanAll (v.tokenList.reverse ++ read) rest

theorem ends_itemChars_append (items : List Json) (rest : List Char) :
    Numeral.Ends (itemChars items ++ rest) := by
  cases items <;> (rintro c ⟨⟩; decide)

theorem scanAll_itemChars {items : List Json} (h : ∀ v ∈ items, Scans v.chars v)
    (rest : List Char) (read : List Token) : Token.scanAll read (itemChars items ++ rest) =
      Token.scanAll ((itemTokens items).reverse ++ read) rest := by
  induction items generalizing read with
  | nil => exact scanAll_cons rfl rfl read
  | cons v items ih =>
    have hv := h v List.mem_cons_self (itemChars items ++ rest) (.comma :: read)
      (ends_itemChars_append items rest)
    have hrest := ih (fun u hu ↦ h u (List.mem_cons_of_mem v hu))
      (v.tokenList.reverse ++ .comma :: read)
    rw [itemChars, itemTokens, List.cons_append, List.append_assoc, scanAll_cons rfl rfl, hv, hrest]
    simp

/-- What spells a number is scanned as that number. -/
theorem scans_number {s : List Char} {n : Number} (h : Number.Spells s n) :
    Scans s (.number n) := by
  intro rest read hrest
  have hscan := scan_of_spells h hrest
  obtain ⟨c, tail, rfl, hc⟩ := h.exists_eq_cons
  have hblank : isBlank c = false := by
    rcases hc with rfl | hdigit
    · rfl
    · exact isBlank_of_isDigit hdigit
  exact scanAll_cons hblank hscan read

/-- The text of an array is scanned when its elements are. -/
theorem scans_array {items : List Json} (h : ∀ v ∈ items, Scans v.chars v) :
    Scans (chars (.array items)) (.array items) := by
  intro rest read hrest
  cases items with
  | nil => exact (scanAll_cons rfl rfl read).trans (scanAll_cons rfl rfl _)
  | cons v items =>
    have hv := h v List.mem_cons_self (itemChars items ++ rest) (.beginArray :: read)
      (ends_itemChars_append items rest)
    have hitems := scanAll_itemChars (fun u hu ↦ h u (List.mem_cons_of_mem v hu)) rest
      (v.tokenList.reverse ++ .beginArray :: read)
    rw [chars, tokenList, List.cons_append, List.append_assoc, scanAll_cons rfl rfl, hv, hitems]
    simp

/-! #### Objects

Of an object it matters only how its values are scanned, not that they were written as values. -/

/-- The members are written with their keys and with texts that are scanned as their values. -/
def Members.Scans (written : List (String × List Char)) (members : Members) : Prop :=
  List.Forall₂ (fun w m ↦ w.1 = m.1 ∧ Json.Scans w.2 m.2) written members

variable {written : List (String × List Char)} {members : Members}

theorem ends_writtenMembers_append (written : List (String × List Char)) (rest : List Char) :
    Numeral.Ends (writtenMembers written ++ rest) := by
  cases written <;> (rintro c ⟨⟩; decide)

/-- A member is scanned as its key, a colon and its value. -/
theorem scanAll_member {s : List Char} {v : Json} (h : Scans s v) (key : String) {rest : List Char}
    (hrest : Numeral.Ends rest) (read : List Token) :
    Token.scanAll read (quote key ++ ':' :: (s ++ rest)) =
      Token.scanAll (v.tokenList.reverse ++ .colon :: .string key :: read) rest := by
  calc Token.scanAll read (quote key ++ ':' :: (s ++ rest))
      = Token.scanAll (.string key :: read) (':' :: (s ++ rest)) :=
        scanAll_cons rfl (scan_quote key _) read
    _ = Token.scanAll (.colon :: .string key :: read) (s ++ rest) := scanAll_cons rfl rfl _
    _ = Token.scanAll (v.tokenList.reverse ++ .colon :: .string key :: read) rest := h rest _ hrest

theorem scanAll_writtenMembers (h : Members.Scans written members) (rest : List Char)
    (read : List Token) : Token.scanAll read (writtenMembers written ++ rest) =
      Token.scanAll ((memberTokens members).reverse ++ read) rest := by
  induction h generalizing read with
  | nil => exact scanAll_cons rfl rfl read
  | @cons w m written members hw _ ih =>
    obtain ⟨key, s⟩ := w
    obtain ⟨key', v⟩ := m
    obtain ⟨rfl, hscans⟩ : key = key' ∧ Scans s v := hw
    have hmember := scanAll_member hscans key (ends_writtenMembers_append written rest)
      (.comma :: read)
    have hrest := ih (v.tokenList.reverse ++ .colon :: .string key :: .comma :: read)
    have hwritten : writtenMembers ((key, s) :: written) ++ rest =
        ',' :: (quote key ++ ':' :: (s ++ (writtenMembers written ++ rest))) := by
      simp [writtenMembers]
    rw [hwritten, scanAll_cons rfl rfl, hmember, hrest, memberTokens]
    simp

/-- **An object is scanned** when its values are. -/
theorem scans_writtenObject (h : Members.Scans written members) :
    Scans (writtenObject written) (.object members) := by
  intro rest read hrest
  cases h with
  | nil => exact (scanAll_cons rfl rfl read).trans (scanAll_cons rfl rfl _)
  | @cons w m written members hw hscans =>
    obtain ⟨key, s⟩ := w
    obtain ⟨key', v⟩ := m
    obtain ⟨rfl, hvalue⟩ : key = key' ∧ Scans s v := hw
    have hmember := scanAll_member hvalue key (ends_writtenMembers_append written rest)
      (.beginObject :: read)
    have hmembers := scanAll_writtenMembers hscans rest
      (v.tokenList.reverse ++ .colon :: .string key :: .beginObject :: read)
    have hwritten : writtenObject ((key, s) :: written) ++ rest =
        '{' :: (quote key ++ ':' :: (s ++ (writtenMembers written ++ rest))) := by
      simp [writtenObject]
    rw [hwritten, scanAll_cons rfl rfl, hmember, hmembers, tokenList]
    simp

theorem memberChars_eq (members : Members) :
    memberChars members = writtenMembers (members.map fun m ↦ (m.1, m.2.chars)) := by
  induction members with
  | nil => rfl
  | cons m members ih =>
    rw [memberChars, ih]
    rfl

/-- An object is written by its values. -/
theorem chars_object (members : Members) :
    chars (.object members) = writtenObject (members.map fun m ↦ (m.1, m.2.chars)) := by
  cases members with
  | nil => rfl
  | cons m members =>
    rw [chars, memberChars_eq]
    rfl

/-- The text of every value is scanned as its tokens. -/
theorem scans (v : Json) : Scans v.chars v := by
  induction v using Json.induction with
  | null => exact fun rest read _ ↦ scanAll_cons rfl rfl read
  | bool b => cases b <;> exact fun rest read _ ↦ scanAll_cons rfl rfl read
  | number n => exact scans_number n.spells_chars
  | string s => exact fun rest read _ ↦ scanAll_cons rfl (scan_quote s rest) read
  | array items ih => exact scans_array ih
  | object members ih =>
    have hmembers : Members.Scans (members.map fun m ↦ (m.1, m.2.chars)) members :=
      List.forall₂_map_left_iff.2 (List.forall₂_same.2 fun m hm ↦ ⟨rfl, ih m hm⟩)
    rw [chars_object]
    exact scans_writtenObject hmembers

theorem scanAll_blanks {blanks : List Char} (h : ∀ c ∈ blanks, isBlank c = true)
    (read : List Token) : Token.scanAll read blanks = some read.reverse := by
  induction blanks with
  | nil => rw [Token.scanAll]
  | cons c blanks ih =>
    obtain ⟨hc, hrest⟩ := List.forall_mem_cons.1 h
    rw [Token.scanAll, if_pos hc, ih hrest]

theorem ends_of_blanks {blanks : List Char} (h : ∀ c ∈ blanks, isBlank c = true) :
    Numeral.Ends blanks := by
  intro c hc
  have hblank := h c (List.mem_of_mem_head? hc)
  simp only [isBlank, Bool.or_eq_true, beq_iff_eq] at hblank
  rcases hblank with ((rfl | rfl) | rfl) | rfl <;> decide

/-- **What is scanned as a value is read as that value**, whatever blanks follow, if it is not
nested deeper than is read. -/
theorem Scans.ofText?_append {s blanks : List Char} {v : Json} (h : Scans s v)
    (hblanks : ∀ c ∈ blanks, isBlank c = true) (hdepth : v.depth ≤ maxDepth) :
    ofText? (String.ofList (s ++ blanks)) = some v := by
  have hscans := h blanks [] (ends_of_blanks hblanks)
  rw [List.append_nil, scanAll_blanks hblanks] at hscans
  have htokens : tokens (s ++ blanks) = some v.tokenList := by
    rw [tokens, hscans, List.reverse_reverse]
  rw [Json.ofText?, String.toList_ofList, htokens]
  exact ofTokens?_tokenList hdepth

theorem Scans.ofText? {s : List Char} {v : Json} (h : Scans s v) (hdepth : v.depth ≤ maxDepth) :
    ofText? (String.ofList s) = some v := by
  have htext := h.ofText?_append (List.forall_mem_nil _) hdepth
  rwa [List.append_nil] at htext

/-- **What is written is read.** The text of a value is read as that value. -/
theorem ofText?_text {v : Json} (hdepth : v.depth ≤ maxDepth) : ofText? v.text = some v :=
  v.scans.ofText? hdepth

/-! ### Characters -/

/-- A text without characters below the space: nothing in it ends a line. -/
def Unbroken (s : List Char) : Prop := ∀ c ∈ s, ' '.toNat ≤ c.toNat

instance (s : List Char) : Decidable (Unbroken s) :=
  List.decidableBAll (fun c : Char ↦ ' '.toNat ≤ c.toNat) s

theorem Unbroken.append {s s' : List Char} (h : Unbroken s) (h' : Unbroken s') :
    Unbroken (s ++ s') :=
  List.forall_mem_append.2 ⟨h, h'⟩

theorem Unbroken.cons {c : Char} {s : List Char} (hc : ' '.toNat ≤ c.toNat) (h : Unbroken s) :
    Unbroken (c :: s) :=
  List.forall_mem_cons.2 ⟨hc, h⟩

/-- An escape takes the place of a character below the space. -/
theorem unbroken_escape (c : Char) : Unbroken (escape c) := by
  have hdigit : ∀ n < 16, ' '.toNat ≤ (hexDigit n).toNat := by decide
  unfold escape
  split
  case h_8 =>
    split
    case isTrue hlow =>
      have hlow : c.toNat < 32 := hlow
      have hmarks : Unbroken ['\\', 'u', '0', '0'] := by decide
      have hhigh := hdigit (c.toNat / 16) (by omega)
      have hrest := hdigit (c.toNat % 16) (by omega)
      exact hmarks.append (.cons hhigh (.cons hrest nofun))
    case isFalse hhigh => exact .cons (Nat.le_of_not_lt hhigh) nofun
  all_goals decide

theorem unbroken_quote (s : String) : Unbroken (quote s) := by
  have hescapes : Unbroken (s.toList.flatMap escape) := by
    intro c hc
    obtain ⟨c', -, hmem⟩ := List.mem_flatMap.1 hc
    exact unbroken_escape c' c hmem
  exact .cons (by decide) (hescapes.append (by decide))

theorem Number.Spells.unbroken {s : List Char} {n : Number} (h : Number.Spells s n) :
    Unbroken s := by
  have hmark : Unbroken ['.', 'e', '+', '-'] := by decide
  intro c hc
  rcases h.isDigit_or_mem hc with hdigit | hmem
  · exact Nat.le_trans (by decide) (Char.isDigit_iff_toNat.1 hdigit).1
  · exact hmark c hmem

theorem unbroken_itemChars {items : List Json} (h : ∀ v ∈ items, Unbroken v.chars) :
    Unbroken (itemChars items) := by
  induction items with
  | nil => decide
  | cons v items ih =>
    have hv := h v List.mem_cons_self
    have hrest := ih fun u hu ↦ h u (List.mem_cons_of_mem v hu)
    exact .cons (by decide) (hv.append hrest)

/-- A key, a colon and a value. -/
theorem unbroken_member (key : String) {value : List Char} (h : Unbroken value) :
    Unbroken (quote key ++ ':' :: value) :=
  (unbroken_quote key).append (.cons (by decide) h)

theorem unbroken_writtenMembers (h : ∀ w ∈ written, Unbroken w.2) :
    Unbroken (writtenMembers written) := by
  induction written with
  | nil => decide
  | cons w written ih =>
    have hw := h w List.mem_cons_self
    have hrest := ih fun w hw ↦ h w (List.mem_cons_of_mem _ hw)
    exact .cons (by decide) (unbroken_member w.1 (hw.append hrest))

theorem unbroken_writtenObject (h : ∀ w ∈ written, Unbroken w.2) :
    Unbroken (writtenObject written) := by
  cases written with
  | nil => decide
  | cons w written =>
    have hw := h w List.mem_cons_self
    have hrest := unbroken_writtenMembers fun w hw ↦ h w (List.mem_cons_of_mem _ hw)
    exact .cons (by decide) (unbroken_member w.1 (hw.append hrest))

/-- **No text has a character below the space in it**, whatever its strings are made of. -/
theorem unbroken_chars (v : Json) : Unbroken v.chars := by
  induction v using Json.induction with
  | null => decide
  | bool b => cases b <;> decide
  | number n => exact n.spells_chars.unbroken
  | string s => exact unbroken_quote s
  | array items ih =>
    cases items with
    | nil => decide
    | cons v items =>
      have hv := ih v List.mem_cons_self
      have hrest := unbroken_itemChars fun u hu ↦ ih u (List.mem_cons_of_mem v hu)
      exact .cons (by decide) (hv.append hrest)
  | object members ih =>
    rw [chars_object]
    exact unbroken_writtenObject (List.forall_mem_map.2 ih)

end TrustRouter.Json
