import TrustRouter.Json.Basic

/-! # JSON tokens

The lexical half of JSON: a text is a sequence of tokens with blanks between them. Every token is
recognized by its first character, so scanning never backtracks. Two tokens may touch; that two
values in a row are no JSON is for the grammar to say, and it also rules out `01` and `truefalse`.

Each scanner returns the text it leaves, which is shorter than the text it was given
(`Token.length_lt_of_scan`); that is why `tokens` ends.
-/

namespace TrustRouter.Json

/-- A lexical unit of JSON. -/
inductive Token where
  | beginArray
  | endArray
  | beginObject
  | endObject
  | comma
  | colon
  | null
  | bool (b : Bool)
  | number (n : Number)
  | string (s : String)

/-! ### Numerals -/

namespace Numeral

/-- A maximal run of digits, at least one. -/
def scanDigits (s : List Char) : Option (List Char × List Char) :=
  let digits := s.takeWhile Char.isDigit
  if digits.isEmpty then none else some (digits, s.dropWhile Char.isDigit)

/-- The integer part: a zero stands alone. -/
def scanWhole : List Char → Option (List Char × List Char)
  | '0' :: rest => some (['0'], rest)
  | s => scanDigits s

/-- The fraction part, if there is one. -/
def scanFraction : List Char → Option (List Char × List Char)
  | '.' :: rest => scanDigits rest
  | s => some ([], s)

/-- The exponent part, if there is one. -/
def scanExponent : List Char → Option (Option Int × List Char)
  | c :: rest =>
    if c = 'e' ∨ c = 'E' then
      match rest with
      | '-' :: rest => (scanDigits rest).map fun (ds, rest) ↦ (some (-Digits.value ds), rest)
      | '+' :: rest => (scanDigits rest).map fun (ds, rest) ↦ (some (Digits.value ds), rest)
      | rest => (scanDigits rest).map fun (ds, rest) ↦ (some (Digits.value ds), rest)
    else some (none, c :: rest)
  | [] => some (none, [])

/-- A numeral without its sign. Zeros at the end of the fraction are no digits of its value; those
at the end of the integer part are. -/
def scanUnsigned (negative : Bool) (s : List Char) : Option (Numeral × List Char) := do
  let (whole, s) ← scanWhole s
  let (fraction, s) ← scanFraction s
  let (exponent, s) ← scanExponent s
  let places := Digits.trimZeros fraction
  return ({ negative
            value := .ofDigits (whole ++ places) (exponent.getD 0 - places.length)
            plain := fraction.isEmpty && exponent.isNone }, s)

/-- A numeral. -/
def scan : List Char → Option (Numeral × List Char)
  | '-' :: rest => scanUnsigned true rest
  | s => scanUnsigned false s

theorem length_lt_of_scanDigits {s ds rest : List Char} (h : scanDigits s = some (ds, rest)) :
    rest.length < s.length := by
  simp only [scanDigits] at h
  split at h
  · cases h
  · next hne =>
    cases h
    have hsum := congrArg List.length (List.takeWhile_append_dropWhile (p := Char.isDigit) (l := s))
    have hpos : 0 < (s.takeWhile Char.isDigit).length :=
      List.length_pos_iff.2 fun hnil ↦ hne (by rw [hnil]; rfl)
    simp only [List.length_append] at hsum
    omega

theorem length_lt_of_scanWhole {s ds rest : List Char} (h : scanWhole s = some (ds, rest)) :
    rest.length < s.length := by
  unfold scanWhole at h
  split at h
  · cases h
    exact Nat.lt_succ_self _
  · exact length_lt_of_scanDigits h

theorem length_le_of_scanFraction {s ds rest : List Char} (h : scanFraction s = some (ds, rest)) :
    rest.length ≤ s.length := by
  unfold scanFraction at h
  split at h
  · exact Nat.le_of_lt (Nat.lt_succ_of_lt (length_lt_of_scanDigits h))
  · cases h
    exact Nat.le_refl _

theorem length_le_of_scanExponent {s rest : List Char} {e : Option Int}
    (h : scanExponent s = some (e, rest)) : rest.length ≤ s.length := by
  unfold scanExponent at h
  split at h
  · split at h
    · split at h <;>
      · obtain ⟨⟨ds, r⟩, hds, hr⟩ := Option.map_eq_some_iff.1 h
        cases hr
        have := length_lt_of_scanDigits hds
        simp only [List.length_cons]
        omega
    · cases h
      exact Nat.le_refl _
  · cases h
    exact Nat.le_refl _

theorem length_lt_of_scanUnsigned {negative : Bool} {s rest : List Char} {x : Numeral}
    (h : scanUnsigned negative s = some (x, rest)) : rest.length < s.length := by
  simp only [scanUnsigned, Option.bind_eq_bind, Option.bind_eq_some_iff] at h
  obtain ⟨⟨whole, s₁⟩, h₁, ⟨fraction, s₂⟩, h₂, ⟨exponent, s₃⟩, h₃, h⟩ := h
  cases h
  exact Nat.lt_of_le_of_lt
    (Nat.le_trans (length_le_of_scanExponent h₃) (length_le_of_scanFraction h₂))
    (length_lt_of_scanWhole h₁)

theorem length_lt_of_scan {s rest : List Char} {x : Numeral} (h : scan s = some (x, rest)) :
    rest.length < s.length := by
  unfold scan at h
  split at h
  · exact Nat.lt_succ_of_lt (length_lt_of_scanUnsigned h)
  · exact length_lt_of_scanUnsigned h

end Numeral

/-! ### Strings -/

/-- The value of a hexadecimal digit. -/
def hexDigit? (c : Char) : Option Nat :=
  if '0' ≤ c ∧ c ≤ '9' then some (c.toNat - '0'.toNat)
  else if 'a' ≤ c ∧ c ≤ 'f' then some (c.toNat - 'a'.toNat + 10)
  else if 'A' ≤ c ∧ c ≤ 'F' then some (c.toNat - 'A'.toNat + 10)
  else none

/-- The code unit written as four hexadecimal digits. -/
def codeUnit? (a b c d : Char) : Option Nat := do
  return (← hexDigit? a) * 4096 + (← hexDigit? b) * 256 + (← hexDigit? c) * 16 + (← hexDigit? d)

/-- The character after a backslash, for the one-letter escapes. -/
def escaped? : Char → Option Char
  | '"' => some '"'
  | '\\' => some '\\'
  | '/' => some '/'
  | 'b' => some '\x08'
  | 'f' => some '\x0c'
  | 'n' => some '\n'
  | 'r' => some '\r'
  | 't' => some '\t'
  | _ => none

/-- What a code unit does to a string: it is a character of its own, or it is the first half of a
pair, or the second half of the pair begun by `high`. A half without its other half is refused. -/
def pair? (high : Option Nat) (unit : Nat) : Option (Option Nat × Option Char) :=
  match high with
  | none =>
    if 0xD800 ≤ unit ∧ unit ≤ 0xDBFF then some (some unit, none)
    else if 0xDC00 ≤ unit ∧ unit ≤ 0xDFFF then none
    else some (none, some (Char.ofNat unit))
  | some high =>
    if 0xDC00 ≤ unit ∧ unit ≤ 0xDFFF then
      some (none, some (Char.ofNat (0x10000 + (high - 0xD800) * 0x400 + (unit - 0xDC00))))
    else none

/-- The rest of a string after its opening quote: `high` is the first half of a pair that still
waits for its second, `read` the characters so far, latest first. -/
def scanString (high : Option Nat) (read : List Char) : List Char → Option (String × List Char)
  | [] => none
  | '\\' :: 'u' :: a :: b :: c :: d :: rest =>
    match (codeUnit? a b c d).bind (pair? high) with
    | none => none
    | some (high, none) => scanString high read rest
    | some (high, some x) => scanString high (x :: read) rest
  | '\\' :: c :: rest =>
    match high, escaped? c with
    | none, some x => scanString none (x :: read) rest
    | _, _ => none
  | c :: rest =>
    if high.isSome || c < ' ' || c = '\\' then none
    else if c = '"' then some (String.ofList read.reverse, rest)
    else scanString none (c :: read) rest

theorem length_lt_of_scanString {high : Option Nat} {read s rest : List Char} {t : String}
    (h : scanString high read s = some (t, rest)) : rest.length < s.length := by
  fun_induction scanString high read s with
  | case1 => cases h
  | case2 => cases h
  | case3 _ _ _ _ _ _ _ _ _ ih => exact Nat.lt_trans (ih h) (by simp only [List.length_cons]; omega)
  | case4 _ _ _ _ _ _ _ _ _ _ ih =>
    exact Nat.lt_trans (ih h) (by simp only [List.length_cons]; omega)
  | case5 _ _ _ _ _ _ ih => exact Nat.lt_trans (ih h) (by simp only [List.length_cons]; omega)
  | case6 => cases h
  | case7 => cases h
  | case8 =>
    cases h
    exact Nat.lt_succ_self _
  | case9 _ _ _ _ _ _ _ _ ih => exact Nat.lt_trans (ih h) (Nat.lt_succ_self _)

/-! ### Texts -/

/-- The characters that may stand between tokens. -/
def isBlank (c : Char) : Bool := c == ' ' || c == '\t' || c == '\n' || c == '\r'

namespace Token

/-- The token that begins a text, and the text after it. -/
def scan : List Char → Option (Token × List Char)
  | '[' :: rest => some (.beginArray, rest)
  | ']' :: rest => some (.endArray, rest)
  | '{' :: rest => some (.beginObject, rest)
  | '}' :: rest => some (.endObject, rest)
  | ',' :: rest => some (.comma, rest)
  | ':' :: rest => some (.colon, rest)
  | '"' :: rest => (scanString none [] rest).map fun (s, rest) ↦ (.string s, rest)
  | 'n' :: 'u' :: 'l' :: 'l' :: rest => some (.null, rest)
  | 't' :: 'r' :: 'u' :: 'e' :: rest => some (.bool true, rest)
  | 'f' :: 'a' :: 'l' :: 's' :: 'e' :: rest => some (.bool false, rest)
  | s => do
    let (x, rest) ← Numeral.scan s
    return (.number (← Number.ofNumeral? x), rest)

/-- A token has at least one character. -/
theorem length_lt_of_scan {s rest : List Char} {t : Token} (h : scan s = some (t, rest)) :
    rest.length < s.length := by
  unfold scan at h
  split at h
  case h_7 =>
    obtain ⟨⟨text, r⟩, hs, hr⟩ := Option.map_eq_some_iff.1 h
    cases hr
    exact Nat.lt_succ_of_lt (length_lt_of_scanString hs)
  case h_11 =>
    simp only [Option.bind_eq_bind, Option.bind_eq_some_iff] at h
    obtain ⟨⟨x, r⟩, hx, n, -, hr⟩ := h
    cases hr
    exact Numeral.length_lt_of_scan hx
  all_goals
    cases h
    simp only [List.length_cons]
    omega

/-- The tokens of a text, after those already read, which are latest first. -/
def scanAll (read : List Token) (s : List Char) : Option (List Token) :=
  match s with
  | [] => some read.reverse
  | c :: rest =>
    if isBlank c then scanAll read rest
    else
      match _h : scan (c :: rest) with
      | none => none
      | some (t, rest) => scanAll (t :: read) rest
termination_by s.length
decreasing_by
  · exact Nat.lt_succ_self _
  · exact length_lt_of_scan ‹_›

end Token

/-- The tokens of a text. -/
def tokens (s : List Char) : Option (List Token) := Token.scanAll [] s

end TrustRouter.Json
