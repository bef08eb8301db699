/-! # Lossy UTF-8

Reading a byte string as text when nothing promises that it is UTF-8. Well-formed characters
are read as themselves; each maximal subpart of an ill-formed sequence — the longest run of
bytes that begins some character, or a single byte that begins none — is read as one U+FFFD.

The reader is a machine that takes one byte at a time: between characters, or with a character
**pending**. A pending character records which byte may come next, so the restrictions on
second bytes (no overlong forms, no surrogates, nothing above U+10FFFF) are the range of the
byte after the first.
-/

namespace TrustRouter.Utf8

/-- The character that stands for an ill-formed sequence. -/
def replacement : Char := '\uFFFD'

/-! ### Characters in the making -/

/-- A character that has begun: the bits read so far, the number of bytes still owed, and the
range in which the next byte must lie. -/
structure Pending where
  bits : Nat
  owed : Nat
  low : UInt8
  high : UInt8
deriving DecidableEq

/-- What a byte found between characters is. -/
inductive Lead where
  /-- A whole character. -/
  | whole (c : Char)
  /-- The first byte of a longer character. -/
  | opens (p : Pending)
  /-- No character begins with this byte. -/
  | invalid
deriving DecidableEq

/-- The role of a byte found between characters. -/
def lead (b : UInt8) : Lead :=
  if b < 0x80 then .whole (Char.ofNat b.toNat)
  else if 0xC2 ≤ b ∧ b ≤ 0xDF then .opens ⟨b.toNat - 0xC0, 1, 0x80, 0xBF⟩
  else if 0xE0 ≤ b ∧ b ≤ 0xEF then
    .opens ⟨b.toNat - 0xE0, 2, if b = 0xE0 then 0xA0 else 0x80, if b = 0xED then 0x9F else 0xBF⟩
  else if 0xF0 ≤ b ∧ b ≤ 0xF4 then
    .opens ⟨b.toNat - 0xF0, 3, if b = 0xF0 then 0x90 else 0x80, if b = 0xF4 then 0x8F else 0xBF⟩
  else .invalid

/-! ### The machine -/

/-- Where the reader stands: the pending character, if any, and the characters read so far,
latest first. -/
structure Reading where
  pending : Option Pending
  read : List Char

/-- Takes a byte between characters. -/
def Reading.enter (read : List Char) (b : UInt8) : Reading :=
  match lead b with
  | .whole c => ⟨none, c :: read⟩
  | .opens p => ⟨some p, read⟩
  | .invalid => ⟨none, replacement :: read⟩

/-- Takes one byte. A byte that cannot continue the pending character ends it as ill-formed and
is then read afresh. -/
def Reading.step (r : Reading) (b : UInt8) : Reading :=
  match r.pending with
  | none => .enter r.read b
  | some p =>
    if p.low ≤ b ∧ b ≤ p.high then
      let bits := p.bits * 64 + (b.toNat - 0x80)
      if p.owed ≤ 1 then ⟨none, Char.ofNat bits :: r.read⟩
      else ⟨some ⟨bits, p.owed - 1, 0x80, 0xBF⟩, r.read⟩
    else .enter (replacement :: r.read) b

/-- The characters read, in order; a character still pending at the end is ill-formed. -/
def Reading.finish (r : Reading) : List Char :=
  (if r.pending.isSome then replacement :: r.read else r.read).reverse

/-- The characters of a byte string, ill-formed parts replaced. -/
def decode (bytes : List UInt8) : List Char :=
  (bytes.foldl Reading.step ⟨none, []⟩).finish

/-- The text of a byte string, ill-formed parts replaced. -/
def lossy (bytes : List UInt8) : String :=
  String.ofList (decode bytes)

end TrustRouter.Utf8
