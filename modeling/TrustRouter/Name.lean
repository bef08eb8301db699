import TrustRouter.Text.Quoted
import TrustRouter.Text.Utf8

/-! # Names

A name is the lookup key of everything in the trust graph: realms, communities, clients'
identities, request fields and file names. It is a byte string. Two names are the same exactly
when their bytes are; nothing is normalized, trimmed or case-folded, and a NUL byte counts like
any other. Only showing a name reads it as text.
-/

namespace TrustRouter

/-- A byte string used as an identifier. -/
structure Name where
  bytes : List UInt8
deriving DecidableEq

namespace Name

/-- The name with no bytes. -/
def empty : Name := ⟨[]⟩

/-- The UTF-8 bytes of a text. -/
def ofString (s : String) : Name := ⟨s.toUTF8.data.toList⟩

/-- Whether the name has no bytes. -/
def isEmpty (n : Name) : Bool := n.bytes.isEmpty

/-- The number of bytes. -/
def length (n : Name) : Nat := n.bytes.length

/-- The name as shown to people: ill-formed UTF-8 is replaced. -/
def text (n : Name) : String := Utf8.lossy n.bytes

/-- The name as text when its bytes are UTF-8. -/
def text? (n : Name) : Option String := String.fromUTF8? ⟨n.bytes.toArray⟩

/-- The name in diagnostics, where all that does not print shows as an escape. -/
def diagnostic (n : Name) : String := "Name(" ++ Text.quoted n.text ++ ")"

/-! ### Byte order -/

/-- Names are ordered byte by byte. -/
instance : LE Name := ⟨fun a b ↦ a.bytes ≤ b.bytes⟩

instance : LT Name := ⟨fun a b ↦ a.bytes < b.bytes⟩

instance (a b : Name) : Decidable (a ≤ b) := inferInstanceAs (Decidable (a.bytes ≤ b.bytes))

instance (a b : Name) : Decidable (a < b) := inferInstanceAs (Decidable (a.bytes < b.bytes))

theorem isEmpty_iff {n : Name} : n.isEmpty = true ↔ n = .empty := by
  cases n with
  | mk bytes => cases bytes <;> simp [isEmpty, empty]

end Name

end TrustRouter
