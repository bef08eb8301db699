import TrustRouter.Name

/-! # Patterns

A matcher decides whether a value satisfies a pattern; filters and constraints take it as a
parameter. The matcher of the trust router knows one wildcard: a star at the start of a pattern
stands for any bytes, and the value has to end with the rest. A star elsewhere is an ordinary byte.
-/

namespace TrustRouter

/-- Decides whether a value (first) satisfies a pattern (second). -/
abbrev Matcher := Name → Name → Bool

namespace Pattern

/-- The byte that begins a wildcard pattern. -/
def star : UInt8 := 0x2A

/-- A pattern that begins with a star is satisfied by the values that end with the rest; any other
pattern only by itself. -/
def wildcard : Matcher := fun value pattern ↦
  if pattern.bytes.head? = some star then pattern.bytes.tail.isSuffixOf value.bytes
  else value == pattern

/-- A value satisfies a starred pattern exactly when it ends with the rest. -/
theorem wildcard_star {value : Name} {rest : List UInt8} :
    wildcard value ⟨star :: rest⟩ = true ↔ rest <:+ value.bytes := by
  simp [wildcard]

/-- A value satisfies a pattern without a leading star exactly when they are equal. -/
theorem wildcard_literal {value pattern : Name} (h : pattern.bytes.head? ≠ some star) :
    wildcard value pattern = true ↔ value = pattern := by
  simp [wildcard, h]

end Pattern

end TrustRouter
