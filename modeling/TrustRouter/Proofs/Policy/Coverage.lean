import TrustRouter.Policy.Constraint
import TrustRouter.Proofs.Document.Acceptance

/-!
# What patterns accept

A constraint permits what some pattern of it accepts, so a pattern counts for the values that it
accepts and for nothing else. Whether all of them are accepted by another pattern too can be told
from the bytes of the two (`Pattern.within_iff`).

* What a pattern asks of a value is how it ends (`Pattern.ending`). The ending is itself a value
  that the pattern accepts, and the shortest one: what another pattern makes of it settles all but
  one case.
* The remaining case is a starred pattern within a literal one. It does not occur, for a starred
  pattern also accepts every longer value with its ending, and a literal one accepts a single value.
* A star is removed once, from the front. Further stars are bytes like any other, in the pattern and
  in the value, so a value is accepted by itself taken as a pattern even if it begins with stars.

What a constraint permits then depends on the set of its patterns only, and of these only on the
ones that are not within others (`Constraint.permits_eq_of_within`).
-/

namespace TrustRouter

/-! ### Endings -/

namespace Pattern

/-- How every value ends that satisfies a pattern: like the pattern, after its leading star if it
has one. -/
def ending (pattern : Name) : List UInt8 :=
  if pattern.bytes.head? = some star then pattern.bytes.tail else pattern.bytes

theorem ending_literal {pattern : Name} (h : pattern.bytes.head? ≠ some star) :
    ending pattern = pattern.bytes :=
  if_neg h

/-- A pattern is starred or literal. -/
theorem starred_or_literal (pattern : Name) :
    (∃ rest, pattern = ⟨star :: rest⟩) ∨ pattern.bytes.head? ≠ some star := by
  by_cases h : pattern.bytes.head? = some star
  · obtain ⟨rest, hbytes⟩ := List.head?_eq_some_iff.1 h
    exact .inl ⟨rest, congrArg Name.mk hbytes⟩
  · exact .inr h

theorem ending_suffix_of_wildcard {value pattern : Name} (h : wildcard value pattern = true) :
    ending pattern <:+ value.bytes := by
  rcases starred_or_literal pattern with ⟨rest, rfl⟩ | hliteral
  · exact wildcard_star.1 h
  · obtain rfl := (wildcard_literal hliteral).1 h
    exact ⟨[], by rw [List.nil_append, ending_literal hliteral]⟩

/-- The ending alone satisfies the pattern. -/
theorem wildcard_ending (pattern : Name) : wildcard ⟨ending pattern⟩ pattern = true := by
  rcases starred_or_literal pattern with ⟨rest, rfl⟩ | hliteral
  · exact wildcard_star.2 List.suffix_rfl
  · rw [ending_literal hliteral]
    exact (wildcard_literal hliteral).2 rfl

/-- **Every value satisfies itself**, whatever stars there are in it. -/
theorem wildcard_self (value : Name) : wildcard value value = true := by
  rcases starred_or_literal value with ⟨rest, rfl⟩ | hliteral
  · exact wildcard_star.2 (List.suffix_cons star rest)
  · exact (wildcard_literal hliteral).2 rfl

/-! ### Patterns within patterns -/

/-- Every value that satisfies the first pattern satisfies the second. -/
def Within (pattern wider : Name) : Prop :=
  ∀ value, wildcard value pattern = true → wildcard value wider = true

theorem Within.refl (pattern : Name) : Within pattern pattern :=
  fun _ h ↦ h

variable {pattern : Name}

/-- Within a starred pattern are those whose values end with the rest of it. -/
theorem within_star_iff {rest : List UInt8} :
    Within pattern ⟨star :: rest⟩ ↔ rest <:+ ending pattern := by
  constructor
  · intro h
    exact wildcard_star.1 (h ⟨ending pattern⟩ (wildcard_ending pattern))
  · intro h value hvalue
    exact wildcard_star.2 (h.trans (ending_suffix_of_wildcard hvalue))

/-- Within a literal pattern is no pattern but itself. -/
theorem within_literal_iff {wider : Name} (hliteral : wider.bytes.head? ≠ some star) :
    Within pattern wider ↔ pattern = wider := by
  constructor
  · intro h
    have hends := (wildcard_literal hliteral).1 (h _ (wildcard_ending pattern))
    rcases starred_or_literal pattern with ⟨rest, rfl⟩ | hliteral'
    · -- with one more byte in front the ending is accepted too, but it is another value
      have hlonger : wildcard ⟨star :: rest⟩ ⟨star :: rest⟩ = true := wildcard_self _
      have hboth := hends.trans ((wildcard_literal hliteral).1 (h _ hlonger)).symm
      exact absurd (congrArg Name.length hboth) (Nat.ne_of_lt (Nat.lt_succ_self _))
    · rw [ending_literal hliteral'] at hends
      exact hends
  · rintro rfl
    exact .refl pattern

/-- **When a pattern accepts whatever another does** can be told from their bytes. -/
theorem within_iff {wider : Name} :
    Within pattern wider ↔ (∃ rest, wider.bytes = star :: rest ∧ rest <:+ ending pattern) ∨
      wider.bytes.head? ≠ some star ∧ pattern = wider := by
  rcases starred_or_literal wider with ⟨rest, rfl⟩ | hliteral
  · rw [within_star_iff]
    simp
  · rw [within_literal_iff hliteral]
    constructor
    · exact fun h ↦ .inr ⟨hliteral, h⟩
    · rintro (⟨rest, hbytes, -⟩ | ⟨-, h⟩)
      · exact absurd (congrArg List.head? hbytes) hliteral
      · exact h

/-- Of two stars in front the second is a byte of the ending. -/
example : Within ⟨[star, star, 0x61]⟩ ⟨[star, 0x61]⟩ ∧
    ¬Within ⟨[star, 0x61]⟩ ⟨[star, star, 0x61]⟩ := by
  simp only [within_star_iff]
  decide

end Pattern

/-! ### Constraints -/

namespace Constraint

open Pattern

variable {c c' : Constraint} {kind : ConstraintKind} {patterns : List Name}

theorem ofPatterns_eq_ok_iff :
    ofPatterns kind patterns = .ok c ↔ c.kind = kind ∧ c.patterns.toList = patterns := by
  obtain ⟨kind', patterns'⟩ := c
  simp only [ofPatterns, EntityError.bounded, Except.bind_eq_ok_iff, Except.mapError_eq_ok_iff,
    Bounded.ofList_eq_ok_iff, Except.pure_eq_ok_iff, Constraint.mk.injEq]
  constructor
  · rintro ⟨_, hpatterns, rfl, rfl⟩
    exact ⟨rfl, hpatterns⟩
  · rintro ⟨rfl, hpatterns⟩
    exact ⟨patterns', hpatterns, rfl, rfl⟩

/-- Patterns within bounds make a constraint. -/
theorem exists_ofPatterns (kind : ConstraintKind) (hne : patterns ≠ [])
    (hle : patterns.length ≤ 24) :
    ∃ c, ofPatterns kind patterns = .ok c ∧ c.patterns.toList = patterns :=
  ⟨⟨kind, patterns, hne, hle⟩, ofPatterns_eq_ok_iff.2 ⟨rfl, rfl⟩, rfl⟩

theorem permits_iff {matcher : Matcher} {value : Name} :
    c.permits matcher value = true ↔ ∃ p ∈ c.patterns.toList, matcher value p = true :=
  List.any_eq_true

/-- The same patterns in another order, or another number of times, permit the same. -/
theorem permits_congr (h : ∀ p, p ∈ c'.patterns.toList ↔ p ∈ c.patterns.toList) (matcher : Matcher)
    (value : Name) : c'.permits matcher value = c.permits matcher value := by
  rw [Bool.eq_iff_iff, permits_iff, permits_iff]
  simp only [h]

/-- What is permitted stays permitted when every pattern is within one of the new ones. -/
theorem permits_of_within (h : ∀ p ∈ c.patterns.toList, ∃ q ∈ c'.patterns.toList, Within p q)
    {value : Name} (hvalue : c.permits wildcard value = true) :
    c'.permits wildcard value = true := by
  obtain ⟨p, hp, hmatch⟩ := permits_iff.1 hvalue
  obtain ⟨q, hq, hwithin⟩ := h p hp
  exact permits_iff.2 ⟨q, hq, hwithin value hmatch⟩

/-- **Only what patterns accept counts.** Constraints each of whose patterns are within patterns of
the other permit the same. -/
theorem permits_eq_of_within (h : ∀ p ∈ c.patterns.toList, ∃ q ∈ c'.patterns.toList, Within p q)
    (h' : ∀ p ∈ c'.patterns.toList, ∃ q ∈ c.patterns.toList, Within p q) (value : Name) :
    c'.permits wildcard value = c.permits wildcard value :=
  Bool.eq_iff_iff.2 ⟨permits_of_within h', permits_of_within h⟩

/-- **The meaning of patterns and constraints.** Every value that satisfies one pattern satisfies
another exactly when the other is starred and the first ends with the rest of it, its own leading
star aside, or the other is literal and they are equal. Every value satisfies itself as a pattern.
So a constraint may have its patterns in another order, or more often, and a pattern of it may be
taken away if all it accepts is accepted by another that stays: as long as there are not too many,
it is a constraint, and it permits the same. -/
theorem permits_what_patterns_accept :
    (∀ pattern wider : Name,
      (∀ value, wildcard value pattern = true → wildcard value wider = true) ↔
        (∃ rest, wider.bytes = star :: rest ∧ rest <:+ ending pattern) ∨
          wider.bytes.head? ≠ some star ∧ pattern = wider) ∧
    (∀ value, wildcard value value = true) ∧
    (∀ (c : Constraint) (patterns : List Name), (∀ p, p ∈ patterns ↔ p ∈ c.patterns.toList) →
      patterns.length ≤ 24 → ∃ c', ofPatterns c.kind patterns = .ok c' ∧
        ∀ matcher value, c'.permits matcher value = c.permits matcher value) ∧
    ∀ (c : Constraint) (before after : List Name) (p q : Name),
      c.patterns.toList = before ++ p :: after → q ∈ before ++ after →
      (∀ value, wildcard value p = true → wildcard value q = true) →
      ∃ c', ofPatterns c.kind (before ++ after) = .ok c' ∧
        ∀ value, c'.permits wildcard value = c.permits wildcard value := by
  refine ⟨fun _ _ ↦ within_iff, wildcard_self, ?_, ?_⟩
  · intro c patterns hmem hle
    have hne : patterns ≠ [] := by
      obtain ⟨p, hp⟩ := List.exists_mem_of_ne_nil _ c.patterns.ne_nil
      exact List.ne_nil_of_mem ((hmem p).2 hp)
    obtain ⟨c', hc', rfl⟩ := exists_ofPatterns c.kind hne hle
    exact ⟨c', hc', permits_congr hmem⟩
  · intro c before after p q hpatterns hq hwithin
    have hle : (before ++ after).length ≤ 24 := by
      have hlength := c.patterns.length_le
      rw [hpatterns, List.length_append, List.length_cons] at hlength
      rw [List.length_append]
      omega
    obtain ⟨c', hc', hkept⟩ := exists_ofPatterns c.kind (List.ne_nil_of_mem hq) hle
    refine ⟨c', hc', permits_eq_of_within (fun p' hp' ↦ ?_) fun p' hp' ↦ ?_⟩
    · -- the pattern taken away is within `q`, and every other is still there
      rw [hkept]
      rw [hpatterns, List.mem_append, List.mem_cons] at hp'
      rcases hp' with hp' | rfl | hp'
      · exact ⟨p', List.mem_append_left _ hp', .refl p'⟩
      · exact ⟨q, hq, hwithin⟩
      · exact ⟨p', List.mem_append_right _ hp', .refl p'⟩
    · rw [hkept] at hp'
      refine ⟨p', ?_, .refl p'⟩
      rw [hpatterns]
      exact ((List.sublist_cons_self p after).append_left before).subset hp'

end Constraint

end TrustRouter
