/-! # Bounded lists

Most lists of the policy model hold at least one entry and at most a fixed number. `Bounded max α`
carries both bounds with the list, so whoever holds one need not check again. `Bounded.ofList` is
the only check; a map that may fail keeps the bounds because it keeps the length
(`length_of_mapM`).
-/

namespace TrustRouter

/-- Why a list is not within its bounds. -/
inductive BoundError where
  | empty
  | tooMany (actual max : Nat)
deriving DecidableEq

/-- What is wrong with the list, as a predicate on it. -/
def BoundError.message : BoundError → String
  | .empty => "must not be empty"
  | .tooMany actual max => s!"has {actual} entries, maximum is {max}"

/-- A list of between one and `max` entries. -/
@[ext]
structure Bounded (max : Nat) (α : Type) where
  toList : List α
  ne_nil : toList ≠ []
  length_le : toList.length ≤ max
deriving DecidableEq

namespace Bounded

variable {max : Nat} {α β ε : Type}

/-- Checks a list against its bounds; an empty list is reported as such. -/
def ofList (max : Nat) (l : List α) : Except BoundError (Bounded max α) :=
  if h : l = [] then .error .empty
  else if h' : l.length ≤ max then .ok ⟨l, h, h'⟩
  else .error (.tooMany l.length max)

/-- The first entry. -/
def head (l : Bounded max α) : α := l.toList.head l.ne_nil

/-- The entries after the first. -/
def tail (l : Bounded max α) : List α := l.toList.tail

/-- A successful map has as many results as entries. -/
theorem length_of_mapM {f : α → Except ε β} {l : List α} {l' : List β} (h : l.mapM f = .ok l') :
    l'.length = l.length := by
  induction l generalizing l' with
  | nil =>
    cases h
    rfl
  | cons a l ih =>
    rw [List.mapM_cons] at h
    cases hb : f a with
    | error e =>
      rw [hb] at h
      cases h
    | ok b =>
      cases hbs : l.mapM f with
      | error e =>
        rw [hb, hbs] at h
        cases h
      | ok bs =>
        rw [hb, hbs] at h
        cases h
        simp [ih hbs]

/-- Applies a function that may fail to every entry, in order; the first failure is the result. -/
def mapM (f : α → Except ε β) (l : Bounded max α) : Except ε (Bounded max β) :=
  match h : l.toList.mapM f with
  | .error e => .error e
  | .ok l' =>
    .ok ⟨l', fun hnil ↦ l.ne_nil (List.eq_nil_of_length_eq_zero (by
      rw [← length_of_mapM h, hnil]; rfl)), length_of_mapM h ▸ l.length_le⟩

end Bounded

end TrustRouter
