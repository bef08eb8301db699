import Mathlib.Data.List.Forall2

/-! # Lists related element by element

What is decoded is related to what it was decoded from by `List.Forall₂`. These lemmas carry such a
relation through the list operations that look for something: what one search finds is related to
what the other finds, provided related elements pass the tests alike.
-/

namespace List.Forall₂

variable {α β γ : Type} {R : α → β → Prop} {l : List α} {l' : List β}

/-- What stands in the second list has a partner in the first. -/
theorem exists_left (h : Forall₂ R l l') {b : β} (hb : b ∈ l') : ∃ a ∈ l, R a b := by
  induction h with
  | nil => cases hb
  | @cons a b' l l' hab _ ih =>
    rcases mem_cons.1 hb with rfl | hb
    · exact ⟨a, mem_cons_self, hab⟩
    · obtain ⟨a', ha', hR⟩ := ih hb
      exact ⟨a', mem_cons_of_mem a ha', hR⟩

/-- What holds of everything related to something holds throughout the second list. -/
theorem forall_right {P : β → Prop} (h : Forall₂ R l l') (hP : ∀ a b, R a b → P b) :
    ∀ b ∈ l', P b := by
  intro b hb
  obtain ⟨a, -, hab⟩ := h.exists_left hb
  exact hP a b hab

/-- What is related to the elements of one list is related through them. -/
theorem join {S : α → γ → Prop} {l'' : List γ} (h : Forall₂ R l l') (h' : Forall₂ S l l'') :
    Forall₂ (fun b c ↦ ∃ a, R a b ∧ S a c) l' l'' := by
  induction h generalizing l'' with
  | nil =>
    cases h'
    exact .nil
  | @cons a b l l' hab _ ih =>
    cases h' with
    | cons hac h' => exact .cons ⟨a, hab, hac⟩ (ih h')

theorem all_eq {p : α → Bool} {q : β → Bool} (h : Forall₂ R l l')
    (hpq : ∀ a b, R a b → p a = q b) : l.all p = l'.all q := by
  induction h with
  | nil => rfl
  | cons hab _ ih => rw [all_cons, all_cons, hpq _ _ hab, ih]

/-- Two searches for the first element that passes find related elements, or nothing. -/
theorem find? {p : α → Bool} {q : β → Bool} (h : Forall₂ R l l')
    (hpq : ∀ a b, R a b → p a = q b) : Option.Rel R (l.find? p) (l'.find? q) := by
  induction h with
  | nil => exact .none
  | @cons a b l l' hab _ ih =>
    rw [find?_cons, find?_cons, hpq a b hab]
    cases q b with
    | true => exact .some hab
    | false => exact ih

/-- Two searches for the last element that passes find related elements, or nothing. -/
theorem getLast?_filter {p : α → Bool} {q : β → Bool} (h : Forall₂ R l l')
    (hpq : ∀ a b, R a b → p a = q b) :
    Option.Rel R (l.filter p).getLast? (l'.filter q).getLast? := by
  rw [List.getLast?_filter, List.getLast?_filter]
  exact (forall₂_reverse_iff.2 h).find? hpq

theorem getLast? (h : Forall₂ R l l') : Option.Rel R l.getLast? l'.getLast? := by
  have hreverse := forall₂_reverse_iff.2 h
  rw [getLast?_eq_head?_reverse, getLast?_eq_head?_reverse]
  generalize l.reverse = back at hreverse ⊢
  generalize l'.reverse = back' at hreverse ⊢
  cases hreverse with
  | nil => exact .none
  | cons hab _ => exact .some hab

end List.Forall₂
