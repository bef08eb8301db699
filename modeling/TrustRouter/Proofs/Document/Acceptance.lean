import TrustRouter.Document.Field
import TrustRouter.Proofs.Except

/-! # What the shared decoders accept

For each decoder that the entities share, the values it accepts and what it makes of them. An array
is decoded exactly when each of its elements is, so what it makes is related to it element by
element; the indices and paths that the decoders carry along concern refusals only and are gone.
All of this is for `simp`: unfolding the decoder of an entity then leaves what the entity requires.
-/

namespace TrustRouter

variable {α β ε : Type} {max : ℕ}

namespace Bounded

theorem one_le_length (l : Bounded max α) : 1 ≤ l.toList.length :=
  List.length_pos_iff.2 l.ne_nil

@[simp]
theorem ofList_eq_ok_iff {l : List α} {b : Bounded max α} :
    ofList max l = .ok b ↔ b.toList = l := by
  unfold ofList
  split
  · next h => simpa [h] using b.ne_nil
  · split
    · simp [Bounded.ext_iff, eq_comm]
    · next h =>
      simp only [reduceCtorEq, false_iff]
      rintro rfl
      exact h b.length_le

@[simp]
theorem mapM_eq_ok_iff {f : α → Except ε β} {l : Bounded max α} {l' : Bounded max β} :
    l.mapM f = .ok l' ↔ List.Forall₂ (fun a b ↦ f a = .ok b) l.toList l'.toList := by
  rw [← Except.mapM_eq_ok_iff]
  unfold Bounded.mapM
  split
  · next e he => simp [he]
  · next l'' hl => simp [hl, Bounded.ext_iff]

theorem mapM_eq_error_iff {f : α → Except ε β} {l : Bounded max α} {e : ε} :
    l.mapM f = .error e ↔ l.toList.mapM f = .error e := by
  unfold Bounded.mapM
  split
  · next e' he => simp [he]
  · next l' hl => simp [hl]

/-- A list that corresponds to a bounded one is within the same bounds. -/
theorem exists_toList_eq {R : α → β → Prop} {items : List α} {l : Bounded max β}
    (h : List.Forall₂ R items l.toList) : ∃ b : Bounded max α, b.toList = items := by
  have hlength := h.length_eq
  refine ⟨⟨items, ?_, hlength ▸ l.length_le⟩, rfl⟩
  rintro rfl
  exact l.ne_nil (List.eq_nil_of_length_eq_zero hlength.symm)

end Bounded

namespace Decoded

/-! ### Values -/

@[simp]
theorem orRefuse_eq_ok_iff {result : Option α} {reason : Reason} {a : α} :
    orRefuse result reason = .ok a ↔ result = some a := by
  cases result <;> simp

@[simp]
theorem within_eq_ok_iff {step : Json.Step} {part : Decoded α} {a : α} :
    within step part = .ok a ↔ part = .ok a :=
  Except.mapError_eq_ok_iff

@[simp]
theorem object_eq_ok_iff {v : Json} {o : Json.Members} : object v = .ok o ↔ v = .object o := by
  cases v <;> simp [object, Json.object?]

@[simp]
theorem elements_eq_ok_iff {v : Json} {items : List Json} :
    elements v = .ok items ↔ v = .array items := by
  cases v <;> simp [elements, Json.array?]

@[simp]
theorem string_eq_ok_iff {v : Json} {s : String} : string v = .ok s ↔ v = .string s := by
  cases v <;> simp [string, Json.string?]

@[simp]
theorem name_eq_ok_iff {v : Json} {n : Name} :
    name v = .ok n ↔ ∃ s, v = .string s ∧ Name.ofString s = n := by
  simp [name]

@[simp]
theorem word_eq_ok_iff {what label : String} {ofLabel? : String → Option α} {a : α} :
    word what ofLabel? label = .ok a ↔ ofLabel? label = some a :=
  orRefuse_eq_ok_iff

/-! ### Arrays -/

@[simp]
theorem bounded_eq_ok_iff {items : List Json} {b : Bounded max Json} :
    bounded max items = .ok b ↔ b.toList = items := by
  simp [bounded]

@[simp]
theorem boundedElements_eq_ok_iff {v : Json} {b : Bounded max Json} :
    boundedElements max v = .ok b ↔ v = .array b.toList := by
  simp [boundedElements]

/-- Elements with their indices are decoded exactly when the elements are. -/
theorem forall₂_element_iff {decode : Json → Decoded α} {items : List Json} {l : List α} :
    List.Forall₂ (fun entry a ↦ element decode entry = .ok a) items.zipIdx l ↔
      List.Forall₂ (fun v a ↦ decode v = .ok a) items l := by
  simp only [element, within_eq_ok_iff]
  -- The index shows up in faults only, so it can be dropped from the pairs.
  rw [← List.forall₂_map_left_iff (f := Prod.fst) (R := fun v a ↦ decode v = .ok a),
    List.zipIdx_map_fst]

@[simp]
theorem each_eq_ok_iff {decode : Json → Decoded α} {items : List Json} {l : List α} :
    each decode items = .ok l ↔ List.Forall₂ (fun v a ↦ decode v = .ok a) items l := by
  rw [each, Except.mapM_eq_ok_iff, forall₂_element_iff]

@[simp]
theorem boundedEach_eq_ok_iff {decode : Json → Decoded α} {items : Bounded max Json}
    {l : Bounded max α} :
    boundedEach decode items = .ok l ↔
      List.Forall₂ (fun v a ↦ decode v = .ok a) items.toList l.toList := by
  rw [boundedEach, Bounded.mapM_eq_ok_iff, forall₂_element_iff]

/-! ### Fields -/

variable {o : Json.Members} {key : String} {decode : Json → Decoded α}

@[simp]
theorem required_eq_ok_iff {v : Json} : required o key = .ok v ↔ o.lookup key = some v := by
  simp [required]

@[simp]
theorem field_eq_ok_iff {a : α} :
    field o key decode = .ok a ↔ ∃ v, o.lookup key = some v ∧ decode v = .ok a := by
  simp [field]

@[simp]
theorem optional_eq_ok_iff {a : Option α} :
    optional o key decode = .ok a ↔ (o.lookup key = none ∧ a = none) ∨
      ∃ v b, o.lookup key = some v ∧ decode v = .ok b ∧ a = some b := by
  unfold optional
  cases o.lookup key with
  | none => simp [eq_comm (a := none)]
  | some v => simp [eq_comm (a := a)]

@[simp]
theorem fieldD_eq_ok_iff {default a : α} :
    fieldD o key decode default = .ok a ↔ (o.lookup key = none ∧ a = default) ∨
      ∃ v, o.lookup key = some v ∧ decode v = .ok a := by
  unfold fieldD
  cases h : o.lookup key with
  | none => simp [optional, h, eq_comm (a := a)]
  | some v => simp [optional, h]

@[simp]
theorem list_eq_ok_iff {l : List α} :
    list o key decode = .ok l ↔ (o.lookup key = none ∧ l = []) ∨
      ∃ items, o.lookup key = some (.array items) ∧
        List.Forall₂ (fun v a ↦ decode v = .ok a) items l := by
  simp [list]

end Decoded

end TrustRouter
