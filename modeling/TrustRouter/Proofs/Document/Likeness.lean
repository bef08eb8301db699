import TrustRouter.Proofs.Document.Form

/-!
# Likenesses

A **likeness** says when two values are the same as far as someone looks at them. Likenesses are put
together like forms, and like forms they name no decoder: two values are compared by the views that
are taken of them, two arrays element by element, two objects member by member. So a member that no
condition is about may be there or not and may be anything, and a value that is not looked at does
not matter at all. Values that both lack a view are alike under it: what they are instead is not
looked at either.

Two decodings `Agree` when both are refused, for the same reason at the same place, or both succeed
with related outcomes. Outcomes are related and not equal where a decoder hands on parts of the
value that it has not looked into; in the end they are equal (`Agree.eq`). Agreement passes through
the steps that decoders are made of, so a decoder agrees on values that are alike as far as it
looks.
-/

namespace TrustRouter

namespace Json

/-- A likeness: when two values are the same as far as someone looks. -/
abbrev Likeness := Json → Json → Prop

namespace Likeness

/-- The same under a view. -/
def under {α : Type} (view : Json → Option α) : Likeness := fun v v' ↦ view v = view v'

/-- The same string, or both no strings. -/
def string : Likeness := under string?

/-- The same number, or both no numbers. -/
def number : Likeness := under number?

/-- The same integer, or both no integers. -/
def integer : Likeness := under integer?

/-- Both arrays, or both not. -/
def array : Likeness := fun v v' ↦ v.array?.isSome = v'.array?.isSome

/-- Arrays that are alike element by element, or both no arrays. -/
def list (like : Likeness) : Likeness := fun v v' ↦
  Option.Rel (List.Forall₂ like) v.array? v'.array?

/-- Arrays that begin alike, or both no arrays. The other elements may be anything. -/
def headed (like : Likeness) : Likeness := fun v v' ↦
  Option.Rel (fun items items' ↦ Option.Rel like items.head? items'.head?) v.array? v'.array?

/-- All conditions. -/
def all (conditions : List (Members → Members → Prop)) (o o' : Members) : Prop :=
  ∀ condition ∈ conditions, condition o o'

/-- Objects that meet these conditions together, or both no objects. -/
def object (conditions : List (Members → Members → Prop)) : Likeness := fun v v' ↦
  Option.Rel (all conditions) v.object? v'.object?

/-- Members that are alike, or both absent. -/
def member (key : String) (like : Likeness) (o o' : Members) : Prop :=
  Option.Rel like (o.lookup key) (o'.lookup key)

/-- Members that are the same under a view. One that lacks the view is as good as absent. -/
def reading {α : Type} (key : String) (view : Json → Option α) (o o' : Members) : Prop :=
  (o.lookup key).bind view = (o'.lookup key).bind view

/-- A condition, unless both objects are exempt from it. -/
def exempting (exempt : Members → Bool) (condition : Members → Members → Prop) (o o' : Members) :
    Prop :=
  (exempt o = true ∧ exempt o' = true) ∨ condition o o'

section Iff

variable {o o' : Members}

@[simp]
theorem all_nil : all [] o o' :=
  List.forall_mem_nil _

@[simp]
theorem all_cons {condition : Members → Members → Prop}
    {conditions : List (Members → Members → Prop)} :
    all (condition :: conditions) o o' ↔ condition o o' ∧ all conditions o o' :=
  List.forall_mem_cons

end Iff

/-! ### Reflexivity

A value is like itself, so two values are alike when they have everything that is looked at in
common. -/

section Refl

variable {like : Likeness} {exempt : Members → Bool} {conditions : List (Members → Members → Prop)}

theorem rel_refl {α : Type} {R : α → α → Prop} (hR : ∀ a, R a a) (x : Option α) :
    Option.Rel R x x := by
  cases x with
  | none => exact .none
  | some a => exact .some (hR a)

@[simp]
theorem string_refl (v : Json) : string v v :=
  rfl

@[simp]
theorem number_refl (v : Json) : number v v :=
  rfl

@[simp]
theorem integer_refl (v : Json) : integer v v :=
  rfl

@[simp]
theorem array_refl (v : Json) : array v v :=
  rfl

@[simp]
theorem list_refl (hlike : ∀ v, like v v) (v : Json) : list like v v :=
  rel_refl (fun _ ↦ List.forall₂_same.2 fun v _ ↦ hlike v) _

@[simp]
theorem headed_refl (hlike : ∀ v, like v v) (v : Json) : headed like v v :=
  rel_refl (fun items ↦ rel_refl hlike items.head?) _

theorem object_refl (hconditions : ∀ o, all conditions o o) (v : Json) : object conditions v v :=
  rel_refl hconditions _

@[simp]
theorem member_refl {key : String} (hlike : ∀ v, like v v) (o : Members) : member key like o o :=
  rel_refl hlike _

@[simp]
theorem reading_refl {α : Type} {key : String} {view : Json → Option α} (o : Members) :
    reading key view o o :=
  rfl

@[simp]
theorem exempting_member_refl {key : String} (hlike : ∀ v, like v v) (o : Members) :
    exempting exempt (member key like) o o :=
  .inr (member_refl hlike o)

end Refl

end Likeness

end Json

/-! ### Agreement -/

/-- Maps over bounded lists have the same outcome when the maps over the lists have. -/
theorem Bounded.mapM_eq_mapM {α α' β ε : Type} {max : ℕ} {f : α → Except ε β} {f' : α' → Except ε β}
    {b : Bounded max α} {b' : Bounded max α'} (h : b.toList.mapM f = b'.toList.mapM f') :
    b.mapM f = b'.mapM f' := by
  cases hb : b.mapM f with
  | error e =>
    rw [mapM_eq_error_iff, h, ← mapM_eq_error_iff] at hb
    exact hb.symm
  | ok l =>
    rw [mapM_eq_ok_iff, ← Except.mapM_eq_ok_iff, h, Except.mapM_eq_ok_iff, ← mapM_eq_ok_iff] at hb
    exact hb.symm

namespace Decoded

variable {α α' β β' : Type} {R : α → α' → Prop} {S : β → β' → Prop}

/-- Both succeed with related outcomes, or both are refused alike. -/
inductive Agree (R : α → α' → Prop) : Decoded α → Decoded α' → Prop where
  | ok {a : α} {a' : α'} : R a a' → Agree R (.ok a) (.ok a')
  | error (fault : Fault) : Agree R (.error fault) (.error fault)

namespace Agree

variable {x : Decoded α} {x' : Decoded α'}

theorem refl (x : Decoded α) : Agree Eq x x := by
  cases x with
  | ok a => exact .ok rfl
  | error fault => exact .error fault

/-- What agrees up to equality is equal. -/
theorem eq {y y' : Decoded α} (h : Agree Eq y y') : y = y' := by
  cases h with
  | ok ha => rw [ha]
  | error fault => rfl

/-- Steps that agree, and go on so that related outcomes lead to agreement, agree together. -/
theorem bind {f : α → Decoded β} {f' : α' → Decoded β'} (hx : Agree R x x')
    (hf : ∀ a a', R a a' → Agree S (f a) (f' a')) : Agree S (x >>= f) (x' >>= f') := by
  cases hx with
  | ok ha => exact hf _ _ ha
  | error fault => exact .error fault

/-- After equal steps only the rest matters, and it may rely on what the step has found. -/
theorem bindEq {y y' : Decoded α} {f : α → Decoded β} {f' : α → Decoded β'} (hy : y = y')
    (hf : ∀ a, y = .ok a → Agree S (f a) (f' a)) : Agree S (y >>= f) (y' >>= f') := by
  subst hy
  cases y with
  | ok a => exact hf a rfl
  | error fault => exact .error fault

theorem mono {T : α → α' → Prop} (hx : Agree R x x') (h : ∀ a a', R a a' → T a a') :
    Agree T x x' := by
  cases hx with
  | ok ha => exact .ok (h _ _ ha)
  | error fault => exact .error fault

theorem within {step : Json.Step} (hx : Agree R x x') :
    Agree R (within step x) (within step x') := by
  cases hx with
  | ok ha => exact .ok ha
  | error fault => exact .error _

theorem orRefuse {result : Option α} {result' : Option α'} {reason : Reason}
    (h : Option.Rel R result result') :
    Agree R (orRefuse result reason) (orRefuse result' reason) := by
  cases h with
  | some ha => exact .ok ha
  | none => exact .error _

end Agree

/-! ### Decoders that look at views -/

open Json (Likeness Members)

variable {v v' : Json}

/-- A decoder looks no further than a likeness. -/
def Respects (decode : Json → Decoded α) (like : Likeness) : Prop :=
  ∀ v v', like v v' → decode v = decode v'

/-- What is made of a value does not matter. -/
theorem Respects.map {decode : Json → Decoded α} {like : Likeness} (hdecode : Respects decode like)
    (f : α → β) : Respects (fun v ↦ do return f (← decode v)) like := by
  intro v v' h
  show (decode v >>= fun a ↦ pure (f a)) = decode v' >>= fun a ↦ pure (f a)
  rw [hdecode v v' h]

theorem respects_orRefuse (view : Json → Option α) (reason : Reason) :
    Respects (fun v ↦ orRefuse (view v) reason) (Likeness.under view) :=
  fun _ _ h ↦ congrArg (orRefuse · reason) h

theorem respects_string : Respects string Likeness.string :=
  respects_orRefuse Json.string? .notString

theorem respects_number : Respects number Likeness.number :=
  respects_orRefuse Json.number? .notNumber

theorem respects_name : Respects name Likeness.string :=
  respects_string.map Name.ofString

theorem agree_elements {like : Likeness} (h : like.list v v') :
    Agree (List.Forall₂ like) (elements v) (elements v') :=
  .orRefuse h

theorem agree_object {conditions : List (Members → Members → Prop)}
    (h : Likeness.object conditions v v') :
    Agree (Likeness.all conditions) (object v) (object v') :=
  .orRefuse h

/-! ### Arrays -/

variable {like : Likeness} {decode : Json → Decoded α} {items items' : List Json} {max : ℕ}

theorem mapM_element_eq (hdecode : Respects decode like) (h : List.Forall₂ like items items')
    (n : ℕ) :
    (items.zipIdx n).mapM (element decode) = (items'.zipIdx n).mapM (element decode) := by
  induction h generalizing n with
  | nil => rfl
  | cons hv _ ih =>
    rw [List.zipIdx_cons, List.zipIdx_cons, List.mapM_cons, List.mapM_cons, ih, element, element,
      hdecode _ _ hv]

theorem each_eq (hdecode : Respects decode like) (h : List.Forall₂ like items items') :
    each decode items = each decode items' :=
  mapM_element_eq hdecode h 0

/-- Arrays that are alike have the same number of elements, so they are within bounds alike. -/
theorem agree_bounded (h : List.Forall₂ like items items') :
    Agree (fun b b' : Bounded max Json ↦ List.Forall₂ like b.toList b'.toList)
      (bounded max items) (bounded max items') := by
  have hlength := h.length_eq
  have hnil : items = [] ↔ items' = [] := by
    rw [← List.length_eq_zero_iff, hlength, List.length_eq_zero_iff]
  unfold bounded Bounded.ofList
  by_cases hempty : items = []
  · rw [dif_pos hempty, dif_pos (hnil.1 hempty)]
    exact .error _
  · rw [dif_neg hempty, dif_neg (mt hnil.2 hempty)]
    by_cases hle : items.length ≤ max
    · rw [dif_pos hle, dif_pos (hlength ▸ hle)]
      exact .ok h
    · rw [dif_neg hle, dif_neg (hlength ▸ hle), hlength]
      exact .error _

theorem boundedEach_eq (hdecode : Respects decode like) {b b' : Bounded max Json}
    (h : List.Forall₂ like b.toList b'.toList) : boundedEach decode b = boundedEach decode b' :=
  Bounded.mapM_eq_mapM (mapM_element_eq hdecode h 0)

theorem agree_boundedElements (h : like.list v v') :
    Agree (fun b b' : Bounded max Json ↦ List.Forall₂ like b.toList b'.toList)
      (boundedElements max v) (boundedElements max v') :=
  (agree_elements h).bind fun _ _ hitems ↦ agree_bounded hitems

theorem Respects.elementsEach (hdecode : Respects decode like) :
    Respects (fun v ↦ do each decode (← elements v)) like.list := by
  intro v v' h
  have hagree : Agree Eq (elements v >>= each decode) (elements v' >>= each decode) :=
    (agree_elements h).bind fun items items' hitems ↦ by
      rw [each_eq hdecode hitems]
      exact .refl _
  exact hagree.eq

/-! ### Fields -/

variable {o o' : Members} {key : String}

theorem agree_required (h : Likeness.member key like o o') :
    Agree like (required o key) (required o' key) :=
  (Agree.orRefuse h).within

theorem agree_field {T : α → α → Prop} (h : Likeness.member key like o o')
    (hdecode : ∀ v v', like v v' → Agree T (decode v) (decode v')) :
    Agree T (field o key decode) (field o' key decode) :=
  (agree_required h).bind fun v v' hv ↦ (hdecode v v' hv).within

theorem field_eq (h : Likeness.member key like o o') (hdecode : Respects decode like) :
    field o key decode = field o' key decode := by
  refine (agree_field h fun v v' hv ↦ ?_).eq
  rw [hdecode v v' hv]
  exact .refl _

theorem optional_eq (h : Likeness.member key like o o') (hdecode : Respects decode like) :
    optional o key decode = optional o' key decode := by
  unfold Likeness.member at h
  unfold optional
  generalize o.lookup key = w at h ⊢
  generalize o'.lookup key = w' at h ⊢
  cases h with
  | none => rfl
  | some hv => simp only [hdecode _ _ hv]

theorem fieldD_eq {default : α} (h : Likeness.member key like o o')
    (hdecode : Respects decode like) :
    fieldD o key decode default = fieldD o' key decode default := by
  rw [fieldD, fieldD, optional_eq h hdecode]

theorem list_eq (h : Likeness.member key like.list o o') (hdecode : Respects decode like) :
    list o key decode = list o' key decode :=
  fieldD_eq h hdecode.elementsEach

end Decoded

end TrustRouter
