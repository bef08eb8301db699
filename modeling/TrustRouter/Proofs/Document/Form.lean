import TrustRouter.Proofs.Document.Entities

/-!
# Forms

A **form** says what a value has to look like and nothing about what is made of it. Forms are
Boolean tests that are put together the way a document is: scalars, arrays with a number of
elements, objects with conditions on their members. No decoder occurs in a form, so a decoder that
`Accepts` one is compared with something that can be read, and run, without it.

Two decisions are the same as for the decoders, for they are about JSON and not about documents: of
several members with one key the last counts (`Members.lookup`), and members that no condition is
about may be anything.

For each decoder that the entities share, acceptance of what it is given carries over to what it
makes of it. Over an array this is an induction on the elements, made once in
`Except.exists_mapM_eq_ok_iff`.
-/

namespace TrustRouter

namespace Json

/-- A form: whether a value looks as it has to. -/
abbrev Form := Json → Bool

namespace Form

/-! ### Scalars -/

/-- Anything. -/
def any : Form := fun _ ↦ true

/-- A string. -/
def string : Form := fun v ↦ v.string?.isSome

/-- A string that is not empty. -/
def nonempty : Form := fun v ↦ v.string?.any (· != "")

/-- One of these words. -/
def oneOf (words : List String) : Form := fun v ↦ v.string?.any words.contains

/-- A number. -/
def number : Form := fun v ↦ v.number?.isSome

/-- A number other than zero. -/
def nonzero : Form := fun v ↦ v.number?.any (!·.isZero)

/-- An integer. -/
def integer : Form := fun v ↦ v.integer?.isSome

/-- An integer from zero on and below a bound. -/
def below (bound : ℕ) : Form := fun v ↦ v.integer?.any fun n : Int ↦ decide (0 ≤ n ∧ n < bound)

/-! ### Arrays -/

/-- Between a least and a greatest number of elements. -/
def between (least greatest size : ℕ) : Bool := decide (least ≤ size ∧ size ≤ greatest)

/-- An array of so many values of a form. -/
def array (size : ℕ → Bool) (form : Form) : Form := fun v ↦
  v.array?.any fun items ↦ size items.length && items.all form

/-- An array of any number of values of a form. -/
def list : Form → Form := array fun _ ↦ true

/-- An array whose first element, if it has one, is of a form. The others may be anything. -/
def headed (form : Form) : Form := fun v ↦ v.array?.any (·.head?.all form)

/-- An array that begins with a value of a form. The other elements may be anything. -/
def beginning (form : Form) : Form := fun v ↦ v.array?.any (·.head?.any form)

/-! ### Objects -/

/-- Conditions that are met together. -/
def all (conditions : List (Members → Bool)) (o : Members) : Bool := conditions.all (· o)

/-- Two conditions of which one is met. -/
def either (condition condition' : Members → Bool) (o : Members) : Bool :=
  condition o || condition' o

/-- An object whose members meet these conditions. -/
def object (conditions : List (Members → Bool)) : Form := fun v ↦ v.object?.any (all conditions)

/-- A member that must be there has a form. -/
def required (key : String) (form : Form) (o : Members) : Bool := (o.lookup key).any form

/-- A member, if it is there, has a form. -/
def optional (key : String) (form : Form) (o : Members) : Bool := (o.lookup key).all form

/-! ### What has a form -/

variable {v : Json} {form : Form} {o : Members} {key : String}

theorem nonempty_iff : nonempty v = true ↔ ∃ s, v = .string s ∧ s ≠ "" := by
  cases v <;> simp [nonempty, string?]

theorem oneOf_iff {words : List String} : oneOf words v = true ↔ ∃ s ∈ words, v = .string s := by
  cases v <;> simp [oneOf, string?]

theorem nonzero_iff : nonzero v = true ↔ ∃ n, v.number? = some n ∧ n.isZero = false := by
  simp [nonzero, Option.any_eq_true]

theorem below_iff {bound : ℕ} :
    below bound v = true ↔ ∃ n : ℕ, v.integer? = some (n : Int) ∧ n < bound := by
  rw [below, Option.any_eq_true]
  constructor
  · rintro ⟨n, hn, h⟩
    obtain ⟨hnonneg, hlt⟩ := of_decide_eq_true h
    refine ⟨n.toNat, ?_, ?_⟩
    · rw [hn, Int.toNat_of_nonneg hnonneg]
    · omega
  · rintro ⟨n, hn, hlt⟩
    exact ⟨n, hn, decide_eq_true (by omega)⟩

theorem array_iff {size : ℕ → Bool} :
    array size form v = true ↔
      ∃ items, v = .array items ∧ size items.length = true ∧ items.all form = true := by
  cases v <;> simp [array, array?]

theorem list_iff : list form v = true ↔ ∃ items, v = .array items ∧ items.all form = true := by
  simp [list, array_iff]

theorem headed_iff :
    headed form v = true ↔
      ∃ items, v = .array items ∧ ∀ first ∈ items.head?, form first = true := by
  cases v <;> simp [headed, array?, Option.all_eq_true]

theorem beginning_iff :
    beginning form v = true ↔
      ∃ items first, v = .array items ∧ items.head? = some first ∧ form first = true := by
  cases v <;> simp [beginning, array?, Option.any_eq_true]

@[simp]
theorem all_nil : all [] o = true :=
  rfl

@[simp]
theorem all_cons {condition : Members → Bool} {conditions : List (Members → Bool)} :
    all (condition :: conditions) o = true ↔ condition o = true ∧ all conditions o = true := by
  simp [all]

theorem either_iff {condition condition' : Members → Bool} :
    either condition condition' o = true ↔ condition o = true ∨ condition' o = true := by
  simp [either]

theorem object_iff {conditions : List (Members → Bool)} :
    object conditions v = true ↔ ∃ o, v = .object o ∧ all conditions o = true := by
  cases v <;> simp [object, object?]

theorem required_iff : required key form o = true ↔ ∃ v, o.lookup key = some v ∧ form v = true := by
  simp [required, Option.any_eq_true]

theorem required_array_iff {size : ℕ → Bool} :
    required key (array size form) o = true ↔ ∃ items, o.lookup key = some (.array items) ∧
      (size items.length && items.all form) = true := by
  simp only [required_iff, array_iff, Bool.and_eq_true]
  constructor
  · rintro ⟨_, hlookup, items, rfl, h⟩
    exact ⟨items, hlookup, h⟩
  · rintro ⟨items, hlookup, h⟩
    exact ⟨_, hlookup, items, rfl, h⟩

theorem optional_iff :
    optional key form o = true ↔
      o.lookup key = none ∨ ∃ v, o.lookup key = some v ∧ form v = true := by
  cases h : o.lookup key <;> simp [optional, h]

end Form

end Json

namespace Decoded

open Json (Form)

variable {α : Type} {decode : Json → Decoded α} {form : Form} {o : Json.Members} {key : String}
  {items : List Json}

/-- The values that a decoder accepts are those of a form. -/
def Accepts (decode : Json → Decoded α) (form : Form) : Prop :=
  ∀ v, (∃ a, decode v = .ok a) ↔ form v = true

/-- A decoder that takes one view of a value accepts the values that have it. -/
theorem accepts_orRefuse {view : Json → Option α} {reason : Reason} :
    Accepts (fun v ↦ orRefuse (view v) reason) fun v ↦ (view v).isSome := by
  intro v
  simp only [orRefuse_eq_ok_iff, Option.isSome_iff_exists]

/-- What is made of an accepted value does not matter. -/
theorem Accepts.map {β : Type} (h : Accepts decode form) (f : α → β) :
    Accepts (fun v ↦ do return f (← decode v)) form := by
  intro v
  simp only [Except.exists_bind_eq_ok_iff, Except.pure_eq_ok_iff, exists_eq', and_true]
  exact h v

theorem accepts_string : Accepts string Form.string :=
  accepts_orRefuse

theorem accepts_number : Accepts number Form.number :=
  accepts_orRefuse

theorem accepts_name : Accepts name Form.string :=
  accepts_string.map Name.ofString

/-! ### Arrays -/

namespace Accepts

theorem exists_forall₂_iff (h : Accepts decode form) :
    (∃ l, List.Forall₂ (fun v a ↦ decode v = .ok a) items l) ↔ items.all form = true := by
  rw [List.all_eq_true, ← forall₂_congr fun v _ ↦ h v, ← Except.exists_mapM_eq_ok_iff]
  exact exists_congr fun l ↦ Except.mapM_eq_ok_iff.symm

/-- A bounded array is accepted by its number of elements and by its elements. -/
theorem exists_bounded_forall₂_iff {max : ℕ} (h : Accepts decode form) :
    (∃ l : Bounded max α, List.Forall₂ (fun v a ↦ decode v = .ok a) items l.toList) ↔
      (Form.between 1 max items.length && items.all form) = true := by
  rw [Bool.and_eq_true, ← h.exists_forall₂_iff]
  constructor
  · rintro ⟨l, hl⟩
    refine ⟨decide_eq_true ⟨?_, ?_⟩, l.toList, hl⟩
    · rw [hl.length_eq]
      exact l.one_le_length
    · rw [hl.length_eq]
      exact l.length_le
  · rintro ⟨hsize, l, hl⟩
    obtain ⟨hpos, hle⟩ := of_decide_eq_true hsize
    rw [hl.length_eq] at hpos hle
    exact ⟨⟨l, List.length_pos_iff.1 hpos, hle⟩, hl⟩

/-- An array in a member that must be there. -/
theorem exists_lookup_forall₂_iff (h : Accepts decode form) :
    (∃ items, o.lookup key = some (.array items) ∧
      ∃ l, List.Forall₂ (fun v a ↦ decode v = .ok a) items l) ↔
    Form.required key (Form.list form) o = true := by
  rw [Form.list, Form.required_array_iff]
  refine exists_congr fun items ↦ and_congr_right fun _ ↦ ?_
  rw [h.exists_forall₂_iff, Bool.true_and]

/-- A bounded array in a member that must be there. -/
theorem exists_lookup_bounded_iff {max : ℕ} (h : Accepts decode form) :
    (∃ items, o.lookup key = some (.array items) ∧
      ∃ l : Bounded max α, List.Forall₂ (fun v a ↦ decode v = .ok a) items l.toList) ↔
    Form.required key (Form.array (Form.between 1 max) form) o = true := by
  rw [Form.required_array_iff]
  exact exists_congr fun items ↦ and_congr_right fun _ ↦ h.exists_bounded_forall₂_iff

/-! ### Fields -/

theorem field (h : Accepts decode form) :
    (∃ a, field o key decode = .ok a) ↔ Form.required key form o = true := by
  simp only [field_eq_ok_iff, Form.required_iff, ← h _]
  constructor
  · rintro ⟨a, v, hv, ha⟩
    exact ⟨v, hv, a, ha⟩
  · rintro ⟨v, hv, a, ha⟩
    exact ⟨a, v, hv, ha⟩

theorem fieldD {default : α} (h : Accepts decode form) :
    (∃ a, fieldD o key decode default = .ok a) ↔ Form.optional key form o = true := by
  simp only [fieldD_eq_ok_iff, Form.optional_iff, ← h _]
  constructor
  · rintro ⟨a, ⟨hnone, -⟩ | ⟨v, hv, ha⟩⟩
    · exact .inl hnone
    · exact .inr ⟨v, hv, a, ha⟩
  · rintro (hnone | ⟨v, hv, a, ha⟩)
    · exact ⟨default, .inl ⟨hnone, rfl⟩⟩
    · exact ⟨a, .inr ⟨v, hv, ha⟩⟩

theorem optional (h : Accepts decode form) :
    (∃ a, optional o key decode = .ok a) ↔ Form.optional key form o = true := by
  simp only [optional_eq_ok_iff, Form.optional_iff, ← h _]
  constructor
  · rintro ⟨_, ⟨hnone, -⟩ | ⟨v, a, hv, ha, -⟩⟩
    · exact .inl hnone
    · exact .inr ⟨v, hv, a, ha⟩
  · rintro (hnone | ⟨v, hv, a, ha⟩)
    · exact ⟨none, .inl ⟨hnone, rfl⟩⟩
    · exact ⟨some a, .inr ⟨v, a, hv, ha, rfl⟩⟩

theorem elements (h : Accepts decode form) :
    Accepts (fun v ↦ do each decode (← elements v)) (Form.list form) := by
  intro v
  simp only [Except.bind_eq_ok_iff, elements_eq_ok_iff, each_eq_ok_iff, Form.list_iff,
    ← h.exists_forall₂_iff]
  rw [exists_comm]
  exact exists_congr fun items ↦ exists_and_left

theorem list (h : Accepts decode form) :
    (∃ l, list o key decode = .ok l) ↔ Form.optional key (Form.list form) o = true :=
  h.elements.fieldD

end Accepts

end Decoded

end TrustRouter
