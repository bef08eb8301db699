import TrustRouter.Proofs.Document.Entities

/-! # Reading a document directly

What a document says can be read off its value without any decoder, by looking at members, arrays
and scalars and nothing else. Such a reading is total: what is absent or has a wrong shape is read
as absent. Where the decoder accepts, the two agree, which is stated for each reading where it is
used.

The value itself is read off the characters of the text (`Document.fragment_ofList`); for a document
that is written out, that is a computation on lists.
-/

namespace TrustRouter

namespace Json

/-! ### Members -/

/-- The member of a value, if the value is an object that has it. -/
def member? (v : Json) (key : String) : Option Json := v.step? (.key key)

/-- The elements of the array in a member, none if there is no array. -/
def listAt (v : Json) (key : String) : List Json := ((v.member? key).bind array?).getD []

/-- The string in a member. -/
def stringAt? (v : Json) (key : String) : Option String := (v.member? key).bind string?

/-- The strings of the array in a member, as names. -/
def namesAt (v : Json) (key : String) : List Name :=
  ((v.listAt key).filterMap string?).map Name.ofString

variable {o : Members} {key : String}

@[simp]
theorem member?_object : (object o).member? key = o.lookup key :=
  rfl

theorem stringAt?_of_lookup {s : String} (h : o.lookup key = some (.string s)) :
    (object o).stringAt? key = some s := by
  rw [stringAt?, member?_object, h]
  rfl

theorem listAt_of_lookup {items : List Json} (h : o.lookup key = some (.array items)) :
    (object o).listAt key = items := by
  rw [listAt, member?_object, h]
  rfl

theorem listAt_of_lookup_none (h : o.lookup key = none) : (object o).listAt key = [] := by
  rw [listAt, member?_object, h]
  rfl

/-- What a list is decoded from, element by element. -/
theorem forall₂_listAt {α : Type} {decode : Json → Decoded α} {l : List α}
    (h : Decoded.list o key decode = .ok l) :
    List.Forall₂ (fun v a ↦ decode v = .ok a) ((object o).listAt key) l := by
  rcases Decoded.list_eq_ok_iff.1 h with ⟨hnone, rfl⟩ | ⟨items, hlookup, hitems⟩
  · rw [listAt_of_lookup_none hnone]
    exact .nil
  · rwa [listAt_of_lookup hlookup]

/-- Elements that can all be decoded as names are all strings, so none is left out. -/
theorem namesAt_of_lookup {items : List Json} {names : List Name}
    (h : o.lookup key = some (.array items))
    (hnames : List.Forall₂ (fun v n ↦ Decoded.name v = .ok n) items names) :
    (object o).namesAt key = names := by
  rw [namesAt, listAt_of_lookup h]
  -- From here on only the elements matter, not that they stand in a member.
  clear h
  induction hnames with
  | nil => rfl
  | cons hname _ ih =>
    obtain ⟨s, rfl, rfl⟩ := Decoded.name_eq_ok_iff.1 hname
    rw [List.filterMap_cons_some (f := string?) rfl, List.map_cons, ih]

/-! ### Characters -/

theorem ofText?_ofList (l : List Char) : ofText? (.ofList l) = (tokens l).bind ofTokens? := by
  rw [ofText?, String.toList_ofList]

end Json

section Characters

variable [Json.Diagnosis] {name : String} {l : List Char}

theorem Document.fragment_ofList (h : (l.flatMap String.utf8EncodeChar).length ≤ maxBytes) :
    fragment ⟨name, .ofList l⟩ = ((Json.tokens l).bind Json.ofTokens?).elim
      (.error (.malformed ⟨name, none⟩ (.notJson (Json.Diagnosis.words (.ofList l)))))
      fun v ↦ (Fragment.ofJson v).mapError (.ofFault name) := by
  have hsize : (String.ofList l).utf8ByteSize = (l.flatMap String.utf8EncodeChar).length := by
    simp [String.utf8ByteSize, List.utf8Encode]
  rw [fragment, if_neg (by rw [hsize]; exact Nat.not_lt_of_le h), Json.ofText?_ofList]
  cases (Json.tokens l).bind Json.ofTokens? <;> rfl

/-- Characters that write a value are decoded as that value, whatever would be said of others. -/
theorem Document.fragment_of_chars (outcome : Except LoadError Fragment)
    (h : (l.flatMap String.utf8EncodeChar).length ≤ maxBytes)
    (hvalue : ((Json.tokens l).bind Json.ofTokens?).map
      (fun v ↦ (Fragment.ofJson v).mapError (.ofFault name)) = some outcome) :
    fragment ⟨name, .ofList l⟩ = outcome := by
  obtain ⟨v, hv, rfl⟩ := Option.map_eq_some_iff.1 hvalue
  rw [fragment_ofList h, hv, Option.elim_some]

end Characters

end TrustRouter
