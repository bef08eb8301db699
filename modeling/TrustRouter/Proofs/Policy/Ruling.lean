import TrustRouter.Proofs.Document.Reading
import TrustRouter.Proofs.Pointwise
import TrustRouter.Proofs.Policy.Decision

/-! # What an entry of a document rules

The entry of a client in a document can be read as a rule for requests directly, without decoding
it: `Ruling.ofEntry` looks at members, arrays and strings and nothing else. It has no bounds and
takes what has a wrong shape as absent, so it says something about any value. Decoding an entry
loses none of it and adds nothing: where the decoder accepts, the decision of the client's filter is
the ruling of the entry (`Ruling.decision_of_ofJson`), and the names of the client are those that
the entry lists.
-/

namespace TrustRouter

/-! ### Rulings -/

/-- What is ruled on a request: the word for what to do, the index of the line that says so, and the
names to which that line restricts realms and domains, each with its kind. -/
structure Ruling where
  action : String
  line : Option Nat
  realms : Option (ConstraintKind × List Name)
  domains : Option (ConstraintKind × List Name)
deriving DecidableEq

/-- The decision of a filter as a ruling. -/
def Decision.ruling (d : Decision) : Ruling where
  action := d.action.label
  line := d.line
  realms := d.realms.map fun c ↦ (c.kind, c.patterns.toList)
  domains := d.domains.map fun c ↦ (c.kind, c.patterns.toList)

/-- A ruling says all that a decision does. -/
theorem Decision.ruling_injective : Function.Injective ruling := by
  have hconstraint : Function.Injective fun c : Constraint ↦ (c.kind, c.patterns.toList) := by
    rintro ⟨kind, patterns⟩ ⟨kind', patterns'⟩ h
    obtain ⟨rfl, h⟩ := Prod.mk.inj h
    obtain rfl := Bounded.ext h
    rfl
  rintro ⟨action, line, realms, domains⟩ ⟨action', line', realms', domains'⟩ h
  obtain ⟨haction, hline, hrealms, hdomains⟩ := Ruling.mk.inj h
  rw [Decision.mk.injEq]
  exact ⟨Action.label_injective haction, hline, Option.map_injective hconstraint hrealms,
    Option.map_injective hconstraint hdomains⟩

namespace Ruling

/-- Whether an element of `filter_specs` holds for a request. -/
def specHolds (request : Request) (matcher : Matcher) (spec : Json) : Bool :=
  match spec.stringAt? "field", spec.stringAt? "match" with
  | some field, some pattern =>
    (request (.ofString field)).any fun value ↦ matcher value (.ofString pattern)
  | _, _ => false

/-- Whether an element of `filter_lines` holds for a request. -/
def lineHolds (request : Request) (matcher : Matcher) (line : Json) : Bool :=
  (line.listAt "filter_specs").all (specHolds request matcher)

/-- Names to which a line restricts something; none at all are no restriction. -/
def restriction (kind : ConstraintKind) (names : List Name) : Option (ConstraintKind × List Name) :=
  if names = [] then none else some (kind, names)

/-- The ruling of a line. -/
def ofLine (line : Json) (index : Nat) : Ruling where
  action := (line.stringAt? "action").getD "reject"
  line := index
  realms := restriction .realm (line.namesAt "realm_constraints")
  domains := restriction .domain (line.namesAt "domain_constraints")

/-- The ruling of the first line that holds, of lines counted from `index` on; if none holds, the
request is to be rejected. -/
def ofLines (request : Request) (matcher : Matcher) (index : Nat) : List Json → Ruling
  | [] => ⟨"reject", none, none, none⟩
  | line :: lines =>
    if lineHolds request matcher line then ofLine line index
    else ofLines request matcher (index + 1) lines

/-- The ruling of a client's entry. -/
def ofEntry (request : Request) (matcher : Matcher) (entry : Json) : Ruling :=
  ofLines request matcher 0 ((entry.member? "filter").elim [] (·.listAt "filter_lines"))

/-! ### Decoding agrees -/

variable {request : Request} {matcher : Matcher} {v : Json}

theorem specHolds_of_ofJson {t : FieldTest} (h : FieldTest.ofJson v = .ok t) :
    specHolds request matcher v = t.holds request matcher := by
  obtain ⟨o, field, pattern, rfl, hfield, hf, hpattern, hp⟩ := FieldTest.ofJson_eq_ok_iff.1 h
  rw [specHolds, Json.stringAt?_of_lookup hfield, Json.stringAt?_of_lookup hpattern,
    FieldTest.holds, ← hf, ← hp]
  show (request (.ofString field)).any _ = _
  cases request (.ofString field) <;> rfl

theorem lineHolds_of_ofJson {l : FilterLine} (h : FilterLine.ofJson v = .ok l) :
    lineHolds request matcher v = l.holds request matcher := by
  obtain ⟨o, tests, rfl, -, hlookup, htests, -, -⟩ := FilterLine.ofJson_eq_ok_iff.1 h
  rw [lineHolds, Json.listAt_of_lookup hlookup, FilterLine.holds]
  exact htests.all_eq fun _ _ ht ↦ specHolds_of_ofJson ht

/-- A constraint has the names of its own field, whichever its kind is, and there is none exactly
when the field names nothing. -/
theorem restriction_of_ofField {o : Json.Members} {kind : ConstraintKind} {c : Option Constraint}
    (h : Constraint.ofField o kind = .ok c) :
    restriction kind ((Json.object o).namesAt kind.field) =
      c.map fun c ↦ (c.kind, c.patterns.toList) := by
  rcases Constraint.ofField_eq_ok_iff.1 h with ⟨hnone, rfl⟩ | ⟨items, hlookup, hc⟩
  · rw [Json.namesAt, Json.listAt_of_lookup_none hnone]
    rfl
  · split at hc
    · next hnil =>
      rw [hc, Json.namesAt, Json.listAt_of_lookup hlookup, hnil]
      rfl
    · -- What was decoded has at least one name, so there is a restriction.
      obtain ⟨c, rfl, hc⟩ := hc
      obtain ⟨hkind, _, hitems, hnames⟩ := Constraint.ofJson_eq_ok_iff.1 hc
      cases hitems
      rw [Json.namesAt_of_lookup hlookup hnames, restriction, if_neg c.patterns.ne_nil, ← hkind]
      rfl

theorem ofLine_of_ofJson {l : FilterLine} (h : FilterLine.ofJson v = .ok l) (index : Nat) :
    ofLine v index = (Decision.ofLine l index).ruling := by
  obtain ⟨o, tests, rfl, haction, -, -, hrealms, hdomains⟩ := FilterLine.ofJson_eq_ok_iff.1 h
  have hr : restriction .realm ((Json.object o).namesAt "realm_constraints") = _ :=
    restriction_of_ofField hrealms
  have hd : restriction .domain ((Json.object o).namesAt "domain_constraints") = _ :=
    restriction_of_ofField hdomains
  rw [ofLine, Json.stringAt?_of_lookup haction, hr, hd]
  rfl

/-- Lines rule as they decide after decoding. By induction on the lines, from any index on. -/
theorem ofLines_of_ofJson {values : List Json} {lines : List FilterLine}
    (h : List.Forall₂ (fun v l ↦ FilterLine.ofJson v = .ok l) values lines) (index : Nat) :
    ofLines request matcher index values =
      (Decision.ofLinesFrom request matcher index lines).ruling := by
  induction h generalizing index with
  | nil => rfl
  | cons hl _ ih =>
    rw [ofLines, Decision.ofLinesFrom, lineHolds_of_ofJson hl, ih, ofLine_of_ofJson hl]
    exact (apply_ite Decision.ruling _ _ _).symm

/-- **The entry rules.** Where an entry is accepted, the decision of the client's filter is the
ruling of the entry. -/
theorem decision_of_ofJson {c : RpClient} (h : RpClient.ofJson v = .ok c) :
    (c.filter.decision request matcher).ruling = ofEntry request matcher v := by
  obtain ⟨o, -, filter, rfl, -, -, hfilter, hdecode⟩ := RpClient.ofJson_eq_ok_iff.1 h
  obtain ⟨o', lines, rfl, -, hlookup, hlines⟩ := Filter.ofJson_eq_ok_iff.1 hdecode
  have hentry : ofEntry request matcher (.object o) = ofLines request matcher 0 lines := by
    rw [ofEntry, Json.member?_object, hfilter, Option.elim_some, Json.listAt_of_lookup hlookup]
  rw [hentry, ofLines_of_ofJson hlines, Filter.decision, Decision.ofLines_eq]

end Ruling

end TrustRouter
