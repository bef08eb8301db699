import TrustRouter.Policy.Constraint

/-! # Filters

A filter decides which requests a client may make. It is a list of lines, and a line is a list of
tests on the fields of a request, all of which have to hold. The first line whose tests hold
decides, with its action and its constraints; when there is none the request is rejected.

A request is any partial map from field names to values, so a test on a field that the request
lacks does not hold.
-/

namespace TrustRouter

/-! ### Requests -/

/-- The fields of a request. -/
abbrev Request := Name → Option Name

/-- The request given by pairs of field and value. Of several pairs for one field the first
counts. -/
def Request.ofPairs (pairs : List (Name × Name)) : Request := fun field ↦ pairs.lookup field

/-! ### Lines -/

/-- The kind of a filter. -/
inductive FilterKind where
  /-- The requests a relying party is permitted to make. -/
  | rpPermitted
deriving DecidableEq

namespace FilterKind

/-- The word for a kind of filter. -/
def label : FilterKind → String
  | rpPermitted => "rp_permitted"

/-- The kind a word stands for. -/
def ofLabel? (word : String) : Option FilterKind :=
  if word = "rp_permitted" then some rpPermitted else none

end FilterKind

/-- What is done with a request. -/
inductive Action where
  | accept
  | reject
deriving DecidableEq

namespace Action

/-- The word for an action. -/
def label : Action → String
  | accept => "accept"
  | reject => "reject"

/-- The action a word stands for. -/
def ofLabel? (word : String) : Option Action :=
  if word = "accept" then some accept
  else if word = "reject" then some reject
  else none

end Action

/-- A test on one field of a request. Neither the field nor the pattern is empty. -/
structure FieldTest where
  field : Name
  pattern : Name
  field_ne : field ≠ .empty
  pattern_ne : pattern ≠ .empty
deriving DecidableEq

/-- A test on two names, neither of which may be empty; the field is looked at first. -/
def FieldTest.ofNames (field pattern : Name) : Except EntityError FieldTest :=
  if hf : field = .empty then .error (.bound "field" .empty)
  else if hp : pattern = .empty then .error (.bound "match" .empty)
  else .ok ⟨field, pattern, hf, hp⟩

/-- Whether the request supplies the field with a value that the matcher accepts. -/
def FieldTest.holds (t : FieldTest) (request : Request) (matcher : Matcher) : Bool :=
  match request t.field with
  | none => false
  | some value => matcher value t.pattern

/-- A line of a filter: what to do with the requests that pass all its tests. -/
structure FilterLine where
  action : Action
  tests : Bounded 8 FieldTest
  realms : Option Constraint
  domains : Option Constraint
deriving DecidableEq

/-- The line with a list of tests. -/
def FilterLine.ofTests (action : Action) (tests : List FieldTest)
    (realms domains : Option Constraint) : Except EntityError FilterLine :=
  return ⟨action, ← EntityError.bounded "filter_specs" 8 tests, realms, domains⟩

/-- Whether every test of the line holds. -/
def FilterLine.holds (l : FilterLine) (request : Request) (matcher : Matcher) : Bool :=
  l.tests.toList.all (·.holds request matcher)

/-! ### Decisions -/

/-- The outcome for a request: what to do, the index of the line that decided, and the constraints
that line carries. -/
structure Decision where
  action : Action
  line : Option Nat
  realms : Option Constraint
  domains : Option Constraint
deriving DecidableEq

namespace Decision

/-- The decision when no line holds. -/
def undecided : Decision := ⟨.reject, none, none, none⟩

/-- The decision of a line found at an index. -/
def ofLine (l : FilterLine) (index : Nat) : Decision := ⟨l.action, some index, l.realms, l.domains⟩

/-- Whether the request is accepted. -/
def accepts (d : Decision) : Bool := d.action = .accept

end Decision

/-- A filter: its lines, in the order in which they are tried. -/
structure Filter where
  kind : FilterKind
  lines : Bounded 8 FilterLine
deriving DecidableEq

/-- The filter with a list of lines. -/
def Filter.ofLines (kind : FilterKind) (lines : List FilterLine) : Except EntityError Filter :=
  return ⟨kind, ← EntityError.bounded "filter_lines" 8 lines⟩

/-- The decision of a list of lines: the first that holds decides. -/
def Decision.ofLines (lines : List FilterLine) (request : Request) (matcher : Matcher) : Decision :=
  match lines.zipIdx.find? fun (l, _) ↦ l.holds request matcher with
  | some (l, index) => .ofLine l index
  | none => .undecided

/-- The decision of a filter. -/
def Filter.decision (f : Filter) (request : Request) (matcher : Matcher) : Decision :=
  .ofLines f.lines.toList request matcher

end TrustRouter
