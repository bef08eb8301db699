import TrustRouter.Policy.Filter

/-! # Decisions, line by line

The decision of a filter is found by one search over its numbered lines. To follow it line by line
it is convenient to decide the first line and go on with the next number; `Decision.ofLines_eq` says
that this is the same.
-/

namespace TrustRouter.Decision

variable (request : Request) (matcher : Matcher)

/-- The decision of lines counted from `index` on. -/
def ofLinesFrom (index : Nat) : List FilterLine → Decision
  | [] => undecided
  | l :: lines => if l.holds request matcher then ofLine l index else ofLinesFrom (index + 1) lines

/-- The search over lines numbered from `index` on. By induction on the lines, for any `index`. -/
theorem ofLinesFrom_eq (index : Nat) (lines : List FilterLine) :
    ofLinesFrom request matcher index lines =
      match (lines.zipIdx index).find? fun (l, _) ↦ l.holds request matcher with
      | some (l, index) => .ofLine l index
      | none => .undecided := by
  induction lines generalizing index with
  | nil => rfl
  | cons l lines ih =>
    rw [ofLinesFrom, List.zipIdx_cons, List.find?_cons]
    show _ = match (match l.holds request matcher with | true => some (l, index) | false => _) with
      | some (l, index) => _
      | none => _
    cases l.holds request matcher with
    | true => rfl
    | false => exact ih (index + 1)

theorem ofLines_eq (lines : List FilterLine) :
    ofLines lines request matcher = ofLinesFrom request matcher 0 lines :=
  (ofLinesFrom_eq request matcher 0 lines).symm

end TrustRouter.Decision
