import TrustRouter.EntityError
import TrustRouter.Policy.Pattern

/-! # Constraints

A constraint narrows an accepted request to certain realms or to certain domains. It holds between
one and twenty-four patterns and permits a value that satisfies any of them.
-/

namespace TrustRouter

/-- What a constraint restricts. -/
inductive ConstraintKind where
  | realm
  | domain
deriving DecidableEq

/-- The word for a kind of constraint. -/
def ConstraintKind.label : ConstraintKind → String
  | realm => "realm"
  | domain => "domain"

/-- The name of the list of patterns in a filter line. -/
def ConstraintKind.field : ConstraintKind → String
  | realm => "realm_constraints"
  | domain => "domain_constraints"

/-- Patterns of one kind, any of which may be satisfied. -/
structure Constraint where
  kind : ConstraintKind
  patterns : Bounded 24 Name
deriving DecidableEq

namespace Constraint

/-- The constraint of a list of patterns. -/
def ofPatterns (kind : ConstraintKind) (patterns : List Name) : Except EntityError Constraint :=
  return ⟨kind, ← EntityError.bounded kind.field 24 patterns⟩

/-- Whether some pattern accepts the value. -/
def permits (c : Constraint) (matcher : Matcher) (value : Name) : Bool :=
  c.patterns.toList.any (matcher value)

end Constraint

end TrustRouter
