import TrustRouter.Bounded
import TrustRouter.Name

/-! # Why an entity cannot be made

The rules of the model that a declaration can break, each with what it takes to report it. The
first three concern one entity, the last two a whole configuration: a community that names a realm
nobody declares, and a configuration that is not complete.
-/

namespace TrustRouter

/-- A rule of completeness that a configuration breaks. -/
inductive Issue where
  /-- There are no settings, or their hostname is absent or empty. -/
  | missingHostname
  | noClients
  | noCommunities
  /-- There is neither a realm nor a default server. -/
  | noServers
deriving DecidableEq

/-- The rule in words. -/
def Issue.message : Issue → String
  | .missingHostname => "no internal configuration or no hostname"
  | .noClients => "no rp clients configured"
  | .noCommunities => "no communities configured"
  | .noServers => "no default servers or idp realms configured"

/-- A list of broken rules in words. -/
def Issue.report (issues : List Issue) : String :=
  "invalid configuration: " ++ "; ".intercalate (issues.map Issue.message)

/-- Why an entity or a configuration cannot be made. -/
inductive EntityError where
  /-- The list or the name called `field` is out of its bounds. -/
  | bound (field : String) (e : BoundError)
  /-- A community of interest without a governing community. -/
  | missingApc (community : Name)
  /-- A community has a member that is no declared realm. -/
  | unknownRealm (community realm : Name)
  /-- The configuration is not complete. -/
  | incomplete (issues : List Issue)
deriving DecidableEq

namespace EntityError

/-- Checks the list called `field` against its bounds. -/
def bounded {α : Type} (field : String) (max : Nat) (l : List α) :
    Except EntityError (Bounded max α) :=
  (Bounded.ofList max l).mapError (.bound field)

/-- The error in words. -/
def message : EntityError → String
  | .bound field e => field ++ " " ++ e.message
  | .missingApc community => "community " ++ community.text ++ " of type coi requires an apc"
  | .unknownRealm community realm =>
    "community " ++ community.text ++ " references unknown idp realm " ++ realm.text
  | .incomplete issues => Issue.report issues

end EntityError

end TrustRouter
