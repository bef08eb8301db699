import TrustRouter.EntityError

/-! # Realms

An identity realm is served by authentication servers that this router knows, or it has only been
heard of from elsewhere. What is known of a realm of the first kind — its servers, and whether its
configuration is shared — does not exist for the second.
-/

namespace TrustRouter

/-- An authentication server. -/
structure AaaServer where
  hostname : Name
deriving DecidableEq

/-- The community that governs others: an authentication policy community. -/
structure Apc where
  id : Name
deriving DecidableEq

/-- Where a realm's configuration comes from. -/
inductive Origin where
  /-- The realm is configured here and has servers. -/
  | configured (shared : Bool) (servers : List AaaServer) (ne_nil : servers ≠ [])
  /-- The realm is known from elsewhere. -/
  | remote
deriving DecidableEq

/-- An identity realm. -/
structure IdpRealm where
  id : Name
  apc : Option Apc
  origin : Origin
deriving DecidableEq

namespace Origin

/-- The word for an origin. -/
def label : Origin → String
  | configured .. => "local"
  | remote => "remote_incomplete"

/-- The servers; a remote realm has none. -/
def servers : Origin → List AaaServer
  | configured _ servers _ => servers
  | remote => []

/-- Whether the configuration is shared; that of a remote realm is not. -/
def shared : Origin → Bool
  | configured shared _ _ => shared
  | remote => false

/-- The origin of a realm with servers, of which there must be one. -/
def ofServers (shared : Bool) (servers : List AaaServer) : Except EntityError Origin :=
  if h : servers = [] then .error (.bound "aaa_servers" .empty)
  else .ok (.configured shared servers h)

end Origin

end TrustRouter
