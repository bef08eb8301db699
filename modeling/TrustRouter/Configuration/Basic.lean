import TrustRouter.Graph.Client
import TrustRouter.Graph.Community
import TrustRouter.Graph.Settings

/-! # Configurations

A **draft** collects what documents declare, in the order of declaration. `Draft.build` turns it
into a **configuration**, whose lists are in lookup order: the latest declaration first, so that of
several declarations of one name the last is found.

Building resolves the members of every community before it looks for what is missing. A reference
to an unknown realm is therefore reported even if the draft is also incomplete, and it is that of
the latest community with such a reference. A draft can also be checked for completeness without
being built (`Draft.validate`); nothing is resolved for that.
-/

namespace TrustRouter

/-- A complete configuration, its lists in lookup order. -/
structure Configuration where
  settings : Settings
  clients : List RpClient
  realms : List IdpRealm
  servers : List AaaServer
  communities : List Community
deriving DecidableEq

/-- What has been declared so far, in the order of declaration. -/
structure Draft where
  settings : Option Settings := none
  clients : List RpClient := []
  realms : List IdpRealm := []
  servers : List AaaServer := []
  communities : List Community.Declaration := []
deriving DecidableEq

/-! ### Completeness -/

namespace Issue

/-- The rules of completeness that are broken by settings and by numbers of clients, of communities,
and of realms and default servers taken together. They are in a fixed order. -/
def broken (settings : Option Settings) (clients communities sources : Nat) : List Issue :=
  (if settings.any (·.hasHostname) then [] else [missingHostname]) ++
  (if clients = 0 then [noClients] else []) ++
  (if communities = 0 then [noCommunities] else []) ++
  (if sources = 0 then [noServers] else [])

/-- Refuses what is not complete, with all the rules that are broken. -/
def check (settings : Option Settings) (clients communities sources : Nat) :
    Except (List Issue) Unit :=
  match broken settings clients communities sources with
  | [] => .ok ()
  | issues => .error issues

end Issue

/-! ### Drafts -/

namespace Draft

/-- The draft in which nothing is declared. -/
def empty : Draft := {}

/-- Lays a settings section over those before it. -/
def addSettings (d : Draft) (s : Settings) : Draft :=
  { d with settings := some (d.settings.elim s (·.overlay s)) }

/-- Declares a client. -/
def addClient (d : Draft) (c : RpClient) : Draft := { d with clients := d.clients ++ [c] }

/-- Declares a realm. -/
def addRealm (d : Draft) (r : IdpRealm) : Draft := { d with realms := d.realms ++ [r] }

/-- Declares a default server. -/
def addServer (d : Draft) (s : AaaServer) : Draft := { d with servers := d.servers ++ [s] }

/-- Declares a community. -/
def addCommunity (d : Draft) (c : Community.Declaration) : Draft :=
  { d with communities := d.communities ++ [c] }

/-- The rules of completeness that a draft breaks. -/
def issues (d : Draft) : List Issue :=
  Issue.broken d.settings d.clients.length d.communities.length (d.realms.length + d.servers.length)

/-- Checks a draft for completeness as it stands. -/
def validate (d : Draft) : Except (List Issue) Unit :=
  Issue.check d.settings d.clients.length d.communities.length
    (d.realms.length + d.servers.length)

/-- The communities of a draft in lookup order, their members resolved. -/
def resolveCommunities (d : Draft) : Except EntityError (List Community) :=
  d.communities.reverse.mapM (·.resolve d.realms.reverse)

/-- The configuration of a draft. Completeness is checked on what the configuration would hold. -/
def build (d : Draft) : Except EntityError Configuration := do
  let clients := d.clients.reverse
  let realms := d.realms.reverse
  let servers := d.servers.reverse
  let communities ← d.resolveCommunities
  (Issue.check d.settings clients.length communities.length
    (realms.length + servers.length)).mapError .incomplete
  match d.settings with
  | some settings => return { settings, clients, realms, servers, communities }
  | none => throw (.incomplete [.missingHostname])

end Draft

/-! ### Lookups -/

namespace Configuration

/-- The realm of a name. -/
def realm? (c : Configuration) (id : Name) : Option IdpRealm := c.realms.find? (·.id == id)

/-- The client known by a name. -/
def client? (c : Configuration) (name : Name) : Option RpClient :=
  c.clients.find? (·.isNamed name)

/-- The community of a name. -/
def community? (c : Configuration) (id : Name) : Option Community :=
  c.communities.find? (·.id == id)

/-- The realm a reference stands for: the one in its place, if it still has that name. -/
def memberRealm? (c : Configuration) (m : Community.Member) : Option IdpRealm :=
  c.realms[m.slot]?.filter (·.id == m.id)

/-- The realms of a community. -/
def communityRealms (c : Configuration) (community : Community) : List IdpRealm :=
  community.members.filterMap c.memberRealm?

/-- The thresholds a configuration asks for. -/
def thresholds (c : Configuration) : Thresholds := c.settings.thresholds

end Configuration

end TrustRouter
