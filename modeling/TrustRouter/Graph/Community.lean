import TrustRouter.Graph.Realm

/-! # Communities

A community scopes trust between identity realms and relying-party realms. A declaration names its
identity realms; a community refers to them, by name and by place in the list of realms it was
resolved against. Resolving (`Community.Declaration.resolve`) takes the first realm of that name, so
the list has to be in lookup order, and it fails on the first name that no realm has.

Relying-party realms are names only.
-/

namespace TrustRouter

namespace Community

/-! ### Expiration -/

/-- An expiration interval in minutes when a community does not give one: thirty days. -/
def defaultExpiration : UInt32 := 43200

/-- The least expiration interval: at ten minutes a client's knowledge would expire before its next
successful query. -/
def leastExpiration : UInt32 := 11

/-- The greatest expiration interval: ninety days. -/
def greatestExpiration : UInt32 := 129600

/-- The word of 32 bits that an integer is, if it is one. -/
def narrow? (n : Int) : Option UInt32 :=
  if 0 ≤ n ∧ n < UInt32.size then some (.ofNat n.toNat) else none

/-- A number of minutes brought into the accepted range. -/
def clampExpiration (minutes : Int) : UInt32 :=
  let clamped : Int :=
    if minutes < leastExpiration.toNat then leastExpiration.toNat
    else if greatestExpiration.toNat < minutes then greatestExpiration.toNat
    else minutes
  (narrow? clamped).getD greatestExpiration

/-! ### Kinds -/

/-- What a community is. -/
inductive Kind where
  /-- A governing community, with its expiration interval in minutes. -/
  | apc (expiration : UInt32)
  /-- A community of interest, with the community that governs it. -/
  | coi (apc : Apc)
deriving DecidableEq

namespace Kind

/-- The word for a kind. -/
def label : Kind → String
  | apc _ => "apc"
  | coi _ => "coi"

/-- The governing community of a community of interest. -/
def apc? : Kind → Option Apc
  | apc _ => none
  | coi governing => some governing

/-- The expiration interval of a governing community. -/
def expiration? : Kind → Option UInt32
  | apc minutes => some minutes
  | coi _ => none

end Kind

/-- A community as declared: its members are names. -/
structure Declaration where
  id : Name
  kind : Kind
  idps : List Name
  rps : List Name
deriving DecidableEq

/-- A reference to a realm: its name and its place in the list of realms. -/
structure Member where
  id : Name
  slot : Nat
deriving DecidableEq

end Community

/-- A community whose identity realms are resolved. -/
structure Community where
  id : Name
  kind : Community.Kind
  members : List Community.Member
  rps : List Name
deriving DecidableEq

namespace Community

/-- Whether a realm is a member. -/
def hasIdp (c : Community) (realm : Name) : Bool := c.members.any (·.id == realm)

/-- Whether a relying-party realm is a member. -/
def hasRp (c : Community) (realm : Name) : Bool := c.rps.contains realm

/-- The reference to the first realm with a name. -/
def Member.find? (realms : List IdpRealm) (id : Name) : Option Member :=
  (realms.findIdx? (·.id == id)).map (⟨id, ·⟩)

/-- The references to a list of realms, or the first name that is no realm. -/
def Member.findAll (realms : List IdpRealm) (ids : List Name) : Except Name (List Member) :=
  ids.mapM fun id ↦ (Member.find? realms id).elim (.error id) .ok

/-- The community declared, with its members found among the realms. -/
def Declaration.resolve (d : Declaration) (realms : List IdpRealm) :
    Except EntityError Community :=
  match Member.findAll realms d.idps with
  | .ok members => .ok ⟨d.id, d.kind, members, d.rps⟩
  | .error realm => .error (.unknownRealm d.id realm)

end Community

end TrustRouter
