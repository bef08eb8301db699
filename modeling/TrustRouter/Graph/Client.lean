import TrustRouter.Policy.Filter

/-! # Clients

A relying party that may query the router. It is known by one to five names, of which the first is
its primary one, and has a filter for its requests.
-/

namespace TrustRouter

/-- A relying party with its filter. -/
structure RpClient where
  names : Bounded 5 Name
  filter : Filter
deriving DecidableEq

namespace RpClient

/-- The client with a list of names. -/
def ofNames (names : List Name) (filter : Filter) : Except EntityError RpClient :=
  return ⟨← EntityError.bounded "gss_names" 5 names, filter⟩

/-- The first name. -/
def primary (c : RpClient) : Name := c.names.head

/-- The names after the first. -/
def aliases (c : RpClient) : List Name := c.names.tail

/-- Whether the client is known by a name. -/
def isNamed (c : RpClient) (name : Name) : Bool := c.names.toList.contains name

end RpClient

end TrustRouter
