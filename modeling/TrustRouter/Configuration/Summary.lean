import TrustRouter.Configuration.Basic

/-! # Summaries

What people see of a running configuration: the settings, the names of what is configured in lookup
order, and the membership of every community.
-/

namespace TrustRouter

/-- What is shown of a community. -/
structure CommunitySummary where
  id : Name
  kind : Community.Kind
  idps : List Name
  rps : List Name

/-- What is shown of a configuration. -/
structure Summary where
  settings : Settings
  clients : List Name
  realms : List Name
  servers : List Name
  communities : List CommunitySummary

/-- The summary of a community within a configuration. -/
def Configuration.summarize (c : Configuration) (community : Community) : CommunitySummary where
  id := community.id
  kind := community.kind
  idps := (c.communityRealms community).map (·.id)
  rps := community.rps

/-- The summary of a configuration. -/
def Configuration.summary (c : Configuration) : Summary where
  settings := c.settings
  clients := c.clients.map (·.primary)
  realms := c.realms.map (·.id)
  servers := c.servers.map (·.hostname)
  communities := c.communities.map c.summarize

/-- The realms of a community as a list in brackets, each with an at sign. -/
def CommunitySummary.idpList (s : CommunitySummary) : String :=
  "[" ++ ", ".intercalate (s.idps.map fun id ↦ "@" ++ id.text) ++ "]"

/-- The relying parties of a community as a list in brackets. -/
def CommunitySummary.rpList (s : CommunitySummary) : String :=
  "[" ++ ", ".intercalate (s.rps.map Name.text) ++ "]"

/-- The community and its kind. -/
def CommunitySummary.title (s : CommunitySummary) : String :=
  "community " ++ s.id.text ++ " (" ++ s.kind.label ++ ")"

end TrustRouter
