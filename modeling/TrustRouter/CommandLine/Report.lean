import TrustRouter.CommandLine.Invocation
import TrustRouter.Configuration.Summary
import TrustRouter.Json.Write

/-! # Reports

The results of the commands as text, either for people or as canonical JSON: compact, with the
members of every object in ascending order of their keys.
-/

namespace TrustRouter

/-! ### JSON -/

/-- A name as a JSON string. -/
def Name.json (n : Name) : Json := .string n.text

/-- A natural number of at most 64 bits as a JSON number. -/
def Json.count (n : UInt64) : Json := .number (.ofUInt64 n)

/-- Names as a JSON array. -/
def Name.jsonArray (names : List Name) : Json := .array (names.map Name.json)

/-- The settings as JSON. -/
def Settings.json (s : Settings) : Json := .object [
  ("cfg_poll_interval", .count s.cfgPollInterval.toUInt64),
  ("cfg_settling_time", .count s.cfgSettlingTime.toUInt64),
  ("console_threshold", .string s.consoleThreshold.label),
  ("hostname", s.hostname.elim .null Name.json),
  ("log_threshold", .string s.logThreshold.label),
  ("max_tree_depth", .count s.maxTreeDepth.toUInt64),
  ("tids_port", .count s.tidsPort.toUInt64),
  ("trp_connect_interval", .count s.trpConnectInterval.toUInt64),
  ("trp_sweep_interval", .count s.trpSweepInterval.toUInt64),
  ("trp_update_interval", .count s.trpUpdateInterval.toUInt64),
  ("trps_port", .count s.trpsPort.toUInt64)]

/-- The summary of a community as JSON. -/
def CommunitySummary.json (s : CommunitySummary) : Json := .object [
  ("apc", s.kind.apc?.elim .null (·.id.json)),
  ("expiration_interval", s.kind.expiration?.elim .null (.count ·.toUInt64)),
  ("id", s.id.json),
  ("idp_realms", Name.jsonArray s.idps),
  ("kind", .string s.kind.label),
  ("rp_realms", Name.jsonArray s.rps)]

/-- The summary of a configuration as JSON. -/
def Summary.json (s : Summary) : Json := .object [
  ("communities", .array (s.communities.map CommunitySummary.json)),
  ("default_servers", Name.jsonArray s.servers),
  ("idp_realms", Name.jsonArray s.realms),
  ("internal", s.settings.json),
  ("rp_clients", Name.jsonArray s.clients)]

/-! ### Text -/

/-- The hostname line, if there is a hostname. -/
def Settings.hostnameLine (s : Settings) : String :=
  s.hostname.elim "" fun hostname ↦ "hostname " ++ hostname.text ++ "\n"

/-- The line of the two services and where they listen. -/
def Settings.servicesLine (s : Settings) : String :=
  s!"ports tids={s.tidsPort} trps={s.trpsPort}\n"

/-- The line of a community. -/
def CommunitySummary.line (s : CommunitySummary) : String :=
  s.title ++ " idps " ++ s.idpList ++ " rps " ++ s.rpList ++ "\n"

/-- The summary of a configuration for people: hostname, services and every community. -/
def Summary.text (s : Summary) : String :=
  s.settings.hostnameLine ++ s.settings.servicesLine ++
    String.join (s.communities.map CommunitySummary.line)

/-- The summary in a format. -/
def Summary.render (s : Summary) : OutputFormat → String
  | .json => s.json.text
  | .text => s.text

/-! ### Validation -/

/-- The result of a pass over a valid directory. -/
structure Validation where
  documents : Nat
  generation : UInt64
  summary : Summary

/-- The result as JSON. -/
def Validation.json (v : Validation) : Json := .object [
  ("documents", .count (.ofNat v.documents)),
  ("generation", .count v.generation),
  ("summary", v.summary.json)]

/-- The result for people: how much there is of everything. -/
def Validation.text (v : Validation) : String :=
  s!"configuration valid: {v.documents} document(s), generation {v.generation}\n" ++
  "hostname: " ++ v.summary.settings.hostname.elim "" Name.text ++ "\n" ++
  s!"rp clients: {v.summary.clients.length}\n" ++
  s!"idp realms: {v.summary.realms.length}\n" ++
  s!"default servers: {v.summary.servers.length}\n" ++
  s!"communities: {v.summary.communities.length}\n"

/-- The result in a format. -/
def Validation.render (v : Validation) : OutputFormat → String
  | .json => v.json.text
  | .text => v.text

end TrustRouter
