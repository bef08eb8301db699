import TrustRouter.Document.Field
import TrustRouter.Graph.Community
import TrustRouter.Graph.Settings

/-! # Decoding realms, communities and settings

What a realm or a community is decides which of its fields are read: a remote realm's servers, the
interval of a community of interest and all governing communities after the first are never looked
at, so they may be anything.
-/

namespace TrustRouter

open Decoded

/-! ### Servers and governing communities -/

/-- Decodes a server: its hostname. -/
def AaaServer.ofJson (v : Json) : Decoded AaaServer := return ⟨← name v⟩

/-- Decodes an array of servers. -/
def AaaServer.listOfJson (v : Json) : Decoded (List AaaServer) := do
  each AaaServer.ofJson (← elements v)

/-- The governing community that an array begins with, if any; the rest of the array is not
looked at. -/
def Apc.ofElements : List Json → Decoded (Option Apc)
  | [] => .ok none
  | first :: _ => within (.index 0) (return some ⟨← name first⟩)

/-- Decodes an array of governing communities. -/
def Apc.ofJson (v : Json) : Decoded (Option Apc) := do
  ofElements (← elements v)

/-! ### Realms -/

/-- Decodes a realm. It is remote when it has a number other than zero that says so. -/
def IdpRealm.ofJson (v : Json) : Decoded IdpRealm := do
  let o ← object v
  let remote ← fieldD o "remote" (fun v ↦ return !(← number v).isZero) false
  let id ← field o "realm_id" name
  let apc ← fieldD o "apcs" Apc.ofJson none
  if remote then
    return ⟨id, apc, .remote⟩
  let shared ← field o "shared_config" string
  let servers ← field o "aaa_servers" AaaServer.listOfJson
  let origin ← (Origin.ofServers (shared != "no") servers).mapError fun e ↦
    ⟨[.key "aaa_servers"], .entity e⟩
  return ⟨id, apc, origin⟩

/-! ### Communities -/

/-- Decodes an expiration interval and brings it into range. An integer that is no signed word is
beyond the range, so nothing more is asked of it. -/
def Community.expirationOfJson (v : Json) : Decoded UInt32 :=
  match v.int64? with
  | some minutes => .ok (clampExpiration minutes.toInt)
  | none => if v.isUInt64 then .ok greatestExpiration else refuse .notInteger

/-- Decodes a community. All its fields must have their shapes before its kind is looked at. -/
def Community.Declaration.ofJson (v : Json) : Decoded Community.Declaration := do
  let o ← object v
  let id ← field o "community_id" name
  let label ← field o "type" string
  let apcs ← field o "apcs" elements
  let idps ← field o "idp_realms" elements
  let rps ← field o "rp_realms" elements
  let kind ←
    if label = "apc" then
      .apc <$> fieldD o "expiration_interval" expirationOfJson defaultExpiration
    else if label = "coi" then
      within (.key "apcs") do
        let some apc ← Apc.ofElements apcs | refuse (.entity (.missingApc id))
        return .coi apc
    else
      within (.key "type") (refuse (.unknownWord "community type" label))
  let idps ← within (.key "idp_realms") (each name idps)
  let rps ← within (.key "rp_realms") (each name rps)
  return ⟨id, kind, idps, rps⟩

/-! ### Settings -/

/-- Decodes an integer below a bound. -/
def Decoded.below (bound : Nat) (v : Json) : Decoded Nat :=
  orRefuse (v.integer?.bind fun n ↦ if 0 ≤ n ∧ n < bound then some n.toNat else none) .notSetting

/-- Decodes an integer of sixteen bits. -/
def Decoded.uint16 (v : Json) : Decoded UInt16 := return .ofNat (← below UInt16.size v)

/-- Decodes an integer of thirty-two bits. -/
def Decoded.uint32 (v : Json) : Decoded UInt32 := return .ofNat (← below UInt32.size v)

/-- Decodes a severity; no word is wrong. -/
def Severity.ofJson (v : Json) : Decoded Severity := return .ofLabel (← string v)

/-- Decodes the two thresholds of a logging section. -/
def Decoded.logging (defaults : Settings) (v : Json) : Decoded (Severity × Severity) := do
  let o ← object v
  let log ← fieldD o "log_threshold" Severity.ofJson defaults.logThreshold
  let console ← fieldD o "console_threshold" Severity.ofJson defaults.consoleThreshold
  return (log, console)

/-- Decodes settings; an absent field takes its default. -/
def Settings.ofJson (v : Json) : Decoded Settings := do
  let defaults : Settings := {}
  let o ← object v
  let hostname ← optional o "hostname" name
  let (logThreshold, consoleThreshold) ←
    fieldD o "logging" (logging defaults) (defaults.logThreshold, defaults.consoleThreshold)
  return {
    hostname
    maxTreeDepth := ← fieldD o "max_tree_depth" uint32 defaults.maxTreeDepth
    tidsPort := ← fieldD o "tids_port" uint16 defaults.tidsPort
    trpsPort := ← fieldD o "trps_port" uint16 defaults.trpsPort
    cfgPollInterval := ← fieldD o "cfg_poll_interval" uint32 defaults.cfgPollInterval
    cfgSettlingTime := ← fieldD o "cfg_settling_time" uint32 defaults.cfgSettlingTime
    trpConnectInterval := ← fieldD o "trp_connect_interval" uint32 defaults.trpConnectInterval
    trpSweepInterval := ← fieldD o "trp_sweep_interval" uint32 defaults.trpSweepInterval
    trpUpdateInterval := ← fieldD o "trp_update_interval" uint32 defaults.trpUpdateInterval
    logThreshold
    consoleThreshold }

end TrustRouter
