import TrustRouter.Name
import TrustRouter.Severity

/-! # Settings

What the router process itself is configured with. Everything but the hostname has a default; a
configuration without a hostname is incomplete, but settings without one are not wrong, because
another document may give it. Overlaying one settings section on an earlier one keeps of the
earlier only a hostname that the later does not give.
-/

namespace TrustRouter

/-- The settings of the router process. Intervals are in seconds. -/
structure Settings where
  hostname : Option Name := none
  maxTreeDepth : UInt32 := 12
  tidsPort : UInt16 := 12309
  trpsPort : UInt16 := 12308
  cfgPollInterval : UInt32 := 1
  cfgSettlingTime : UInt32 := 5
  trpConnectInterval : UInt32 := 10
  trpSweepInterval : UInt32 := 30
  trpUpdateInterval : UInt32 := 30
  logThreshold : Severity := .notice
  consoleThreshold : Severity := .notice
deriving DecidableEq

namespace Settings

/-- Whether there is a hostname that is not empty. -/
def hasHostname (s : Settings) : Bool := s.hostname.any (!·.isEmpty)

/-- These settings with a later section laid over them. -/
def overlay (s later : Settings) : Settings :=
  { later with hostname := later.hostname <|> s.hostname }

/-- The thresholds that these settings ask for. -/
def thresholds (s : Settings) : Thresholds := .ofSeverities s.logThreshold s.consoleThreshold

/-- Laying sections over one another may be grouped either way. -/
theorem overlay_assoc (s₁ s₂ s₃ : Settings) :
    (s₁.overlay s₂).overlay s₃ = s₁.overlay (s₂.overlay s₃) := by
  simp [overlay, Option.orElse_eq_orElse, Option.orElse_eq_or, Option.or_assoc]

end Settings

end TrustRouter
