import TrustRouter.Configuration.Basic

/-! # The manager

The manager holds at most one staged and at most one active configuration. Promotion makes the
staged one active, counts a generation and publishes the thresholds the configuration asks for; it
empties the staging slot, so nothing is promoted twice. Generations are counted in 64 bits.
-/

namespace TrustRouter

/-- Why the manager refuses. -/
inductive ManagerError where
  | nothingStaged
  /-- The staging slot was left in an unknown state by a writer that did not finish. -/
  | poisoned
deriving DecidableEq

/-- The error in words. -/
def ManagerError.message : ManagerError → String
  | .nothingStaged => "no staged configuration to promote"
  | .poisoned => "configuration staging lock poisoned"

/-- The configurations held, the number of promotions, and the thresholds published last. -/
structure Manager where
  active : Option Configuration
  staged : Option Configuration
  generation : UInt64
  thresholds : Thresholds
deriving DecidableEq

namespace Manager

/-- A manager that holds nothing. -/
def ofThresholds (thresholds : Thresholds) : Manager := ⟨none, none, 0, thresholds⟩

/-- The manager in diagnostics: whether it is active, and since how many promotions. -/
def diagnostic (m : Manager) : String :=
  "ConfigManager \x7b has_active: " ++ toString m.active.isSome ++
    ", generation: " ++ toString m.generation ++ ", .. \x7d"

/-- Drops what is staged. -/
def discard (m : Manager) : Manager := { m with staged := none }

/-- Begins a pass: drops what is staged and starts a draft. -/
def startDraft (m : Manager) : Draft × Manager := (.empty, m.discard)

/-- Stages a configuration in place of what was staged. -/
def stage (m : Manager) (c : Configuration) : Manager := { m with staged := some c }

/-- Makes the staged configuration active. -/
def promote (m : Manager) : Except ManagerError (Configuration × Manager) :=
  match m.staged with
  | none => .error .nothingStaged
  | some c => .ok (c, ⟨some c, none, m.generation + 1, c.thresholds⟩)

end Manager

end TrustRouter
