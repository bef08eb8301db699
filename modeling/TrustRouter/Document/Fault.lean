import TrustRouter.EntityError
import TrustRouter.Json.Basic

/-! # Faults in a document

A decoder that refuses a value says where in the value the fault is and what it is. A decoder knows
only the value it is given, so the place is a path relative to it; whoever hands a part of a value
to another decoder puts the step to that part in front (`within`). At the outermost value the
path is the path from the root.
-/

namespace TrustRouter

/-- What is wrong at a place of a document. -/
inductive Reason where
  | notObject
  | notArray
  | notString
  | notNumber
  /-- The value is no integer at all. -/
  | notInteger
  /-- The value is no integer that the setting can take. -/
  | notSetting
  | missingField
  /-- An array is out of its bounds. -/
  | bound (e : BoundError)
  /-- A word that is no `what`. -/
  | unknownWord (what word : String)
  /-- The value is well-formed, but breaks a rule of the model. -/
  | entity (e : EntityError)
  /-- The text is no JSON, as the JSON reader puts it. -/
  | notJson (words : String)
  /-- The text is longer than a document may be. -/
  | tooLong
  /-- The bytes are no UTF-8. -/
  | notUtf8
deriving DecidableEq

/-- The reason in words. -/
def Reason.message : Reason → String
  | .notObject => "expected an object"
  | .notArray => "expected an array"
  | .notString => "expected a string"
  | .notNumber => "expected a number"
  | .notInteger => "expected an integer"
  | .notSetting => "expected a non-negative integer in range"
  | .missingField => "missing required field"
  | .bound e => e.message
  | .unknownWord what word => "unknown " ++ what ++ " " ++ word
  | .entity e => e.message
  | .notJson words => "invalid json: " ++ words
  | .tooLong => "config file exceeds size limit"
  | .notUtf8 => "config file must be utf-8"

/-- A fault: its place in the value decoded, and what it is. -/
structure Fault where
  path : Json.Path
  reason : Reason
deriving DecidableEq

/-- The outcome of decoding a value. -/
abbrev Decoded (α : Type) := Except Fault α

namespace Decoded

variable {α β : Type}

/-- Refuses the value itself. -/
def refuse (reason : Reason) : Decoded α := .error ⟨[], reason⟩

/-- Places the outcome for a part of a value: a fault found there lies behind the step to it. -/
def within (step : Json.Step) (part : Decoded α) : Decoded α :=
  part.mapError fun fault ↦ { fault with path := step :: fault.path }

/-- Refuses the value itself when there is no result. -/
def orRefuse (result : Option α) (reason : Reason) : Decoded α :=
  match result with
  | some a => .ok a
  | none => refuse reason

@[simp]
theorem within_ok (step : Json.Step) (a : α) : within step (.ok a) = .ok a :=
  rfl

@[simp]
theorem within_error (step : Json.Step) (fault : Fault) :
    within step (.error fault : Decoded α) = .error ⟨step :: fault.path, fault.reason⟩ :=
  rfl

@[simp]
theorem orRefuse_some (a : α) (reason : Reason) : orRefuse (some a) reason = .ok a :=
  rfl

@[simp]
theorem orRefuse_none (reason : Reason) : orRefuse (none : Option α) reason = .error ⟨[], reason⟩ :=
  rfl

end Decoded

end TrustRouter
