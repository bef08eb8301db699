import TrustRouter.Json.Number

/-! # JSON values

The value of a JSON text, and the paths into it. An object keeps its members as written; of
several members with one key, the last counts (`Json.lookup`), so a member that a later one
overrides is as good as absent.

A **path** is a list of steps from the root. `Json.at?` follows it: a key step into the counting
member of an object, an index step into an element of an array.
-/

namespace TrustRouter

/-- A JSON value. -/
inductive Json where
  | null
  | bool (b : Bool)
  | number (n : Json.Number)
  | string (s : String)
  | array (items : List Json)
  | object (members : List (String × Json))

namespace Json

/-- The members of an object, in the order written. -/
abbrev Members := List (String × Json)

/-- The value of the last member with a key. -/
def Members.lookup (members : Members) (key : String) : Option Json :=
  List.lookup key members.reverse

/-! ### Paths -/

/-- One step into a value. -/
inductive Step where
  | key (name : String)
  | index (i : Nat)
deriving DecidableEq

/-- The steps from the root to a place in a value. -/
abbrev Path := List Step

/-- How a step is written. -/
def Step.text : Step → String
  | .key name => "." ++ name
  | .index i => s!"[{i}]"

/-- A path as shown to people, from the root `$`. -/
def Path.text (path : Path) : String :=
  path.foldl (fun shown step ↦ shown ++ step.text) "$"

/-- The value one step further. -/
def step? : Json → Step → Option Json
  | .object members, .key name => Members.lookup members name
  | .array items, .index i => items[i]?
  | _, _ => none

/-- The value at the end of a path. -/
def at? (v : Json) : Path → Option Json
  | [] => some v
  | step :: path => (v.step? step).bind (·.at? path)

@[simp]
theorem at?_nil (v : Json) : v.at? [] = some v :=
  rfl

theorem at?_cons (v : Json) (step : Step) (path : Path) :
    v.at? (step :: path) = (v.step? step).bind (·.at? path) :=
  rfl

/-! ### Views -/

/-- The members, if the value is an object. -/
def object? : Json → Option Members
  | .object members => some members
  | _ => none

/-- The elements, if the value is an array. -/
def array? : Json → Option (List Json)
  | .array items => some items
  | _ => none

/-- The text, if the value is a string. -/
def string? : Json → Option String
  | .string s => some s
  | _ => none

/-- The number, if the value is one. -/
def number? : Json → Option Number
  | .number n => some n
  | _ => none

/-- The integer, if the value is one. -/
def integer? (v : Json) : Option Int := v.number?.bind Number.integer?

/-- The signed word of 64 bits, if the value is one. -/
def int64? (v : Json) : Option Int64 := v.number?.bind Number.int64?

/-- Whether the value is an unsigned word of 64 bits. -/
def isUInt64 (v : Json) : Bool := v.number?.any Number.isUInt64

end Json

end TrustRouter
