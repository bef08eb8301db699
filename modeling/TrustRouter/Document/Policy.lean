import TrustRouter.Document.Field
import TrustRouter.Graph.Client

/-! # Decoding clients and filters

The size of every array is checked before any of its elements is decoded. The order of the other
checks is part of what a document's author sees when several things are wrong: shapes and words of
an object come first, then its constraints, then the elements of its arrays.
-/

namespace TrustRouter

open Decoded

/-! ### Constraints -/

/-- Decodes an array of one to twenty-four patterns. -/
def Constraint.ofJson (kind : ConstraintKind) (v : Json) : Decoded Constraint := do
  return ⟨kind, ← boundedEach name (← boundedElements 24 v)⟩

/-- Decodes the constraint of a filter line; an empty array is no constraint. -/
def Constraint.ofField (o : Json.Members) (kind : ConstraintKind) : Decoded (Option Constraint) :=
  return (← optional o kind.field fun v ↦ do
    if (← elements v).isEmpty then return none else return some (← Constraint.ofJson kind v)).join

/-! ### Filters -/

/-- Decodes a test. A name that is empty is a fault at that name. -/
def FieldTest.ofJson (v : Json) : Decoded FieldTest := do
  let o ← object v
  let field ← Decoded.field o "field" name
  let pattern ← Decoded.field o "match" name
  (ofNames field pattern).mapError fun e ↦
    ⟨[.key (if field.isEmpty then "field" else "match")], .entity e⟩

/-- Decodes a line of a filter. -/
def FilterLine.ofJson (v : Json) : Decoded FilterLine := do
  let o ← object v
  let label ← field o "action" string
  let action ← within (.key "action") (word "filter action" Action.ofLabel? label)
  let tests ← field o "filter_specs" (boundedElements 8)
  let realms ← Constraint.ofField o .realm
  let domains ← Constraint.ofField o .domain
  let tests ← within (.key "filter_specs") (boundedEach FieldTest.ofJson tests)
  return ⟨action, tests, realms, domains⟩

/-- Decodes a filter. -/
def Filter.ofJson (v : Json) : Decoded Filter := do
  let o ← object v
  let label ← field o "type" string
  let lines ← field o "filter_lines" (boundedElements 8)
  let kind ← within (.key "type") (word "filter type" FilterKind.ofLabel? label)
  let lines ← within (.key "filter_lines") (boundedEach FilterLine.ofJson lines)
  return ⟨kind, lines⟩

/-! ### Clients -/

/-- Decodes a client. -/
def RpClient.ofJson (v : Json) : Decoded RpClient := do
  let o ← object v
  let names ← field o "gss_names" elements
  let filter ← required o "filter"
  let names ← within (.key "gss_names") (bounded 5 names)
  let filter ← within (.key "filter") (Filter.ofJson filter)
  let names ← within (.key "gss_names") (boundedEach name names)
  return ⟨names, filter⟩

end TrustRouter
