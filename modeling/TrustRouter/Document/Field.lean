import TrustRouter.Document.Fault

/-! # Fields of a document

The decoders that all entities share: values of one JSON type, fields of an object that must or
may be present, and the elements of an array. A field that must be present and is not is a fault
at the field, not at the object.
-/

namespace TrustRouter.Decoded

variable {α : Type} {max : Nat}

/-! ### Values -/

/-- The members of a value that has to be an object. -/
def object (v : Json) : Decoded Json.Members := orRefuse v.object? .notObject

/-- The elements of a value that has to be an array. -/
def elements (v : Json) : Decoded (List Json) := orRefuse v.array? .notArray

/-- The text of a value that has to be a string. -/
def string (v : Json) : Decoded String := orRefuse v.string? .notString

/-- The number of a value that has to be one. -/
def number (v : Json) : Decoded Json.Number := orRefuse v.number? .notNumber

/-- A value that has to be a string, as a name. -/
def name (v : Json) : Decoded Name := return .ofString (← string v)

/-- The value of a string that has to be one of the words for a `what`. -/
def word (what : String) (ofLabel? : String → Option α) (label : String) : Decoded α :=
  orRefuse (ofLabel? label) (.unknownWord what label)

/-! ### Arrays -/

/-- Checks the number of elements. -/
def bounded (max : Nat) (items : List Json) : Decoded (Bounded max Json) :=
  (Bounded.ofList max items).mapError fun e ↦ ⟨[], .bound e⟩

/-- The elements of an array, of which there have to be between one and `max`. -/
def boundedElements (max : Nat) (v : Json) : Decoded (Bounded max Json) := do
  bounded max (← elements v)

/-- Decodes an element at its index. -/
def element (decode : Json → Decoded α) (entry : Json × Nat) : Decoded α :=
  within (.index entry.2) (decode entry.1)

/-- Decodes the elements of an array in order; the first fault is the outcome. -/
def each (decode : Json → Decoded α) (items : List Json) : Decoded (List α) :=
  items.zipIdx.mapM (element decode)

/-- Decodes the elements of a bounded array in order; the first fault is the outcome. -/
def boundedEach (decode : Json → Decoded α) (items : Bounded max Json) : Decoded (Bounded max α) :=
  (Bounded.mk items.toList.zipIdx (by simpa using items.ne_nil)
    (by simpa using items.length_le)).mapM (element decode)

/-- A value that has to be an array of strings, as names. -/
def names (v : Json) : Decoded (List Name) := do
  each name (← elements v)

/-! ### Objects -/

/-- The field of an object that must be there. -/
def required (o : Json.Members) (key : String) : Decoded Json :=
  within (.key key) (orRefuse (o.lookup key) .missingField)

/-- Decodes a field that must be there. -/
def field (o : Json.Members) (key : String) (decode : Json → Decoded α) : Decoded α := do
  within (.key key) (decode (← required o key))

/-- Decodes a field that may be absent. -/
def optional (o : Json.Members) (key : String) (decode : Json → Decoded α) :
    Decoded (Option α) :=
  match o.lookup key with
  | none => .ok none
  | some v => within (.key key) (some <$> decode v)

/-- Decodes a field that may be absent and then has a default. -/
def fieldD (o : Json.Members) (key : String) (decode : Json → Decoded α) (default : α) :
    Decoded α :=
  return (← optional o key decode).getD default

/-- Decodes a list that may be absent and is then empty. -/
def list (o : Json.Members) (key : String) (decode : Json → Decoded α) : Decoded (List α) :=
  fieldD o key (fun v ↦ do each decode (← elements v)) []

end TrustRouter.Decoded
