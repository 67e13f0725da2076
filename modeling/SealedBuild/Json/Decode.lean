import SealedBuild.OsPath

/-!
# Reading JSON documents

A document is read as a record of named fields: an object gives its fields by name, and an array
gives them by position, without items to spare.
-/

namespace SealedBuild.Json

/-- The fields that a document offers. -/
inductive Fields
  | named (members : List (String × Json))
  | listed (items : List Json)

namespace Fields

/-- The fields of a document for a record of the given size. -/
def ofJson? (size : Nat) : Json → Option Fields
  | .object members => some (named members)
  | .array items => if items.length ≤ size then some (listed items) else none
  | _ => none

/-- The value of a field, given its position in the record and its name. -/
def find? : Fields → Nat → String → Option Json
  | named members, _, name => member? members name
  | listed items, position, _ => items[position]?

/-- A field that may be absent. -/
def optional {α : Type} (fields : Fields) (position : Nat) (name : String)
    (decode : Json → Option α) (default : α) : Option α :=
  match fields.find? position name with
  | some value => decode value
  | none => some default

/-- A field that must be there. -/
def required {α : Type} (fields : Fields) (position : Nat) (name : String)
    (decode : Json → Option α) : Option α := (fields.find? position name).bind decode

end Fields

/-- The path that a document is, if it is one. -/
def path? (document : Json) : Option Path := document.string?.map fun text => ⟨text⟩

/-- The path that a document is, as the system stores it. -/
def osPath? (document : Json) : Option OsPath := document.path?.map .ofPath

/-- The number that a document is, if it has 64 bits and no sign. -/
def natural? : Json → Option Nat
  | .number (.ofNat n) => if n < UInt64.size then some n else none
  | _ => none

/-- Reads the items of an array, in order. -/
def list? {α : Type} (decode : Json → Option α) : Json → Option (List α)
  | .array items => items.mapM decode
  | _ => none

/-- A document that may be null. -/
def nullable? {α : Type} (decode : Json → Option α) : Json → Option (Option α)
  | .null => some none
  | document => (decode document).map some

end SealedBuild.Json
