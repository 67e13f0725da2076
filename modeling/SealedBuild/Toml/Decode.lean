import SealedBuild.Path
import SealedBuild.Toml.Value

/-!
# Reading values

A value is read as a record of named fields in one of two ways: a table gives its fields by name,
and an array gives them by position. Keys and items that no field asks for are ignored, and a date
is a record without any fields.
-/

namespace SealedBuild.Toml

/-- The fields that a value offers. -/
inductive Fields
  | named (entries : List (String × Value))
  | listed (items : List Value)

namespace Fields

/-- The fields of a value. -/
def ofValue : Value → Except Error Fields
  | .table entries => .ok (named entries)
  | .array items => .ok (listed items)
  | .datetime _ => .ok (named [])
  | _ => .error (.wrongType "a table")

/-- The value of a field, given its position in the record and its name. -/
def find? : Fields → Nat → String → Option Value
  | named entries, _, name => (entries.find? (·.1 == name)).map (·.2)
  | listed items, position, _ => items[position]?

/-- A field that may be absent. -/
def optional {α : Type} (fields : Fields) (position : Nat) (name : String)
    (decode : Value → Except Error α) (default : α) : Except Error α :=
  match fields.find? position name with
  | some value => decode value
  | none => .ok default

/-- A field that must be there. -/
def required {α : Type} (fields : Fields) (position : Nat) (name : String)
    (decode : Value → Except Error α) : Except Error α :=
  match fields.find? position name with
  | some value => decode value
  | none => .error (.missingKey name)

end Fields

namespace Value

/-- A value that must be a string. -/
def asString : Value → Except Error String
  | .string text => .ok text
  | _ => .error (.wrongType "a string")

/-- A value that must be a path. -/
def asPath (value : Value) : Except Error Path := value.asString.map fun text => ⟨text⟩

/-- A value that must be a truth value. -/
def asBool : Value → Except Error Bool
  | .boolean value => .ok value
  | _ => .error (.wrongType "a boolean")

/-- A value that must be an integer that is not negative. -/
def asNatural : Value → Except Error Nat
  | .integer (.ofNat n) => .ok n
  | _ => .error (.wrongType "an integer that is not negative")

/-- Reads the items of an array, in order. -/
def itemsOf {α : Type} (decode : Value → Except Error α) : List Value → Except Error (List α)
  | [] => .ok []
  | item :: rest =>
    match decode item, itemsOf decode rest with
    | .ok first, .ok more => .ok (first :: more)
    | .error error, _ => .error error
    | _, .error error => .error error

/-- A value that must be an array of items of one kind. -/
def asList {α : Type} (decode : Value → Except Error α) : Value → Except Error (List α)
  | .array items => itemsOf decode items
  | _ => .error (.wrongType "an array")

end Value

end SealedBuild.Toml
