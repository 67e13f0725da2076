import SealedBuild.Toml.Value

/-!
# Tables under construction

Headers and dotted keys add to tables that may exist already. Whether they may do so depends on how
a table came to be: a table that a header opened is closed to dotted keys, a table that dotted keys
made is closed to headers, and a table that exists only as the parent of another may still be opened
by a header of its own.
-/

namespace SealedBuild.Toml

/-- How a table came to be. -/
inductive Origin
  /-- A header opened it. -/
  | header
  /-- It is the parent of a table with a header. -/
  | implied
  /-- Dotted keys made it. -/
  | dotted
  deriving DecidableEq

/-- What a key of a table under construction holds. -/
inductive Node
  | value (value : Value)
  | table (origin : Origin) (entries : List (String × Node))
  /-- An array of tables that headers opened, in order. -/
  | tables (elements : List (List (String × Node)))

/-- The keys of a table under construction. -/
abbrev Entries := List (String × Node)

/-- A key with the keys in front of its last dot. -/
structure DottedKey where
  parents : List String
  name : String
  deriving DecidableEq

namespace Entries

/-- What a key holds. -/
def find? : Entries → String → Option Node
  | [], _ => none
  | (key, node) :: rest, name => if key = name then some node else find? rest name

/-- The entries with a key set, at its place or at the end. -/
def set : Entries → String → Node → Entries
  | [], name, node => [(name, node)]
  | (key, old) :: rest, name, node =>
    if key = name then (name, node) :: rest else (key, old) :: set rest name node

/-- Changes the table that keys lead to, and makes the tables on the way that are missing. Of an
array of tables the last one counts. -/
def descend (made : Origin) (change : Origin → Entries → Except Error Entries) :
    List String → Origin → Entries → Except Error Entries
  | [], origin, entries => change origin entries
  | name :: path, _, entries =>
    match find? entries name with
    | none =>
      (descend made change path made []).map fun inner => set entries name (.table made inner)
    | some (.table origin inner) =>
      if made = .dotted ∧ origin = .header then .error (.duplicateKey name)
      else (descend made change path origin inner).map fun inner =>
        set entries name (.table origin inner)
    | some (.tables elements) =>
      (descend made change path .header (elements.getLast?.getD [])).map fun inner =>
        set entries name (.tables (elements.dropLast ++ [inner]))
    | some (.value _) => .error (.notATable name)

/-- Adds a new key with its value. -/
def insertNew (name : String) (value : Value) (entries : Entries) : Except Error Entries :=
  match find? entries name with
  | none => .ok (set entries name (.value value))
  | some _ => .error (.duplicateKey name)

/-- Adds a key, perhaps dotted, with its value. -/
def addPair (entries : Entries) (pair : DottedKey × Value) : Except Error Entries :=
  let key := pair.1
  descend .dotted (fun origin inner =>
      if key.parents ≠ [] ∧ origin ≠ .dotted then .error (.duplicateKey key.name)
      else insertNew key.name pair.2 inner)
    key.parents .header entries

/-- Adds keys with their values, in order. -/
def addPairs : Entries → List (DottedKey × Value) → Except Error Entries
  | entries, [] => .ok entries
  | entries, pair :: rest =>
    match addPair entries pair with
    | .ok more => addPairs more rest
    | .error error => .error error

end Entries

mutual

/-- The finished value of a node. -/
def Node.toValue : Node → Value
  | .value value => value
  | .table _ entries => .table (finishEntries entries)
  | .tables elements => .array (finishTables elements)

/-- The finished entries of a table. -/
def finishEntries : List (String × Node) → List (String × Value)
  | [] => []
  | (name, node) :: rest => (name, node.toValue) :: finishEntries rest

/-- The finished elements of an array of tables. -/
def finishTables : List (List (String × Node)) → List Value
  | [] => []
  | entries :: rest => .table (finishEntries entries) :: finishTables rest

end

end SealedBuild.Toml
