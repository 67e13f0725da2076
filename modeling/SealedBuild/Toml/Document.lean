import SealedBuild.Toml.Statement

/-!
# Documents

The statements before the first header belong to the document itself, and those after a header to
the table that the header opens. A table may be opened once; its parents may be opened before or
after it.
-/

namespace SealedBuild.Toml

/-- A header with the pairs that follow it. -/
structure Section where
  header : Header
  pairs : List (DottedKey × Value)

/-- The pairs before the first header, and the sections. -/
def sections : List Statement → List (DottedKey × Value) × List Section
  | [] => ([], [])
  | .pair key value :: rest =>
    let (pairs, more) := sections rest
    ((key, value) :: pairs, more)
  | .header header :: rest =>
    let (pairs, more) := sections rest
    ([], ⟨header, pairs⟩ :: more)

namespace Entries

/-- Opens the table under a name and adds its pairs. -/
def openTable (name : String) (pairs : List (DottedKey × Value)) (entries : Entries) :
    Except Error Entries :=
  match find? entries name with
  | none => (addPairs [] pairs).map fun inner => set entries name (.table .header inner)
  | some (.table .implied inner) =>
    (addPairs inner pairs).map fun inner => set entries name (.table .header inner)
  | some _ => .error (.duplicateKey name)

/-- Opens one more table of the array under a name and adds its pairs. -/
def openElement (name : String) (pairs : List (DottedKey × Value)) (entries : Entries) :
    Except Error Entries :=
  match find? entries name with
  | none => (addPairs [] pairs).map fun inner => set entries name (.tables [inner])
  | some (.tables elements) =>
    (addPairs [] pairs).map fun inner => set entries name (.tables (elements ++ [inner]))
  | some _ => .error (.duplicateKey name)

/-- Adds a section to the table of the whole document. -/
def addSection (entries : Entries) (part : Section) : Except Error Entries :=
  let key := part.header.key
  descend .implied (fun _ inner =>
      if part.header.repeated then openElement key.name part.pairs inner
      else openTable key.name part.pairs inner)
    key.parents .header entries

/-- Adds sections, in order. -/
def addSections : Entries → List Section → Except Error Entries
  | entries, [] => .ok entries
  | entries, part :: rest =>
    match addSection entries part with
    | .ok more => addSections more rest
    | .error error => .error error

end Entries

/-- The value that statements make up together. -/
def assemble (statements : List Statement) : Except Error Value :=
  let (pairs, parts) := sections statements
  match Entries.addPairs [] pairs with
  | .error error => .error error
  | .ok entries =>
    (Entries.addSections entries parts).map fun entries => .table (finishEntries entries)

/-- A text without a byte order mark at its front. -/
def withoutMark (s : List Char) : List Char :=
  if s.head? = some '\ufeff' then s.drop 1 else s

/-- Reads a document. -/
def parse (text : String) : Except Error Value :=
  let s := withoutMark text.toList
  match readStatements (s.length + 1) s with
  | .error error => .error error
  | .ok statements => assemble statements

end SealedBuild.Toml
