import SealedBuild.Toml.Quotation
import SealedBuild.Toml.Table

/-!
# Statements

A document is a sequence of statements, one a line: headers of tables and keys with values. Reading
goes from the front of the text to the statements; what they mean together is decided afterwards.
Arrays may span lines and may end in a comma, inline tables may do neither.
-/

namespace SealedBuild.Toml

/-- The first depth of arrays and inline tables, and the first length of a dotted key, that is
refused. -/
def depthLimit : Nat := 80

/-- The name of a table in brackets; the mark says that it opens one more table of an array. -/
structure Header where
  repeated : Bool
  key : DottedKey
  deriving DecidableEq

/-- One line of a document. -/
inductive Statement
  | header (header : Header)
  | pair (key : DottedKey) (value : Value)

/-- Whether a character is a blank within a line. -/
def isSpace (c : Char) : Bool := c == ' ' || c == '\t'

/-- A text without the blanks at its front. -/
def skipSpace (s : List Char) : List Char := s.dropWhile isSpace

/-- Whether a character can be part of a key without quotes. -/
def isBareKeyChar (c : Char) : Bool :=
  isDecimal c || decide ('a' ≤ c ∧ c ≤ 'z') || decide ('A' ≤ c ∧ c ≤ 'Z') || c == '_' || c == '-'

/-- Reads one part of a key. -/
def readName (s : List Char) : Scan String :=
  match s with
  | '"' :: rest =>
    (readLineString .basic .plain rest).map fun (text, rest) => (String.ofList text, rest)
  | '\'' :: rest =>
    (readLineString .literal .plain rest).map fun (text, rest) => (String.ofList text, rest)
  | _ =>
    match s.takeWhile isBareKeyChar with
    | [] => .error (.malformed "key")
    | name => .ok (String.ofList name, s.dropWhile isBareKeyChar)

/-- Reads the parts of a dotted key, with the blanks around them. The first argument bounds their
number. -/
def readNames : Nat → List Char → Scan (List String)
  | 0, _ => .error .tooDeep
  | more + 1, s =>
    match readName (skipSpace s) with
    | .error error => .error error
    | .ok (name, rest) =>
      match skipSpace rest with
      | '.' :: rest => (readNames more rest).map fun (names, rest) => (name :: names, rest)
      | rest => .ok ([name], rest)

/-- Reads a dotted key. -/
def readKey (s : List Char) : Scan DottedKey :=
  match readNames (depthLimit - 1) s with
  | .error error => .error error
  | .ok (names, rest) =>
    match names.getLast? with
    | some name => .ok (⟨names.dropLast, name⟩, rest)
    | none => .error (.malformed "key")

/-- The text after one line end, if it starts with one. -/
def afterLineEnd? : List Char → Option (List Char)
  | '\n' :: rest => some rest
  | '\r' :: '\n' :: rest => some rest
  | _ => none

/-- The text after a comment, if it starts with one. -/
def skipComment (s : List Char) : List Char :=
  match s with
  | '#' :: rest => rest.dropWhile isPlainText
  | _ => s

/-- Checks that nothing but blanks and a comment follows on the line, and skips its end. -/
def endLine (s : List Char) : Except Error (List Char) :=
  match skipComment (skipSpace s) with
  | [] => .ok []
  | rest =>
    match afterLineEnd? rest with
    | some rest => .ok rest
    | none => .error (.malformed "line end")

/-- Skips blanks, comments and line ends, at most as many lines as the first argument says. -/
def skipLines : Nat → List Char → List Char
  | 0, s => s
  | more + 1, s =>
    match afterLineEnd? (skipComment (skipSpace s)) with
    | some rest => skipLines more rest
    | none => skipSpace s

/-- Skips everything that may stand between the items of an array. -/
def skipGap (s : List Char) : List Char := skipLines s.length s

/-- Reads the items of an array up to its closing bracket. The first argument bounds their
number. -/
def readItems (readItem : List Char → Scan Value) : Nat → List Char → Scan (List Value)
  | 0, _ => .error (.malformed "array")
  | more + 1, s =>
    match skipGap s with
    | ']' :: rest => .ok ([], rest)
    | s =>
      match readItem s with
      | .error error => .error error
      | .ok (item, rest) =>
        match skipGap rest with
        | ',' :: rest =>
          (readItems readItem more rest).map fun (items, rest) => (item :: items, rest)
        | ']' :: rest => .ok ([item], rest)
        | _ => .error (.malformed "array")

/-- Reads a key with its value. -/
def readPair (readItem : List Char → Scan Value) (s : List Char) : Scan (DottedKey × Value) :=
  match readKey s with
  | .error error => .error error
  | .ok (key, '=' :: rest) =>
    (readItem (skipSpace rest)).map fun (value, rest) => ((key, value), rest)
  | .ok _ => .error (.malformed "key")

/-- Reads the pairs of an inline table up to its closing brace. -/
def readPairs (readItem : List Char → Scan Value) : Nat → List Char →
    Scan (List (DottedKey × Value))
  | 0, _ => .error (.malformed "inline table")
  | more + 1, s =>
    match readPair readItem s with
    | .error error => .error error
    | .ok (pair, rest) =>
      match skipSpace rest with
      | ',' :: rest => (readPairs readItem more rest).map fun (pairs, rest) => (pair :: pairs, rest)
      | '\x7d' :: rest => .ok ([pair], rest)
      | _ => .error (.malformed "inline table")

/-- Reads an inline table, from after its opening brace on. -/
def readInlineTable (readItem : List Char → Scan Value) (s : List Char) : Scan Value :=
  match skipSpace s with
  | '\x7d' :: rest => .ok (.table [], rest)
  | _ =>
    match readPairs readItem s.length s with
    | .error error => .error error
    | .ok (pairs, rest) =>
      (Entries.addPairs [] pairs).map fun entries => (.table (finishEntries entries), rest)

/-- Reads a value whose nested values are read by `readItem`. -/
def readValueWith (readItem : Option (List Char → Scan Value)) (s : List Char) : Scan Value :=
  match s, readItem with
  | '[' :: _, none | '\x7b' :: _, none => .error .tooDeep
  | '[' :: rest, some readItem =>
    (readItems readItem s.length rest).map fun (items, rest) => (.array items, rest)
  | '\x7b' :: rest, some readItem => readInlineTable readItem rest
  | '"' :: rest, _ => (readQuoted .basic rest).map fun (text, rest) => (.string text, rest)
  | '\'' :: rest, _ => (readQuoted .literal rest).map fun (text, rest) => (.string text, rest)
  | _, _ => readScalar s

/-- Reads a value with at most the given depth of arrays and inline tables. -/
def readValue : Nat → List Char → Scan Value
  | 0 => readValueWith none
  | depth + 1 => readValueWith (some (readValue depth))

/-- Reads a header, from after its first bracket on. -/
def readHeader (s : List Char) : Scan Header :=
  match s with
  | '[' :: rest =>
    match readKey rest with
    | .ok (key, ']' :: ']' :: rest) => .ok (⟨true, key⟩, rest)
    | .ok _ => .error (.malformed "header")
    | .error error => .error error
  | _ =>
    match readKey s with
    | .ok (key, ']' :: rest) => .ok (⟨false, key⟩, rest)
    | .ok _ => .error (.malformed "header")
    | .error error => .error error

/-- Reads one statement. -/
def readStatement (s : List Char) : Scan Statement :=
  match s with
  | '[' :: rest => (readHeader rest).map fun (header, rest) => (.header header, rest)
  | _ =>
    (readPair (readValue (depthLimit - 1)) s).map fun (pair, rest) =>
      (.pair pair.1 pair.2, rest)

/-- Reads statements to the end of a text. The first argument bounds the number of lines. -/
def readStatements : Nat → List Char → Except Error (List Statement)
  | 0, _ => .ok []
  | more + 1, s =>
    match skipComment (skipSpace s) with
    | [] => .ok []
    | first :: after =>
      match afterLineEnd? (first :: after) with
      | some rest => readStatements more rest
      | none =>
        match readStatement (skipSpace s) with
        | .error error => .error error
        | .ok (statement, rest) =>
          match endLine rest with
          | .error error => .error error
          | .ok rest => (readStatements more rest).map fun others => statement :: others

end SealedBuild.Toml
