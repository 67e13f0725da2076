import SealedBuild.Text.Quoted

/-!
# JSON documents

A document without fractions: numbers are integers, and an object keeps its members in order.
The written form puts every member and item on a line of its own, indented by two blanks per level;
an empty array or object stays on its line. Inside strings only quotes, backslashes and control
characters are escaped.
-/

namespace SealedBuild

/-- A JSON document. -/
inductive Json
  | null
  | bool (value : Bool)
  | number (value : Int)
  | string (value : String)
  | array (items : List Json)
  | object (members : List (String × Json))
  deriving Inhabited

namespace Json

/-- The value of an object's member. -/
def member? (members : List (String × Json)) (name : String) : Option Json :=
  (members.find? (·.1 == name)).map (·.2)

/-- The string that a document is, if it is one. -/
def string? : Json → Option String
  | string s => some s
  | _ => none

/-- The array of strings that a document is, if it is one. -/
def strings? : Json → Option (List String)
  | array items => items.mapM string?
  | _ => none

/-- An array of strings. -/
def ofStrings (items : List String) : Json := array (items.map string)

/-- One character inside a JSON string. -/
def escapedChar (c : Char) : List Char :=
  if c = '"' then ['\\', '"']
  else if c = '\\' then ['\\', '\\']
  else if c = '\n' then ['\\', 'n']
  else if c = '\r' then ['\\', 'r']
  else if c = '\t' then ['\\', 't']
  else if c = Char.ofNat 8 then ['\\', 'b']
  else if c = Char.ofNat 12 then ['\\', 'f']
  else if c.toNat < 0x20 then
    let digits := Text.hexDigits c.toNat
    ['\\', 'u'] ++ List.replicate (4 - digits.length) '0' ++ digits
  else [c]

/-- A JSON string with its quotes. -/
def quote (s : String) : String := String.ofList ('"' :: s.toList.flatMap escapedChar ++ ['"'])

/-- The blanks in front of a line at a level. -/
def indent (level : Nat) : String := String.ofList (List.replicate (2 * level) ' ')

mutual

/-- The written form of a document that starts at a level. -/
def renderAt (level : Nat) : Json → String
  | null => "null"
  | bool value => if value then "true" else "false"
  | number value => toString value
  | string value => quote value
  | array [] => "[]"
  | array (item :: rest) =>
    "[\n" ++ renderItems (level + 1) (item :: rest) ++ "\n" ++ indent level ++ "]"
  | object [] => "\x7b\x7d"
  | object (member :: rest) =>
    "\x7b\n" ++ renderMembers (level + 1) (member :: rest) ++ "\n" ++ indent level ++ "\x7d"

/-- The items of an array, one a line. -/
def renderItems (level : Nat) : List Json → String
  | [] => ""
  | [item] => indent level ++ renderAt level item
  | item :: next :: rest =>
    indent level ++ renderAt level item ++ ",\n" ++ renderItems level (next :: rest)

/-- The members of an object, one a line. -/
def renderMembers (level : Nat) : List (String × Json) → String
  | [] => ""
  | [(name, value)] => indent level ++ quote name ++ ": " ++ renderAt level value
  | (name, value) :: next :: rest =>
    indent level ++ quote name ++ ": " ++ renderAt level value ++ ",\n" ++
      renderMembers level (next :: rest)

end

/-- The written form of a document. -/
def render (document : Json) : String := renderAt 0 document

end Json

end SealedBuild
