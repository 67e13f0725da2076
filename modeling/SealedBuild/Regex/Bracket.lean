import SealedBuild.Regex.Escape

/-!
# Classes in brackets

A class holds characters, ranges, escapes, classes of ASCII characters by name, and further classes.
Three doubled signs join what stands to their left with what stands to their right, from left to
right. A closing bracket right at the start, and dashes there, stand for themselves.
-/

namespace SealedBuild.Regex

open Unicode

/-- The classes of ASCII characters by name. -/
def asciiClasses : List (String × CharSet) :=
  let lower := CharSet.between 'a' 'z'
  let upper := CharSet.between 'A' 'Z'
  let decimal := CharSet.between '0' '9'
  [("alnum", .unionOf [decimal, upper, lower]),
    ("alpha", .union upper lower),
    ("ascii", .between (Char.ofNat 0) (Char.ofNat 0x7f)),
    ("blank", .union (.single '\t') (.single ' ')),
    ("cntrl", .union (.between (Char.ofNat 0) (Char.ofNat 0x1f)) (.single (Char.ofNat 0x7f))),
    ("digit", decimal),
    ("graph", .between '!' '~'),
    ("lower", lower),
    ("print", .between ' ' '~'),
    ("punct", .unionOf [.between '!' '/', .between ':' '@', .between '[' (Char.ofNat 0x60),
      .between '\x7b' '~']),
    ("space", .union (.between '\t' '\r') (.single ' ')),
    ("upper", upper),
    ("word", .unionOf [decimal, upper, lower, .single '_']),
    ("xdigit", .unionOf [decimal, .between 'A' 'F', .between 'a' 'f'])]

/-- The class of ASCII characters with a name. -/
def asciiClass? (name : String) : Option CharSet :=
  (asciiClasses.find? (·.1 == name)).map (·.2)

/-- Reads a class of ASCII characters between colons, from after its bracket on, if there is one. -/
def readAsciiClass? (s : List Char) : Option (SetExpr × List Char) :=
  match s with
  | ':' :: rest =>
    let negated := rest.head? == some '^'
    let body := if negated then rest.drop 1 else rest
    match asciiClass? (String.ofList (body.takeWhile (· != ':'))),
        body.dropWhile (· != ':') with
    | some members, ':' :: ']' :: rest => some (.named negated members, rest)
    | _, _ => none
  | _ => none

/-- Reads one character or escape inside of brackets. -/
def readSetPrimitive (spaced : Bool) (s : List Char) : Reading Primitive :=
  match s with
  | [] => .error .classUnclosed
  | '\\' :: rest => readEscape spaced rest
  | c :: rest => .ok (.literal c false, rest)

/-- The class that a primitive is, if it may stand inside of brackets. -/
def Primitive.toSet? : Primitive → Option SetExpr
  | .literal c byte => some (.literal c byte)
  | .set members => some members
  | .dot | .assertion _ => none

/-- The range between two primitives. -/
def rangeOf? : Primitive → Primitive → Option SetExpr
  | .literal low lowByte, .literal high highByte =>
    if low ≤ high then some (.range low lowByte high highByte) else none
  | _, _ => none

/-- Reads one member of a class: a primitive, or a range between two of them. A dash before a
bracket or before another dash makes no range. -/
def readMember (spaced : Bool) (s : List Char) : Reading SetExpr :=
  match readSetPrimitive spaced s with
  | .error fault => .error fault
  | .ok (first, rest) =>
    let alone : Reading SetExpr :=
      match first.toSet? with
      | some members => .ok (members, skipIdle spaced rest)
      | none => .error .classEscape
    match skipIdle spaced rest with
    | [] => .error .classUnclosed
    | '-' :: rest =>
      let after := skipIdle spaced rest
      match after with
      | ']' :: _ | '-' :: _ => alone
      | _ =>
        match readSetPrimitive spaced after with
        | .error fault => .error fault
        | .ok (last, rest) =>
          match rangeOf? first last with
          | some members => .ok (members, rest)
          | none => .error .classRange
    | _ => alone

/-- The class for members side by side, given last first. -/
def unionOf (members : List SetExpr) : SetExpr :=
  match members with
  | [item] => item
  | _ => .union members.reverse

/-- An operation that waits for the class to its right. -/
abbrev Pending := Option (SetOperation × SetExpr)

/-- Applies a waiting operation. -/
def Pending.apply (pending : Pending) (right : SetExpr) : SetExpr :=
  match pending with
  | some (kind, left) => .operation kind left right
  | none => right

/-- The operation that a text starts with, and the text after it. -/
def operation? (s : List Char) : Option (SetOperation × List Char) :=
  match s with
  | '&' :: '&' :: rest => some (.intersection, rest)
  | '-' :: '-' :: rest => some (.difference, rest)
  | '~' :: '~' :: rest => some (.symmetricDifference, rest)
  | _ => none

/-- Reads members up to the closing bracket. The first number bounds how many there are; members
read before come last first. -/
def readMembers (spaced : Bool) (readNested : List Char → Reading SetExpr) :
    Nat → Pending → List SetExpr → List Char → Reading SetExpr
  | 0, _, _, _ => .error .classUnclosed
  | more + 1, pending, before, s =>
    let s := skipIdle spaced s
    match operation? s with
    | some (kind, rest) =>
      readMembers spaced readNested more (some (kind, pending.apply (unionOf before))) [] rest
    | none =>
      match s with
      | [] => .error .classUnclosed
      | ']' :: rest => .ok (pending.apply (unionOf before), rest)
      | '[' :: rest =>
        match readAsciiClass? rest with
        | some (members, rest) =>
          readMembers spaced readNested more pending (members :: before) rest
        | none =>
          match readNested rest with
          | .error fault => .error fault
          | .ok (members, rest) =>
            readMembers spaced readNested more pending (members :: before) rest
      | _ =>
        match readMember spaced s with
        | .error fault => .error fault
        | .ok (members, rest) => readMembers spaced readNested more pending (members :: before) rest

/-- Splits off the dashes at the start of a class. -/
def leadingDashes (spaced : Bool) : Nat → List Char → List SetExpr × List Char
  | more + 1, '-' :: rest =>
    let (dashes, rest) := leadingDashes spaced more (skipIdle spaced rest)
    (.literal '-' false :: dashes, rest)
  | _, s => ([], s)

/-- Reads a class from after its opening bracket on; the first number bounds its depth. -/
def readBracket (spaced : Bool) : Nat → List Char → Reading SetExpr
  | 0, _ => .error .nestedTooDeeply
  | depth + 1, s =>
    let s := skipIdle spaced s
    let negated := s.head? == some '^'
    let s := if negated then skipIdle spaced (s.drop 1) else s
    let (dashes, s) := leadingDashes spaced s.length s
    let (first, s) :=
      match dashes, s with
      | [], ']' :: rest => ([SetExpr.literal ']' false], rest)
      | _, _ => (dashes, s)
    match readMembers spaced (readBracket spaced depth) (s.length + 1) none first s with
    | .error fault => .error fault
    | .ok (body, rest) => .ok (.bracket negated body, rest)

end SealedBuild.Regex
