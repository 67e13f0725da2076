import SealedBuild.Regex.Bracket

/-!
# Reading expressions

A regular expression is a choice of branches, and each branch a sequence of items. Groups nest, and
the number of enclosing parts is limited. Whether blanks count is decided while reading, since a
switch changes it for the rest of the group.
-/

namespace SealedBuild.Regex

open Text Unicode

/-- Where reading has come to: whether blanks are skipped, the names of groups so far, and the text
that is left. -/
structure Cursor where
  spaced : Bool
  names : List (List Char)
  rest : List Char

/-- What reading gives, and where it has come to. -/
abbrev Progress (α : Type) := Except Fault (α × Cursor)

/-- The flag with a letter. -/
def flag? : Char → Option Flag
  | 'i' => some .ignoreCase
  | 'm' => some .multiLine
  | 's' => some .dotMatchesLineFeed
  | 'U' => some .swapGreed
  | 'u' => some .unicode
  | 'R' => some .returnsEndLines
  | 'x' => some .ignoreSpace
  | _ => none

/-- Reads flags up to a colon or a closing parenthesis, which is left in place. `negated` says that
a dash came before, and `dangling` that no flag has followed it yet. -/
def readFlags : Bool → Bool → Switches → List Char → Reading Switches
  | _, _, _, [] => .error .flagUnexpectedEnd
  | negated, dangling, switches, c :: rest =>
    if c = ':' ∨ c = ')' then
      if dangling then .error .flagDanglingNegation else .ok (switches.reverse, c :: rest)
    else if c = '-' then
      if negated then .error .flagRepeatedNegation else readFlags true true switches rest
    else match flag? c with
      | none => .error .flagUnknown
      | some flag =>
        if (switches.find? flag).isSome then .error .flagDuplicate
        else readFlags negated false ((flag, !negated) :: switches) rest

/-- Whether a character has the property Alphabetic. -/
def isAlphabetic (c : Char) : Bool := Property.alphabetic.contains c

/-- Whether a character can be the first one of a group's name. -/
def isNameStart (c : Char) : Bool := c == '_' || isAlphabetic c

/-- Whether a character can be a later one of a group's name. -/
def isNameChar (c : Char) : Bool :=
  c == '_' || c == '.' || c == '[' || c == ']' || isAlphabetic c ||
    ["Nd", "Nl", "No"].contains (category c)

/-- Whether a text is the name of a group. -/
def isGroupName : List Char → Bool
  | [] => false
  | c :: rest => isNameStart c && rest.all isNameChar

/-- Reads the name of a group up to the angle bracket that closes it. -/
def readGroupName (names : List (List Char)) (s : List Char) : Reading (List Char) :=
  let name := s.takeWhile (· != '>')
  match s.dropWhile (· != '>') with
  | [] => .error .groupName
  | _ :: rest =>
    if !isGroupName name then .error .groupName
    else if names.contains name then .error .groupNameDuplicate
    else .ok (name, rest)

/-- The number that digits stand for, if it has 32 bits. -/
def decimal? (digits : List Char) : Option Nat :=
  let value := digits.foldl (fun value c => 10 * value + hexDigit c) 0
  if digits ≠ [] ∧ value < UInt32.size then some value else none

/-- Reads digits, between which blanks may stand if they do not count. -/
def readDigits (spaced : Bool) : Nat → List Char → List Char × List Char
  | more + 1, c :: rest =>
    if '0' ≤ c ∧ c ≤ '9' then
      let (digits, rest) := readDigits spaced more (skipIdle spaced rest)
      (c :: digits, rest)
    else ([], c :: rest)
  | _, s => ([], s)

/-- Reads a number with the blanks around it. -/
def readCount (spaced : Bool) (s : List Char) : Reading Nat :=
  let (digits, rest) := readDigits spaced s.length (s.dropWhile isBlank)
  match decimal? digits with
  | some n => .ok (n, skipIdle spaced (rest.dropWhile isBlank))
  | none => .error .repetitionCount

/-- Reads the bounds of a counted repetition, from after its opening brace to before its closing
one. -/
def readBounds (spaced : Bool) (s : List Char) : Reading (Nat × Option Nat) :=
  match readCount spaced (skipIdle spaced s) with
  | .error fault => .error fault
  | .ok (low, ',' :: rest) =>
    match skipIdle spaced rest with
    | [] => .error .repetitionCountUnclosed
    | '\x7d' :: rest => .ok ((low, none), '\x7d' :: rest)
    | rest => (readCount spaced rest).map fun (high, rest) => ((low, some high), rest)
  | .ok (low, rest) => .ok ((low, some low), rest)

/-- Reads a counted repetition, from after its opening brace to its end. -/
def readCounted (spaced : Bool) (s : List Char) : Reading (Nat × Option Nat) :=
  match readBounds spaced s with
  | .error fault => .error fault
  | .ok ((low, high), '\x7d' :: rest) =>
    if high.any fun n => decide (n < low) then .error .repetitionCountInvalid
    else match skipIdle spaced rest with
      | '?' :: rest => .ok ((low, high), rest)
      | rest => .ok ((low, high), rest)
  | .ok _ => .error .repetitionCountUnclosed

/-- The bounds that a sign of repetition stands for. -/
def repetition? : Char → Option (Nat × Option Nat)
  | '?' => some (0, some 1)
  | '*' => some (0, none)
  | '+' => some (1, none)
  | _ => none

/-- Repeats the last item; items come last first. -/
def repeatLast (bounds : Nat × Option Nat) : List Expr → Except Fault (List Expr)
  | [] | .flags _ :: _ => .error .repetitionMissing
  | item :: before => .ok (.counted item bounds.1 bounds.2 :: before)

/-- The expression that a primitive is. -/
def Primitive.toExpr : Primitive → Expr
  | .literal c byte => .literal c byte
  | .dot => .dot
  | .assertion kind => .assertion kind
  | .set members => .set members

/-- Reads a primitive. -/
def readPrimitive (spaced : Bool) (s : List Char) : Reading Primitive :=
  match s with
  | [] => .error .escapeUnexpectedEnd
  | '\\' :: rest => readEscape spaced rest
  | '.' :: rest => .ok (.dot, rest)
  | '^' :: rest => .ok (.assertion .lineStart, rest)
  | '$' :: rest => .ok (.assertion .lineEnd, rest)
  | c :: rest => .ok (.literal c false, rest)

/-- The branches and the items of the last branch that have been read, last first. -/
structure Partial where
  branches : List Expr
  items : List Expr

/-- Nothing read yet. -/
def Partial.none : Partial := ⟨[], []⟩

/-- The partial expression with one item more. -/
def Partial.push (before : Partial) (item : Expr) : Partial :=
  { before with items := item :: before.items }

/-- The partial expression with its last branch ended. -/
def Partial.endBranch (before : Partial) : Partial :=
  ⟨.ofItems before.items.reverse :: before.branches, []⟩

/-- The whole expression. -/
def Partial.finish (before : Partial) : Expr := .ofBranches before.endBranch.branches.reverse

/-- Reads items up to the end of the text or to a closing parenthesis, which is left in place. The
number bounds how many items there are. -/
def readItems (readGroup : Cursor → Progress Expr) : Nat → Partial → Cursor → Progress Expr
  | 0, _, _ => .error .nestedTooDeeply
  | more + 1, before, cursor =>
    let spaced := cursor.spaced
    match skipIdle spaced cursor.rest with
    | [] => .ok (before.finish, { cursor with rest := [] })
    | c :: rest =>
      if c = ')' then .ok (before.finish, { cursor with rest := c :: rest })
      else if c = '|' then readItems readGroup more before.endBranch { cursor with rest }
      else if c = '(' then
        match readGroup { cursor with rest } with
        | .error fault => .error fault
        | .ok (item, cursor) => readItems readGroup more (before.push item) cursor
      else
        let next : Reading Partial :=
          if c = '[' then
            (readBracket spaced (rest.length + 1) rest).map fun (members, rest) =>
              (before.push (.set members), rest)
          else if c = '\x7b' then
            match readCounted spaced rest with
            | .error fault => .error fault
            | .ok (bounds, rest) =>
              (repeatLast bounds before.items).map fun items => ({ before with items }, rest)
          else match repetition? c with
            | some bounds =>
              (repeatLast bounds before.items).map fun items =>
                ({ before with items }, if rest.head? = some '?' then rest.drop 1 else rest)
            | none =>
              (readPrimitive spaced (c :: rest)).map fun (primitive, rest) =>
                (before.push primitive.toExpr, rest)
        match next with
        | .error fault => .error fault
        | .ok (after, rest) => readItems readGroup more after { cursor with rest }

/-- Whether a text begins with a look-around. -/
def isLookAround (s : List Char) : Bool :=
  ["?=", "?!", "?<=", "?<!"].any fun mark => mark.toList.isPrefixOf s

/-- Reads the body of a group and its closing parenthesis. Blanks count afterwards as they did
before the group. -/
def readGroupBody (readBody : Cursor → Progress Expr) (spaced : Bool) (switches : Switches)
    (cursor : Cursor) : Progress Expr :=
  match readBody cursor with
  | .error fault => .error fault
  | .ok (body, after) =>
    match after.rest with
    | [] => .error .groupUnclosed
    | _ :: rest => .ok (.group switches body, { after with spaced, rest })

/-- Reads a group, or switches in parentheses, from after the opening parenthesis on. -/
def readGroup (readBody : Cursor → Progress Expr) (cursor : Cursor) : Progress Expr :=
  let spaced := cursor.spaced
  let s := skipIdle spaced cursor.rest
  let named := fun s =>
    match readGroupName cursor.names s with
    | .error fault => .error fault
    | .ok (name, rest) =>
      readGroupBody readBody spaced [] { spaced, names := name :: cursor.names, rest }
  if isLookAround s then .error .lookAround
  else match s with
    | '?' :: 'P' :: '<' :: rest => named rest
    | '?' :: '<' :: rest => named rest
    | '?' :: rest =>
      if rest = [] then .error .groupUnclosed
      else match readFlags false false [] rest with
        | .error fault => .error fault
        | .ok (switches, after) =>
          let within := (switches.find? .ignoreSpace).getD spaced
          match after with
          | ')' :: rest =>
            if switches = [] then .error .repetitionMissing
            else .ok (.flags switches, { cursor with spaced := within, rest })
          | _ =>
            readGroupBody readBody spaced switches
              { cursor with spaced := within, rest := after.drop 1 }
    | _ => readGroupBody readBody spaced [] { cursor with rest := s }

/-- Reads a choice of branches in which groups nest at most as deep as the number says. -/
def readChoice : Nat → Cursor → Progress Expr
  | 0, _ => .error .nestedTooDeeply
  | depth + 1, cursor =>
    readItems (readGroup (readChoice depth)) (cursor.rest.length + 1) .none cursor

/-- The greatest depth of an expression. -/
def maxDepth : Nat := 250

/-- Reads a regular expression. -/
def parse (pattern : List Char) : Except Fault Expr :=
  match readChoice (pattern.length + 1) ⟨false, [], pattern⟩ with
  | .error fault => .error fault
  | .ok (expr, cursor) =>
    if cursor.rest ≠ [] then .error .groupUnopened
    else if maxDepth < expr.depth then .error .nestedTooDeeply
    else .ok expr

end SealedBuild.Regex
