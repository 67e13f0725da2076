import SealedBuild.Regex.Fault
import SealedBuild.Regex.Expr
import SealedBuild.Regex.Node
import SealedBuild.Unicode.Property

/-!
# The meaning of expressions

Switches hold from where they stand to the end of their group, across branches. Without the Unicode
flag only ASCII characters may be told apart, since anything else would be a part of a character.
-/

namespace SealedBuild.Regex

open Unicode

/-- The flags in force at one place. -/
structure Flags where
  ignoreCase : Bool
  multiLine : Bool
  dotMatchesLineFeed : Bool
  unicode : Bool
  returnsEndLines : Bool

/-- The flags at the start of an expression. -/
def Flags.initial : Flags := ⟨false, false, false, true, false⟩

/-- The flags after one switch. The preference among matches has no bearing on whether there is
one. -/
def Flags.set (flags : Flags) (change : Flag × Bool) : Flags :=
  match change.1 with
  | .ignoreCase => { flags with ignoreCase := change.2 }
  | .multiLine => { flags with multiLine := change.2 }
  | .dotMatchesLineFeed => { flags with dotMatchesLineFeed := change.2 }
  | .unicode => { flags with unicode := change.2 }
  | .returnsEndLines => { flags with returnsEndLines := change.2 }
  | .swapGreed | .ignoreSpace => flags

/-- The flags after switches. -/
def Flags.setAll (flags : Flags) (switches : Switches) : Flags := switches.foldl Flags.set flags

/-- A set up to case, if case is to be ignored. -/
def foldSet (flags : Flags) (members : CharSet) : CharSet :=
  if flags.ignoreCase then
    if flags.unicode then .upToCase members else .upToPlainCase members
  else members

/-- A set or its complement, up to case if case is to be ignored. A complement needs all
characters. -/
def foldAndNegate (flags : Flags) (negated : Bool) (members : CharSet) : Except Fault CharSet :=
  if negated then
    if flags.unicode then .ok (.complement (foldSet flags members)) else .error .notUtf8
  else .ok (foldSet flags members)

/-- Checks that a character may be told apart from others. -/
def checkLiteral (flags : Flags) (c : Char) (byte : Bool) : Except Fault Unit :=
  if flags.unicode ∨ c.toNat < 0x80 then .ok ()
  else if byte then .error .notUtf8
  else .error .propertyNotAllowed

/-- The set of a class with a letter. -/
def letterSet (flags : Flags) (kind : LetterClass) : CharSet :=
  match kind, flags.unicode with
  | .digit, true => .digit
  | .blank, true => .blank
  | .word, true => .word
  | .digit, false => .between '0' '9'
  | .blank, false => .union (.between '\t' '\r') (.single ' ')
  | .word, false =>
    .unionOf [.between '0' '9', .between 'A' 'Z', .between 'a' 'z', .single '_']

/-- The set that an operation makes of two. -/
def combine (kind : SetOperation) (a b : CharSet) : CharSet :=
  match kind with
  | .intersection => .inter a b
  | .difference => .minus a b
  | .symmetricDifference => .symmetricDifference a b

mutual

/-- The set of a class. -/
def SetExpr.meaning (flags : Flags) : SetExpr → Except Fault CharSet
  | .literal c byte => (checkLiteral flags c byte).map fun _ => .single c
  | .range low lowByte high highByte =>
    match checkLiteral flags low lowByte, checkLiteral flags high highByte with
    | .ok _, .ok _ => .ok (.between low high)
    | .error fault, _ => .error fault
    | _, .error fault => .error fault
  | .letter kind negated =>
    let members := letterSet flags kind
    if negated then if flags.unicode then .ok (.complement members) else .error .notUtf8
    else .ok members
  | .property negated name value =>
    if !flags.unicode then .error .propertyNotAllowed
    else
      let found :=
        match value with
        | some value => valueSet? name value
        | none => propertySet? name
      match found with
      | some members => foldAndNegate flags negated members
      | none => .error .propertyUnknown
  | .named negated members => foldAndNegate flags negated members
  | .union items => (meaningOfSets flags items).map CharSet.unionOf
  | .bracket negated body =>
    match body.meaning flags with
    | .ok members => foldAndNegate flags negated members
    | .error fault => .error fault
  | .operation kind a b =>
    match a.meaning flags, b.meaning flags with
    | .ok a, .ok b => .ok (combine kind (foldSet flags a) (foldSet flags b))
    | .error fault, _ => .error fault
    | _, .error fault => .error fault

/-- The sets of classes. -/
def meaningOfSets (flags : Flags) : List SetExpr → Except Fault (List CharSet)
  | [] => .ok []
  | item :: rest =>
    match item.meaning flags, meaningOfSets flags rest with
    | .ok first, .ok more => .ok (first :: more)
    | .error fault, _ => .error fault
    | _, .error fault => .error fault

end

/-- The condition on a position. -/
def Assertion.meaning (flags : Flags) (kind : Assertion) : Look :=
  let plain := !flags.unicode
  match kind with
  | lineStart =>
    if !flags.multiLine then .textStart
    else if flags.returnsEndLines then .returnLineStart else .lineStart
  | lineEnd =>
    if !flags.multiLine then .textEnd
    else if flags.returnsEndLines then .returnLineEnd else .lineEnd
  | textStart => .textStart
  | textEnd => .textEnd
  | wordBoundary => .wordBoundary plain
  | noWordBoundary => .noWordBoundary plain
  | wordStart => .wordStart plain
  | wordEnd => .wordEnd plain
  | wordStartHalf => .wordStartHalf plain
  | wordEndHalf => .wordEndHalf plain

/-- The set of the dot. -/
def dotSet (flags : Flags) : CharSet :=
  if flags.dotMatchesLineFeed then .all
  else if flags.returnsEndLines then .complement (.union (.single '\r') (.single '\n'))
  else .complement (.single '\n')

/-- The node of a single character. Without the Unicode flag a character may be written as itself,
but not as a byte. -/
def literalNode (flags : Flags) (c : Char) (byte : Bool) : Except Fault Node :=
  if !flags.unicode ∧ byte ∧ 0x80 ≤ c.toNat then .error .notUtf8
  else .ok (.set (foldSet flags (.single c)))

/-- The node for nodes one after the other. -/
def Node.ofSequence : List Node → Node
  | [] => .empty
  | [item] => item
  | item :: rest => .sequence item (ofSequence rest)

/-- The node for a choice between nodes. -/
def Node.ofChoice : List Node → Node
  | [] => .empty
  | [branch] => branch
  | branch :: rest => .choice branch (ofChoice rest)

mutual

/-- The node of an expression, and the flags in force after it. -/
def Expr.meaning (flags : Flags) : Expr → Except Fault (Node × Flags)
  | .empty => .ok (.empty, flags)
  | .flags switches => .ok (.empty, flags.setAll switches)
  | .literal c byte => (literalNode flags c byte).map fun node => (node, flags)
  | .dot => if flags.unicode then .ok (.set (dotSet flags), flags) else .error .notUtf8
  | .assertion kind => .ok (.look (kind.meaning flags), flags)
  | .set members => (members.meaning flags).map fun members => (.set members, flags)
  | .counted item low high =>
    (item.meaning flags).map fun (node, after) => (.counted node low high, after)
  | .group switches body =>
    (body.meaning (flags.setAll switches)).map fun (node, _) => (node, flags)
  | .sequence items =>
    (meaningOfAll flags items).map fun (nodes, after) => (Node.ofSequence nodes, after)
  | .choice branches =>
    (meaningOfAll flags branches).map fun (nodes, after) => (Node.ofChoice nodes, after)

/-- The nodes of expressions, each under the flags that the ones before it leave in force. -/
def meaningOfAll (flags : Flags) : List Expr → Except Fault (List Node × Flags)
  | [] => .ok ([], flags)
  | item :: rest =>
    match item.meaning flags with
    | .error fault => .error fault
    | .ok (node, after) =>
      (meaningOfAll after rest).map fun (nodes, last) => (node :: nodes, last)

end

end SealedBuild.Regex
