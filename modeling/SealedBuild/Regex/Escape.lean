import SealedBuild.Regex.Expr
import SealedBuild.Regex.Fault
import SealedBuild.Text.Blank

/-!
# Escapes

What a backslash and the characters after it stand for. In the mode in which blanks do not count,
they and comments may also stand inside of an escape.
-/

namespace SealedBuild.Regex

open Text Unicode

/-- The result of reading something off the front of a text. -/
abbrev Reading (α : Type) := Except Fault (α × List Char)

/-- Skips blanks and comments; the mark says that a comment has begun. -/
def skipFrom : Bool → List Char → List Char
  | _, [] => []
  | true, c :: rest => skipFrom (c != '\n') rest
  | false, c :: rest =>
    if isBlank c then skipFrom false rest
    else if c = '#' then skipFrom true rest
    else c :: rest

/-- Skips what does not count: nothing, or blanks and comments. -/
def skipIdle (spaced : Bool) (s : List Char) : List Char := if spaced then skipFrom false s else s

/-- Whether a character is a hexadecimal digit. -/
def isHexDigit (c : Char) : Bool :=
  decide ('0' ≤ c ∧ c ≤ '9') || decide ('a' ≤ c ∧ c ≤ 'f') || decide ('A' ≤ c ∧ c ≤ 'F')

/-- The character with a code point. -/
def charOf? (n : Nat) : Option Char := if n.isValidChar then some (Char.ofNat n) else none

/-- One item of an expression that is written with an escape, or as a single character. -/
inductive Primitive
  | literal (c : Char) (byte : Bool)
  | dot
  | assertion (kind : Assertion)
  | set (members : SetExpr)

/-- Reads a fixed number of hexadecimal digits. -/
def readHexDigits (spaced : Bool) : Nat → Nat → List Char → Reading Nat
  | 0, value, s => .ok (value, s)
  | _ + 1, _, [] => .error .escapeUnexpectedEnd
  | more + 1, value, c :: rest =>
    if isHexDigit c then
      readHexDigits spaced more (16 * value + hexDigit c) (skipIdle spaced rest)
    else .error .escapeHex

/-- Splits a text at the first closing brace that counts. -/
def splitBrace (spaced : Bool) : Bool → List Char → Option (List Char × List Char)
  | _, [] => none
  | true, c :: rest => splitBrace spaced (c != '\n') rest
  | false, c :: rest =>
    if spaced ∧ isBlank c then splitBrace spaced false rest
    else if spaced ∧ c = '#' then splitBrace spaced true rest
    else if c = '\x7d' then some ([], rest)
    else (splitBrace spaced false rest).map fun (name, rest) => (c :: name, rest)

/-- Turns a code point into a character of the expression. -/
def literalOf (byte : Bool) (spaced : Bool) : Reading Nat → Reading Primitive
  | .ok (value, rest) =>
    match charOf? value with
    | some c => .ok (.literal c byte, skipIdle spaced rest)
    | none => .error .escapeHex
  | .error fault => .error fault

/-- Reads a code point in braces, or the digits that the kind of escape asks for. -/
def readHex (spaced : Bool) (digits : Nat) (s : List Char) : Reading Primitive :=
  match skipIdle spaced s with
  | [] => .error .escapeUnexpectedEnd
  | '\x7b' :: rest =>
    match splitBrace spaced false rest with
    | none => .error .escapeUnexpectedEnd
    | some (name, rest) =>
      if name ≠ [] ∧ name.all isHexDigit then
        literalOf false spaced (.ok (hexValue name, rest))
      else .error .escapeHex
  | s => literalOf (digits == 2) spaced (readHexDigits spaced digits 0 s)

/-- Splits the text of a property at the first sign that separates a name from a value. -/
def splitProperty : List Char → Option (List Char × List Char)
  | [] => none
  | '!' :: '=' :: rest => some ([], rest)
  | c :: rest => (splitProperty rest).map fun (name, value) => (c :: name, value)

/-- The name of a property and its value, if one is given. -/
def propertyOf (negated : Bool) (text : List Char) : SetExpr :=
  match splitProperty text with
  | some (name, value) => .property negated name (some value)
  | none =>
    let isSign := if text.contains ':' then fun c => c == ':' else fun c => c == '='
    match text.dropWhile fun c => !isSign c with
    | [] => .property negated text none
    | _ :: value => .property negated (text.takeWhile fun c => !isSign c) (some value)

/-- Reads a class that is named by a property. -/
def readProperty (spaced negated : Bool) (s : List Char) : Reading Primitive :=
  match skipIdle spaced s with
  | [] => .error .escapeUnexpectedEnd
  | '\x7b' :: rest =>
    match splitBrace spaced false rest with
    | none => .error .escapeUnexpectedEnd
    | some (text, rest) => .ok (.set (propertyOf negated text), rest)
  | '\\' :: _ => .error .propertyUnknown
  | c :: rest => .ok (.set (.property negated [c] none), rest)

/-- Whether a character can be part of the name of a word boundary. -/
def isBoundaryChar (c : Char) : Bool :=
  decide ('a' ≤ c ∧ c ≤ 'z') || decide ('A' ≤ c ∧ c ≤ 'Z') || c == '-'

/-- The word boundary with a name. -/
def boundary? (name : String) : Option Assertion :=
  if name = "start" then some .wordStart
  else if name = "end" then some .wordEnd
  else if name = "start-half" then some .wordStartHalf
  else if name = "end-half" then some .wordEndHalf
  else none

/-- Reads the name of a word boundary in braces. A brace that no such name follows is left alone. -/
def readBoundary (spaced : Bool) (s : List Char) : Reading Primitive :=
  match s with
  | '\x7b' :: rest =>
    let inside := skipIdle spaced rest
    match inside with
    | [] => .error .wordBoundary
    | c :: _ =>
      if !isBoundaryChar c then .ok (.assertion .wordBoundary, s)
      else match splitBrace spaced false inside with
        | none => .error .wordBoundary
        | some (name, rest) =>
          match boundary? (String.ofList name) with
          | some kind => .ok (.assertion kind, rest)
          | none => .error .wordBoundary
  | _ => .ok (.assertion .wordBoundary, s)

/-- Whether a character may be escaped to stand for itself: every ASCII character that is no letter,
no digit and no angle bracket. -/
def isEscapable (c : Char) : Bool :=
  decide (c.toNat < 0x80) && !decide ('0' ≤ c ∧ c ≤ '9') && !decide ('a' ≤ c ∧ c ≤ 'z') &&
    !decide ('A' ≤ c ∧ c ≤ 'Z') && c != '<' && c != '>'

/-- The primitive that an escape of two characters stands for. -/
def shortEscape? (c : Char) : Option Primitive :=
  match c with
  | 'a' => some (.literal (Char.ofNat 7) false)
  | 'f' => some (.literal (Char.ofNat 12) false)
  | 't' => some (.literal '\t' false)
  | 'n' => some (.literal '\n' false)
  | 'r' => some (.literal '\r' false)
  | 'v' => some (.literal (Char.ofNat 11) false)
  | 'A' => some (.assertion .textStart)
  | 'z' => some (.assertion .textEnd)
  | 'B' => some (.assertion .noWordBoundary)
  | '<' => some (.assertion .wordStart)
  | '>' => some (.assertion .wordEnd)
  | 'd' => some (.set (.letter .digit false))
  | 'D' => some (.set (.letter .digit true))
  | 's' => some (.set (.letter .blank false))
  | 'S' => some (.set (.letter .blank true))
  | 'w' => some (.set (.letter .word false))
  | 'W' => some (.set (.letter .word true))
  | _ => if isEscapable c then some (.literal c false) else none

/-- Reads an escape, from after its backslash on. -/
def readEscape (spaced : Bool) (s : List Char) : Reading Primitive :=
  match s with
  | [] => .error .escapeUnexpectedEnd
  | 'x' :: rest => readHex spaced 2 rest
  | 'u' :: rest => readHex spaced 4 rest
  | 'U' :: rest => readHex spaced 8 rest
  | 'p' :: rest => readProperty spaced false rest
  | 'P' :: rest => readProperty spaced true rest
  | 'b' :: rest => readBoundary spaced rest
  | c :: rest =>
    if '0' ≤ c ∧ c ≤ '9' then .error .backreference
    else match shortEscape? c with
      | some primitive => .ok (primitive, rest)
      | none => .error .escapeUnknown

end SealedBuild.Regex
