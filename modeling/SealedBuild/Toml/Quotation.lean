import SealedBuild.Toml.Scalar

/-!
# Strings in quotes

A string stands between quotes of one of two kinds, on one line or between triple quotes over many.
Only the double quote knows escapes. Between triple quotes a line end right after the opening is
dropped, every line end reads as a line feed, and up to two quotes may stand directly before the
closing ones. A backslash at the end of a line swallows the blanks and line ends that follow it.
-/

namespace SealedBuild.Toml

open Unicode

/-- The kind of quotes around a string. -/
inductive Quotation
  /-- Double quotes, with escapes. -/
  | basic
  /-- Single quotes, without escapes. -/
  | literal
  deriving DecidableEq

/-- The quote itself. -/
def Quotation.mark : Quotation → Char
  | basic => '"'
  | literal => '\''

/-- Whether a character may stand in a string, a comment or a quoted key as it is. -/
def isPlainText (c : Char) : Bool :=
  c == '\t' || (decide (0x20 ≤ c.toNat) && c.toNat != 0x7f)

/-- What the next character of a string means. -/
inductive Reading
  | plain
  /-- A backslash came before. -/
  | escaped
  /-- Hexadecimal digits of a code point are being read: the number of digits after the next one,
  and the value so far. -/
  | codePoint (more value : Nat)
  /-- A line is being joined with the next one; the mark says whether its end has been seen. -/
  | joining (ended : Bool)

/-- What a scan over text gives: what it read, and the text after it. -/
abbrev Scan (α : Type) := Except Error (α × List Char)

/-- Puts a character in front of the text that was read. -/
def keep (c : Char) : Scan (List Char) → Scan (List Char)
  | .ok (text, rest) => .ok (c :: text, rest)
  | .error error => .error error

/-- The character that an escape of two characters stands for. -/
def shortEscape? : Char → Option Char
  | 'b' => some (Char.ofNat 8)
  | 't' => some '\t'
  | 'n' => some '\n'
  | 'f' => some (Char.ofNat 12)
  | 'r' => some '\r'
  | '"' => some '"'
  | '\\' => some '\\'
  | _ => none

/-- Whether a number is the code point of a character. -/
def isCodePoint (n : Nat) : Bool := decide (n < 0xd800 ∨ (0xdfff < n ∧ n < 0x110000))

/-- Continues after the character `c` that follows a backslash. -/
def afterBackslash (next : Reading → Scan (List Char)) (c : Char) : Scan (List Char) :=
  match shortEscape? c with
  | some d => keep d (next .plain)
  | none =>
    if c = 'u' then next (.codePoint 3 0)
    else if c = 'U' then next (.codePoint 7 0)
    else .error (.malformed "escape")

/-- Continues after the digit `c` of a code point. -/
def afterDigit (next : Reading → Scan (List Char)) (more value : Nat) (c : Char) :
    Scan (List Char) :=
  let value := 16 * value + hexDigit c
  if !isHexadecimal c then .error (.malformed "escape")
  else match more with
    | more + 1 => next (.codePoint more value)
    | 0 => if isCodePoint value then keep (Char.ofNat value) (next .plain)
      else .error (.malformed "escape")

/-- Reads a string on one line, from after the opening quote on. -/
def readLineString (kind : Quotation) : Reading → List Char → Scan (List Char)
  | _, [] => .error (.malformed "string")
  | .plain, c :: rest =>
    if c = kind.mark then .ok ([], rest)
    else if c = '\\' ∧ kind = .basic then readLineString kind .escaped rest
    else if isPlainText c then keep c (readLineString kind .plain rest)
    else .error (.malformed "string")
  | .escaped, c :: rest => afterBackslash (fun mode => readLineString kind mode rest) c
  | .codePoint more value, c :: rest =>
    afterDigit (fun mode => readLineString kind mode rest) more value c
  | .joining _, _ => .error (.malformed "string")

/-- The end of a string whose third closing quote has been read: quotes that belong to the string,
and the text after them. -/
def closing (mark : Char) : List Char → List Char × List Char
  | a :: b :: rest =>
    if a = mark then if b = mark then ([a, b], rest) else ([a], b :: rest) else ([], a :: b :: rest)
  | [a] => if a = mark then ([a], []) else ([], [a])
  | [] => ([], [])

/-- Continues after a character of a string over many lines that no escape is waiting for. -/
def afterPlain (kind : Quotation) (next : Reading → Scan (List Char)) (c : Char)
    (rest : List Char) : Scan (List Char) :=
  if c = kind.mark ∧ rest.take 2 = [c, c] then .ok (closing c (rest.drop 2))
  else if c = '\\' ∧ kind = .basic then next .escaped
  else if c = '\r' then
    if rest.head? = some '\n' then next .plain else .error (.malformed "string")
  else if c = '\n' ∨ isPlainText c then keep c (next .plain)
  else .error (.malformed "string")

/-- Whether a character can stand between a backslash and the text of a later line. -/
def isGap (c : Char) (rest : List Char) : Bool :=
  c == ' ' || c == '\t' || c == '\n' || (c == '\r' && rest.head? == some '\n')

/-- Reads a string over many lines. -/
def readTextBlock (kind : Quotation) : Reading → List Char → Scan (List Char)
  | _, [] => .error (.malformed "string")
  | .plain, c :: rest => afterPlain kind (fun mode => readTextBlock kind mode rest) c rest
  | .escaped, c :: rest =>
    if isGap c rest then readTextBlock kind (.joining (c == '\n')) rest
    else afterBackslash (fun mode => readTextBlock kind mode rest) c
  | .codePoint more value, c :: rest =>
    afterDigit (fun mode => readTextBlock kind mode rest) more value c
  | .joining ended, c :: rest =>
    if isGap c rest then readTextBlock kind (.joining (ended || c == '\n')) rest
    else if ended then afterPlain kind (fun mode => readTextBlock kind mode rest) c rest
    else .error (.malformed "escape")

/-- Removes one line end from the front of a text. -/
def dropLineEnd : List Char → List Char
  | '\n' :: rest => rest
  | '\r' :: '\n' :: rest => rest
  | s => s

/-- Reads a string of a kind, from after its first quote on. -/
def readQuoted (kind : Quotation) (s : List Char) : Scan String :=
  let text :=
    if s.take 2 = [kind.mark, kind.mark] then readTextBlock kind .plain (dropLineEnd (s.drop 2))
    else readLineString kind .plain s
  text.map fun (text, rest) => (String.ofList text, rest)

end SealedBuild.Toml
