import SealedBuild.Text.Pieces
import SealedBuild.Toml.Value
import SealedBuild.Unicode.Table

/-!
# Numbers, dates and words

A number, a date or a keyword is one run of letters, digits and the signs `+ - . _ :`, read as a
whole. Underscores may stand between two digits. Integers have 64 bits; a fraction must not round to
positive infinity; dates must exist.
-/

namespace SealedBuild.Toml

open Text Unicode

/-- Whether a character is an ASCII decimal digit. -/
def isDecimal (c : Char) : Bool := decide ('0' ≤ c ∧ c ≤ '9')

/-- Whether a character is an ASCII hexadecimal digit. -/
def isHexadecimal (c : Char) : Bool :=
  isDecimal c || decide ('a' ≤ c ∧ c ≤ 'f') || decide ('A' ≤ c ∧ c ≤ 'F')

/-- Whether a character can be part of a scalar. -/
def isScalarChar (c : Char) : Bool :=
  isDecimal c || decide ('a' ≤ c ∧ c ≤ 'z') || decide ('A' ≤ c ∧ c ≤ 'Z') ||
    c == '+' || c == '-' || c == '.' || c == '_' || c == ':'

/-- The digits of a numeral in which each underscore stands between two digits. -/
def plainDigits? (isDigit : Char → Bool) (s : List Char) : Option (List Char) :=
  let groups := cutAt '_' s
  if groups.all fun group => group ≠ [] && group.all isDigit then some groups.flatten else none

/-- The value of digits in a base. -/
def valueIn (base : Nat) (digits : List Char) : Nat :=
  digits.foldl (fun value c => base * value + hexDigit c) 0

/-- Splits a sign off; the mark is true for a minus. -/
def splitSign : List Char → Bool × List Char
  | '+' :: rest => (false, rest)
  | '-' :: rest => (true, rest)
  | s => (false, s)

/-- The decimal digits of a numeral without leading zeros. -/
def wholeDigits? (s : List Char) : Option (List Char) :=
  if s = ['0'] then some s
  else if s.head? = some '0' then none
  else plainDigits? isDecimal s

/-- A number within 64 bits. -/
def bounded? (n : Int) : Option Value :=
  if Int64.minValue.toInt ≤ n ∧ n ≤ Int64.maxValue.toInt then some (.integer n) else none

/-- The integer that a word stands for. Other bases have a prefix and no sign. -/
def integer? (word : List Char) : Option Value :=
  match word with
  | '0' :: 'x' :: rest =>
    (plainDigits? isHexadecimal rest).bind fun digits => bounded? (valueIn 16 digits)
  | '0' :: 'o' :: rest =>
    (plainDigits? (fun c => decide ('0' ≤ c ∧ c ≤ '7')) rest).bind fun digits =>
      bounded? (valueIn 8 digits)
  | '0' :: 'b' :: rest =>
    (plainDigits? (fun c => c == '0' || c == '1') rest).bind fun digits =>
      bounded? (valueIn 2 digits)
  | _ =>
    let (negative, rest) := splitSign word
    (wholeDigits? rest).bind fun digits =>
      let n : Int := valueIn 10 digits
      bounded? (if negative then -n else n)

/-- Whether `digits · 10 ^ exponent` rounds to infinity as a binary number of 64 bits: it reaches
the midpoint above the greatest finite number. -/
def roundsToInfinity (digits : List Char) (exponent : Int) : Bool :=
  let digits := digits.dropWhile (· == '0')
  let magnitude : Int := digits.length + exponent
  if digits = [] ∨ magnitude < 300 then false
  else if 320 < magnitude then true
  else
    let midpoint := Nat.pow 2 1024 - Nat.pow 2 970
    let n := valueIn 10 digits
    if 0 ≤ exponent then decide (midpoint ≤ n * Nat.pow 10 exponent.toNat)
    else decide (midpoint * Nat.pow 10 (-exponent).toNat ≤ n)

/-- Splits at the first exponent mark, if there is one. -/
def splitExponent (s : List Char) : List Char × Option (List Char) :=
  let isMark := fun c => c == 'e' || c == 'E'
  match s.dropWhile fun c => !isMark c with
  | [] => (s, none)
  | _ :: rest => (s.takeWhile fun c => !isMark c, some rest)

/-- Whether a word is a number with a fraction or an exponent. -/
def isFloat (word : List Char) : Bool :=
  let (negative, unsigned) := splitSign word
  if unsigned = "inf".toList ∨ unsigned = "nan".toList then true
  else
    let (mantissa, exponentText) := splitExponent unsigned
    let exponent : Option Int :=
      match exponentText with
      | none => some 0
      | some text =>
        let (down, digits) := splitSign text
        (plainDigits? isDecimal digits).map fun digits =>
          let n : Int := valueIn 10 digits
          if down then -n else n
    match cutAt '.' mantissa, exponent with
    | [whole], some exponent =>
      match wholeDigits? whole with
      | some digits => exponentText.isSome && (negative || !roundsToInfinity digits exponent)
      | none => false
    | [whole, fraction], some exponent =>
      match wholeDigits? whole, plainDigits? isDecimal fraction with
      | some digits, some more =>
        negative || !roundsToInfinity (digits ++ more) (exponent - more.length)
      | _, _ => false
    | _, _ => false

/-- The number that a fixed count of digits stands for. -/
def fixedDigits? (count : Nat) (s : List Char) : Option Nat :=
  if s.length = count ∧ s.all isDecimal then some (valueIn 10 s) else none

/-- The number of days of a month. -/
def daysIn (year month : Nat) : Nat :=
  if month = 2 then
    if year % 4 = 0 ∧ (year % 100 ≠ 0 ∨ year % 400 = 0) then 29 else 28
  else if month = 4 ∨ month = 6 ∨ month = 9 ∨ month = 11 then 30
  else 31

/-- Whether a word is a day of the calendar. -/
def isDate (word : List Char) : Bool :=
  match cutAt '-' word with
  | [year, month, day] =>
    match fixedDigits? 4 year, fixedDigits? 2 month, fixedDigits? 2 day with
    | some year, some month, some day =>
      decide (1 ≤ month ∧ month ≤ 12 ∧ 1 ≤ day ∧ day ≤ daysIn year month)
    | _, _, _ => false
  | _ => false

/-- Whether a text is two digits of at most the given value. -/
def isUpTo (most : Nat) (s : List Char) : Bool :=
  match fixedDigits? 2 s with
  | some n => decide (n ≤ most)
  | none => false

/-- Whether a text is a second, perhaps with decimals. -/
def isSecond (s : List Char) : Bool :=
  match cutAt '.' s with
  | [whole] => isUpTo 60 whole
  | [whole, fraction] => isUpTo 60 whole && fraction ≠ [] && fraction.all isDecimal
  | _ => false

/-- Whether a word is a time of day. -/
def isTime (word : List Char) : Bool :=
  match cutAt ':' word with
  | [hour, minute, second] => isUpTo 23 hour && isUpTo 59 minute && isSecond second
  | _ => false

/-- Whether a word is a difference from universal time. -/
def isOffset (word : List Char) : Bool :=
  match word with
  | ['Z'] | ['z'] => true
  | sign :: rest =>
    (sign == '+' || sign == '-') &&
      match cutAt ':' rest with
      | [hour, minute] => isUpTo 23 hour && isUpTo 59 minute
      | _ => false
  | [] => false

/-- Whether a word is a time of day, perhaps with an offset. -/
def isZonedTime (word : List Char) : Bool :=
  let inTime := fun c => isDecimal c || c == ':' || c == '.'
  let offset := word.dropWhile inTime
  isTime (word.takeWhile inTime) && (offset = [] || isOffset offset)

/-- Whether a word is a date, a time, or both with a letter between them. -/
def isDatetime (word : List Char) : Bool :=
  isDate word || isTime word ||
    match word.drop 10 with
    | mark :: rest => isDate (word.take 10) && (mark == 'T' || mark == 't') && isZonedTime rest
    | [] => false

/-- The value that a word stands for. -/
def scalar? (word : List Char) : Option Value :=
  if word = "true".toList then some (.boolean true)
  else if word = "false".toList then some (.boolean false)
  else if isDatetime word then some (.datetime (String.ofList word))
  else if isFloat word then some (.float (String.ofList word))
  else integer? word

/-- Reads a scalar off the front of a text. A date may be followed by one blank and a time. -/
def readScalar (s : List Char) : Except Error (Value × List Char) :=
  let word := s.takeWhile isScalarChar
  let rest := s.dropWhile isScalarChar
  match isDate word, rest with
  | true, ' ' :: next =>
    let time := next.takeWhile isScalarChar
    if time.head?.any isDecimal then
      if isZonedTime time then
        .ok (.datetime (String.ofList (word ++ ' ' :: time)), next.dropWhile isScalarChar)
      else .error (.malformed "time")
    else .ok (.datetime (String.ofList word), rest)
  | _, _ =>
    match scalar? word with
    | some value => .ok (value, rest)
    | none => .error (.malformed "value")

end SealedBuild.Toml
