import SealedBuild.Text.Blank
import SealedBuild.Unicode.CaseOrbit
import SealedBuild.Unicode.Category
import SealedBuild.Unicode.Identifier
import SealedBuild.Unicode.Script

/-!
# Sets of characters

The sets of characters that a pattern can name: ranges, properties, and what set operations make of
them. A set is kept as the expression that names it, and membership is decided by recursion on the
expression, so that each operation is by definition the operation on the members.
-/

namespace SealedBuild.Unicode

open SealedBuild.Text

/-- Whether a character is a decimal digit of some script. -/
def isDigit (c : Char) : Bool :=
  if c.toNat < 0x80 then decide ('0' ≤ c ∧ c ≤ '9') else category c == "Nd"

/-- Whether a character is an ASCII letter, digit or underscore. -/
def isPlainWord (c : Char) : Bool :=
  decide ('a' ≤ c ∧ c ≤ 'z') || decide ('A' ≤ c ∧ c ≤ 'Z') || decide ('0' ≤ c ∧ c ≤ '9') ||
    c == '_'

/-- Whether a character can be part of a word: letters, marks, digits, connecting punctuation and
join controls. -/
def isWord (c : Char) : Bool :=
  if c.toNat < 0x80 then isPlainWord c
  else Property.alphabetic.contains c || ["Mc", "Me", "Mn", "Nd", "Pc"].contains (category c) ||
    Property.joinControl.contains c

/-- A set of characters. -/
inductive CharSet
  | empty
  | between (low high : Char)
  | digit
  | blank
  | word
  | table (members : CharTable)
  | category (codes : List String)
  | script (code : String)
  | union (a b : CharSet)
  | inter (a b : CharSet)
  | minus (a b : CharSet)
  | complement (a : CharSet)
  | upToCase (a : CharSet)
  | upToPlainCase (a : CharSet)

/-- The character with the case of an ASCII letter swapped. -/
def swapPlainCase (c : Char) : Char :=
  if 'a' ≤ c ∧ c ≤ 'z' then Char.ofNat (c.toNat - 32)
  else if 'A' ≤ c ∧ c ≤ 'Z' then Char.ofNat (c.toNat + 32)
  else c

namespace CharSet

/-- Whether a character is in the set. -/
def contains : CharSet → Char → Bool
  | empty, _ => false
  | between low high, c => decide (low ≤ c ∧ c ≤ high)
  | digit, c => isDigit c
  | blank, c => isBlank c
  | word, c => isWord c
  | table members, c => members.contains c
  | category codes, c => codes.contains (Unicode.category c)
  | script code, c => Unicode.script c == code
  | union a b, c => a.contains c || b.contains c
  | inter a b, c => a.contains c && b.contains c
  | minus a b, c => a.contains c && !b.contains c
  | complement a, c => !a.contains c
  | upToCase a, c => (caseVariants c).any fun d => a.contains d
  | upToPlainCase a, c => a.contains c || a.contains (swapPlainCase c)

/-- The set with one member. -/
def single (c : Char) : CharSet := between c c

/-- The set of all characters. -/
def all : CharSet := complement empty

/-- The characters in exactly one of two sets. -/
def symmetricDifference (a b : CharSet) : CharSet := union (minus a b) (minus b a)

/-- The union of a list of sets. -/
def unionOf : List CharSet → CharSet
  | [] => empty
  | [a] => a
  | a :: rest => union a (unionOf rest)

end CharSet

end SealedBuild.Unicode
