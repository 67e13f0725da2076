import SealedBuild.Unicode.Category
import SealedBuild.Unicode.Identifier

/-!
# Quoted text

Text between double quotes, for people to read. A quote and a backslash get a backslash, the usual
control characters their short escapes, and every other character that does not show by itself is
written with its code point in braces.
-/

namespace SealedBuild.Text

/-- The lower-case hexadecimal digits of a number. -/
def hexDigits (n : Nat) : List Char := Nat.toDigits 16 n

/-- A character written with its code point: a backslash, `u` and the code point in braces. -/
def codePointEscape (c : Char) : List Char :=
  ['\\', 'u', '\x7b'] ++ hexDigits c.toNat ++ ['\x7d']

/-- The general categories of characters that do not show by themselves. -/
def hiddenCategories : List String := ["Cc", "Cf", "Cs", "Co", "Cn", "Zl", "Zp", "Zs"]

/-- Whether a character shows by itself: it does not join the character before it, and it is
neither a control, nor a separator other than the plain space, nor unassigned. -/
def isVisible (c : Char) : Bool :=
  if c.toNat < 0x80 then decide (0x20 ≤ c.toNat ∧ c.toNat < 0x7f)
  else !Unicode.Property.graphemeExtend.contains c &&
    !hiddenCategories.contains (Unicode.category c)

/-- One character inside quotes. -/
def quotedChar (c : Char) : List Char :=
  if c = Char.ofNat 0 then ['\\', '0']
  else if c = '\t' then ['\\', 't']
  else if c = '\r' then ['\\', 'r']
  else if c = '\n' then ['\\', 'n']
  else if c = '\\' then ['\\', '\\']
  else if c = '"' then ['\\', '"']
  else if isVisible c then [c]
  else codePointEscape c

/-- A text between double quotes. -/
def quoted (s : String) : String :=
  String.ofList ('"' :: s.toList.flatMap quotedChar ++ ['"'])

/-- A list of quoted texts in brackets. -/
def quotedList (items : List String) : String :=
  "[" ++ ", ".intercalate (items.map quoted) ++ "]"

end SealedBuild.Text
