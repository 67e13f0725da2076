
/-!
# Blank characters

The characters with the Unicode property White Space, and the removal of such characters from the
ends of a text. A text is blank when nothing is left of it.
-/

namespace SealedBuild.Text

/-- Whether a character is white space in the sense of the Unicode standard. -/
def isBlank (c : Char) : Bool :=
  let n := c.toNat
  n == 0x20 || (0x09 ≤ n && n ≤ 0x0d) || n == 0x85 || n == 0xa0 || n == 0x1680 ||
    (0x2000 ≤ n && n ≤ 0x200a) || n == 0x2028 || n == 0x2029 || n == 0x202f || n == 0x205f ||
    n == 0x3000

/-- Removes the blank characters at the end. -/
def trimEnd (s : List Char) : List Char := (s.reverse.dropWhile isBlank).reverse

/-- Removes the blank characters at both ends. -/
def trim (s : List Char) : List Char := trimEnd (s.dropWhile isBlank)

/-- Removes the blank characters at both ends of a string. -/
def trimmed (s : String) : String := String.ofList (trim s.toList)

/-- Whether a text consists of blank characters only. -/
def isBlankText (s : String) : Bool := s.toList.all isBlank

end SealedBuild.Text
