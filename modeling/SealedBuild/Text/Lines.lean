
/-!
# Lines

A line ends at a line feed, and one carriage return right before that line feed belongs to the
line end. The last line may lack its line feed; it then keeps all its characters. A text that ends
in a line feed has no further empty line after it.

The rule is the same for characters and for bytes, so it is stated for any alphabet.
-/

namespace SealedBuild.Text

variable {α : Type} [DecidableEq α]

/-- The lines of a text without their line feeds; the mark says whether a line feed followed. -/
def rawLines (lf : α) : List α → List (List α × Bool)
  | [] => []
  | a :: rest =>
    if a = lf then ([], true) :: rawLines lf rest
    else match rawLines lf rest with
      | [] => [([a], false)]
      | (line, ended) :: more => (a :: line, ended) :: more

/-- Removes one trailing `cr`, if there is one. -/
def dropReturn (cr : α) (line : List α) : List α :=
  if line.getLast? = some cr then line.dropLast else line

/-- The content of one raw line: a carriage return counts as part of the line end only when a line
feed follows it. -/
def lineContent (cr : α) (line : List α × Bool) : List α :=
  if line.2 then dropReturn cr line.1 else line.1

/-- The lines of a text over any alphabet. -/
def splitLines (lf cr : α) (s : List α) : List (List α) := (rawLines lf s).map (lineContent cr)

/-- The lines of a text. -/
def lines (s : List Char) : List (List Char) := splitLines '\n' '\r' s

/-- The lines of a string. -/
def linesOf (s : String) : List String := (lines s.toList).map String.ofList

end SealedBuild.Text
