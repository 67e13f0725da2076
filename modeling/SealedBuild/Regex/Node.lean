import SealedBuild.Unicode.CharSet

/-!
# Matching

A regular expression without switches denotes, for every text, a relation between positions: from
which position to which it can go. A set of positions is kept as one mark for the position before
each character of the text and one for its end, and an expression takes the marks of the positions
where it may start to those where it may end. Which of several ways is preferred does not matter, as
only the existence of a match is asked for.
-/

namespace SealedBuild.Regex

open Unicode

/-- A condition on the characters before and after a position. -/
inductive Look
  | textStart
  | textEnd
  | lineStart
  | lineEnd
  /-- Line ends include carriage returns, and a pair of both counts as one. -/
  | returnLineStart
  | returnLineEnd
  | wordBoundary (plain : Bool)
  | noWordBoundary (plain : Bool)
  | wordStart (plain : Bool)
  | wordEnd (plain : Bool)
  | wordStartHalf (plain : Bool)
  | wordEndHalf (plain : Bool)
  deriving DecidableEq

/-- Whether there is a character and it belongs to a word; in the plain sense, only ASCII characters
do. -/
def inWord (plain : Bool) : Option Char → Bool
  | none => false
  | some c => if plain then isPlainWord c else isWord c

/-- Whether a condition holds between two characters, either of which may be missing. -/
def Look.holds (look : Look) (before after : Option Char) : Bool :=
  match look with
  | textStart => before == none
  | textEnd => after == none
  | lineStart => before == none || before == some '\n'
  | lineEnd => after == none || after == some '\n'
  | returnLineStart =>
    before == none || before == some '\n' || (before == some '\r' && after != some '\n')
  | returnLineEnd =>
    after == none || after == some '\r' || (after == some '\n' && before != some '\r')
  | wordBoundary plain => inWord plain before != inWord plain after
  | noWordBoundary plain => inWord plain before == inWord plain after
  | wordStart plain => !inWord plain before && inWord plain after
  | wordEnd plain => inWord plain before && !inWord plain after
  | wordStartHalf plain => !inWord plain before
  | wordEndHalf plain => !inWord plain after

/-- A regular expression without switches. -/
inductive Node
  | empty
  | set (members : CharSet)
  | look (condition : Look)
  | sequence (a b : Node)
  | choice (a b : Node)
  /-- At least `low` repetitions, and at most `high` if that is given. -/
  | counted (item : Node) (low : Nat) (high : Option Nat)

/-- One mark for each position of a text, its end included. -/
abbrev Marks := List Bool

namespace Marks

/-- The positions right after a marked one and a character of the wanted kind; `here` is the mark of
the position before. -/
def advanceFrom (wanted : Char → Bool) (here : Bool) : List Char → Marks → Marks
  | c :: s, mark :: marks => here :: advanceFrom wanted (mark && wanted c) s marks
  | _, _ => [here]

/-- The positions right after a marked one and a character of the wanted kind. -/
def advance (wanted : Char → Bool) (s : List Char) (marks : Marks) : Marks :=
  advanceFrom wanted false s marks

/-- The marked positions at which a condition holds. -/
def filter (look : Look) (before : Option Char) : List Char → Marks → Marks
  | [], marks => marks.map (· && look.holds before none)
  | c :: s, mark :: marks =>
    (mark && look.holds before (some c)) :: filter look (some c) s marks
  | _ :: _, [] => []

/-- The positions that are marked in one of two ways. -/
def join (a b : Marks) : Marks := List.zipWith (· || ·) a b

/-- The positions that some number of characters of the wanted kind lead to; `here` says whether the
position is reached from the one before. -/
def sweep (wanted : Char → Bool) (here : Bool) : List Char → Marks → Marks
  | c :: s, mark :: marks =>
    let reached := here || mark
    reached :: sweep wanted (reached && wanted c) s marks
  | _, marks => marks.map (here || ·)

/-- The positions that at most `count` applications of a step lead to. -/
def closure (step : Marks → Marks) : Nat → Marks → Marks
  | 0, marks => marks
  | count + 1, marks =>
    let next := join marks (step marks)
    if next = marks then marks else closure step count next

/-- The positions that exactly `count` applications of a step lead to. -/
def iterate (step : Marks → Marks) : Nat → Marks → Marks
  | 0, marks => marks
  | count + 1, marks => if marks.any id then iterate step count (step marks) else marks

end Marks

/-- The positions at which a match can end that starts at a marked one. -/
def Node.ends (s : List Char) : Node → Marks → Marks
  | .empty, marks => marks
  | .set members, marks => Marks.advance members.contains s marks
  | .look condition, marks => Marks.filter condition none s marks
  | .sequence a b, marks => b.ends s (a.ends s marks)
  | .choice a b, marks => Marks.join (a.ends s marks) (b.ends s marks)
  | .counted (.set members) low none, marks =>
    Marks.sweep members.contains false s
      (Marks.iterate (Marks.advance members.contains s) low marks)
  | .counted item low high, marks =>
    let further :=
      match high with
      | some n => n - low
      | none => s.length + 1
    Marks.closure (item.ends s) further (Marks.iterate (item.ends s) low marks)

/-- Whether a match starts anywhere in a text. -/
def Node.occursIn (node : Node) (s : List Char) : Bool :=
  (node.ends s (List.replicate (s.length + 1) true)).any id

end SealedBuild.Regex
