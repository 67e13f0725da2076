import SealedBuild.Unicode.CharSet

/-!
# Expressions

The form of a regular expression as it is written: flags are still switches in the text, and classes
of characters are still the operations that name them. The depth of an expression counts everything
that encloses something else.
-/

namespace SealedBuild.Regex

open Unicode

/-- A switch that changes how an expression is meant. -/
inductive Flag
  | ignoreCase
  | multiLine
  | dotMatchesLineFeed
  | swapGreed
  | unicode
  | returnsEndLines
  | ignoreSpace
  deriving DecidableEq

/-- Flags that are set, or cleared, at one place. -/
abbrev Switches := List (Flag × Bool)

/-- What switches do to one flag, if they change it. -/
def Switches.find? (switches : Switches) (flag : Flag) : Option Bool :=
  (List.find? (fun entry => decide (entry.1 = flag)) switches).map (·.2)

/-- The classes with a letter of their own. -/
inductive LetterClass
  | digit
  | blank
  | word
  deriving DecidableEq

/-- The operations on classes. -/
inductive SetOperation
  | intersection
  | difference
  | symmetricDifference
  deriving DecidableEq

/-- A class of characters, as written. -/
inductive SetExpr
  /-- A character; the mark says that it is written as a byte in hexadecimal. -/
  | literal (c : Char) (byte : Bool)
  /-- A range; a mark says of each end whether it is written as a byte. -/
  | range (low : Char) (lowByte : Bool) (high : Char) (highByte : Bool)
  | letter (kind : LetterClass) (negated : Bool)
  | property (negated : Bool) (name : List Char) (value : Option (List Char))
  /-- A class of ASCII characters that is named between colons. -/
  | named (negated : Bool) (members : CharSet)
  | union (items : List SetExpr)
  | bracket (negated : Bool) (body : SetExpr)
  | operation (kind : SetOperation) (a b : SetExpr)

mutual

/-- The depth of a class. -/
def SetExpr.depth : SetExpr → Nat
  | .literal .. | .range .. | .letter .. | .property .. | .named .. => 0
  | .union items => if 2 ≤ items.length then 1 + depthOfSets items else depthOfSets items
  | .bracket _ body => 1 + body.depth
  | .operation _ a b => 1 + max a.depth b.depth

/-- The greatest depth among classes. -/
def depthOfSets : List SetExpr → Nat
  | [] => 0
  | item :: rest => max item.depth (depthOfSets rest)

end

/-- The conditions on a position. -/
inductive Assertion
  | lineStart
  | lineEnd
  | textStart
  | textEnd
  | wordBoundary
  | noWordBoundary
  | wordStart
  | wordEnd
  | wordStartHalf
  | wordEndHalf
  deriving DecidableEq

/-- A regular expression, as written. -/
inductive Expr
  | empty
  | flags (switches : Switches)
  /-- A character; the mark says that it is written as a byte in hexadecimal. -/
  | literal (c : Char) (byte : Bool)
  | dot
  | assertion (kind : Assertion)
  | set (members : SetExpr)
  | counted (item : Expr) (low : Nat) (high : Option Nat)
  | group (switches : Switches) (body : Expr)
  | sequence (items : List Expr)
  | choice (branches : List Expr)

namespace Expr

mutual

/-- The depth of an expression. -/
def depth : Expr → Nat
  | empty | flags _ | literal .. | dot | assertion _ => 0
  | set members => members.depth
  | counted item _ _ => 1 + item.depth
  | group _ body => 1 + body.depth
  | sequence items => 1 + depthOfAll items
  | choice branches => 1 + depthOfAll branches

/-- The greatest depth among expressions. -/
def depthOfAll : List Expr → Nat
  | [] => 0
  | item :: rest => max item.depth (depthOfAll rest)

end

/-- The expression for items one after the other. -/
def ofItems : List Expr → Expr
  | [] => empty
  | [item] => item
  | items => sequence items

/-- The expression for branches of which one counts. -/
def ofBranches : List Expr → Expr
  | [] => empty
  | [branch] => branch
  | branches => choice branches

end Expr

end SealedBuild.Regex
