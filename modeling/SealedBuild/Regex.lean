import SealedBuild.Regex.Meaning
import SealedBuild.Regex.Parse

/-!
# Regular expressions

A regular expression is compiled from its text and tells whether it matches somewhere in a line. An
expression is refused if its text breaks a rule or if it would become too large.
-/

namespace SealedBuild

namespace Regex

open Unicode

/-- Why an expression is refused. -/
inductive Error
  | invalid (pattern : String) (fault : Fault)
  | tooLarge
  deriving DecidableEq

/-- The greatest size of a compiled expression, in bytes. -/
def sizeLimit : Nat := 10485760

/-- The sentence that reports an error. The one for a fault shows the expression on a line of its
own. -/
def Error.message : Error → String
  | invalid pattern fault =>
    "regex parse error:\n    " ++ pattern ++ "\nerror: " ++ fault.message
  | tooLarge => "Compiled regex exceeds size limit of " ++ toString sizeLimit ++ " bytes."

/-- About how many bytes one range of a set takes. -/
def rangeSize : Nat := 75

/-- About how many bytes the recognition of one character of a set takes. -/
def setSize : CharSet → Nat
  | .empty | .between .. => 32
  | .digit => 4000
  | .blank => 600
  | .word => 58000
  | .table members => rangeSize * members.ranges.size
  | .category codes => rangeSize * categories.countRanges codes.contains
  | .script code => rangeSize * scripts.countRanges (· == code)
  | .union a b | .inter a b | .minus a b => setSize a + setSize b
  | .complement a => setSize a + 400
  | .upToCase a | .upToPlainCase a => 2 * setSize a

/-- About how many bytes an expression takes. -/
def nodeSize : Node → Nat
  | .empty | .look _ => 40
  | .set members => setSize members
  | .sequence a b => nodeSize a + nodeSize b
  | .choice a b => nodeSize a + nodeSize b + 40
  | .counted item low high => nodeSize item * max 1 (high.getD low) + 40

end Regex

/-- A regular expression that has been compiled. -/
structure Regex where
  node : Regex.Node

namespace Regex

/-- Compiles a regular expression. -/
def compile (pattern : String) : Except Error Regex :=
  match parse pattern.toList with
  | .error fault => .error (.invalid pattern fault)
  | .ok expr =>
    match expr.meaning .initial with
    | .error fault => .error (.invalid pattern fault)
    | .ok (node, _) => if sizeLimit < nodeSize node then .error .tooLarge else .ok ⟨node⟩

/-- Whether an expression matches somewhere in a line. -/
def isMatch (regex : Regex) (line : String) : Bool := regex.node.occursIn line.toList

end Regex

end SealedBuild
