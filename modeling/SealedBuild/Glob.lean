
/-!
# Path patterns

A pattern describes paths as plain text. A question mark stands for one character and a star for
any number of them, slashes included. Two stars stand for whole components: nothing, everything up
to and with some slash, or all the rest. Brackets hold characters and ranges of which one must
occur, or, after an exclamation mark, none.

Matching computes, for one token after the other from the last to the first, from which positions of
the text the tokens match to its end.
-/

namespace SealedBuild

namespace Glob

/-- A part of a pattern. -/
inductive Token
  | char (c : Char)
  | anyChar
  | anySequence
  /-- Two stars: any number of whole components. -/
  | anyComponents
  /-- One character within one of the ranges. -/
  | within (ranges : List (Char × Char))
  /-- One character outside of all the ranges. -/
  | except (ranges : List (Char × Char))
  deriving DecidableEq

/-- What is wrong with a pattern. -/
inductive Fault
  /-- There are more than two stars in a row. -/
  | wildcards
  /-- Two stars share a component with something else. -/
  | components
  /-- A bracket is not closed or holds nothing. -/
  | range
  deriving DecidableEq

/-- What is wrong with a pattern, and near which character. -/
structure Error where
  position : Nat
  fault : Fault
  deriving DecidableEq

/-- The rule that a fault breaks. -/
def Fault.rule : Fault → String
  | wildcards => "wildcards are either regular `*` or recursive `**`"
  | components => "recursive wildcards must form a single path component"
  | range => "invalid range pattern"

/-- The sentence that reports an error. -/
def Error.message (error : Error) : String :=
  "Pattern syntax error near position " ++ toString error.position ++ ": " ++ error.fault.rule

/-- The characters and ranges between brackets. -/
def ranges : List Char → List (Char × Char)
  | [] => []
  | low :: '-' :: high :: rest => (low, high) :: ranges rest
  | c :: rest => (c, c) :: ranges rest

/-- Splits the text after an opening bracket into what the brackets hold and the text after them.
The first character inside never closes them. -/
def brackets? (s : List Char) : Option (List Char × List Char) :=
  match s with
  | [] => none
  | first :: rest =>
    match rest.dropWhile (· != ']') with
    | _ :: after => some (first :: rest.takeWhile (· != ']'), after)
    | [] => none

/-- Reads a pattern from a position on; `before` is the character in front of it. The first argument
bounds the number of tokens. -/
def tokensFrom : Nat → Nat → Option Char → List Char → Except Error (List Token)
  | 0, _, _, _ => .ok []
  | _ + 1, _, _, [] => .ok []
  | more + 1, position, before, c :: rest =>
    if c = '?' then
      (tokensFrom more (position + 1) (some c) rest).map (.anyChar :: ·)
    else if c = '*' then
      match rest with
      | '*' :: '*' :: _ => .error ⟨position + 2, .wildcards⟩
      | '*' :: after =>
        if before ≠ none ∧ before ≠ some '/' then .error ⟨position - 1, .components⟩
        else match after with
          | [] => .ok [.anyComponents]
          | '/' :: after =>
            (tokensFrom more (position + 3) (some '/') after).map (.anyComponents :: ·)
          | _ => .error ⟨position + 2, .components⟩
      | _ => (tokensFrom more (position + 1) (some c) rest).map (.anySequence :: ·)
    else if c = '[' then
      let negated := rest.head? = some '!'
      let body := if negated then rest.drop 1 else rest
      match brackets? body with
      | none => .error ⟨position, .range⟩
      | some (inside, after) =>
        let token := if negated then Token.except (ranges inside) else .within (ranges inside)
        let width := (c :: rest).length - after.length
        (tokensFrom more (position + width) (some ']') after).map (token :: ·)
    else (tokensFrom more (position + 1) (some c) rest).map (.char c :: ·)

/-- Whether a character lies in one of the ranges. -/
def inRanges (ranges : List (Char × Char)) (c : Char) : Bool :=
  ranges.any fun range => decide (range.1 ≤ c ∧ c ≤ range.2)

/-- The positions from which a character of the wanted kind leads to a marked position. Marks stand
for the positions before each character of the text and at its end. -/
def beforeOne (wanted : Char → Bool) : List Char → List Bool → List Bool
  | c :: s, _ :: marks => (wanted c && marks.headD false) :: beforeOne wanted s marks
  | _, _ => [false]

/-- The positions from which some number of characters leads to a marked position. -/
def beforeAny : List Bool → List Bool
  | [] => []
  | mark :: marks =>
    let later := beforeAny marks
    (mark || later.headD false) :: later

/-- The positions at or after which a marked position follows right after a slash. -/
def beforeSlash : List Char → List Bool → List Bool
  | c :: s, _ :: marks =>
    let later := beforeSlash s marks
    ((c == '/' && marks.headD false) || later.headD false) :: later
  | _, _ => [false]

/-- The positions from which whole components lead to a marked position. -/
def beforeComponents (s : List Char) (marks : List Bool) : List Bool :=
  let atEnd := marks.getLast?.getD false
  List.zipWith (fun here later => here || later || atEnd) marks (beforeSlash s marks)

/-- The positions from which a token leads to a marked position. -/
def Token.before (token : Token) (s : List Char) (marks : List Bool) : List Bool :=
  match token with
  | char d => beforeOne (fun c => c == d) s marks
  | anyChar => beforeOne (fun _ => true) s marks
  | within ranges => beforeOne (inRanges ranges) s marks
  | except ranges => beforeOne (fun c => !inRanges ranges c) s marks
  | anySequence => beforeAny marks
  | anyComponents => beforeComponents s marks

/-- The mark of the end of a text only. -/
def endMarks (s : List Char) : List Bool := s.map (fun _ => false) ++ [true]

/-- The positions from which tokens match to the end of a text. -/
def startsOf (tokens : List Token) (s : List Char) : List Bool :=
  tokens.foldr (fun token marks => token.before s marks) (endMarks s)

end Glob

/-- A path pattern. -/
structure Glob where
  tokens : List Glob.Token
  deriving DecidableEq

namespace Glob

/-- Reads a pattern. -/
def parse (pattern : String) : Except Error Glob :=
  (tokensFrom pattern.toList.length 0 none pattern.toList).map fun tokens => ⟨tokens⟩

/-- Whether a pattern describes a text as a whole. -/
def isMatch (glob : Glob) (text : String) : Bool :=
  (startsOf glob.tokens text.toList).headD false

end Glob

end SealedBuild
