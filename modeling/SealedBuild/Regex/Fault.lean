
/-!
# Faults of regular expressions

The ways in which the text of a regular expression can break the rules, with a sentence for each.
-/

namespace SealedBuild.Regex

/-- Which rule the text of a regular expression breaks. -/
inductive Fault
  | groupUnclosed
  | groupUnopened
  | groupName
  | groupNameDuplicate
  | lookAround
  | backreference
  | flagUnknown
  | flagDuplicate
  | flagRepeatedNegation
  | flagDanglingNegation
  | flagUnexpectedEnd
  | repetitionMissing
  | repetitionCount
  | repetitionCountUnclosed
  | repetitionCountInvalid
  | escapeUnexpectedEnd
  | escapeUnknown
  | escapeHex
  | wordBoundary
  | classUnclosed
  | classEscape
  | classRange
  | propertyUnknown
  | propertyNotAllowed
  | notUtf8
  | nestedTooDeeply
  deriving DecidableEq

/-- The sentence for a fault. -/
def Fault.message : Fault → String
  | groupUnclosed => "unclosed group"
  | groupUnopened => "unopened group"
  | groupName => "invalid capture group name"
  | groupNameDuplicate => "duplicate capture group name"
  | lookAround => "look-around, including look-ahead and look-behind, is not supported"
  | backreference => "backreferences are not supported"
  | flagUnknown => "unrecognized flag"
  | flagDuplicate => "duplicate flag"
  | flagRepeatedNegation => "flag negation operator repeated"
  | flagDanglingNegation => "dangling flag negation operator"
  | flagUnexpectedEnd => "expected flag but got end of regex"
  | repetitionMissing => "repetition operator missing expression"
  | repetitionCount => "repetition quantifier expects a valid decimal"
  | repetitionCountUnclosed => "unclosed counted repetition"
  | repetitionCountInvalid => "invalid repetition count range, the start must be <= the end"
  | escapeUnexpectedEnd => "incomplete escape sequence, reached end of pattern prematurely"
  | escapeUnknown => "unrecognized escape sequence"
  | escapeHex => "hexadecimal literal is not a Unicode scalar value"
  | wordBoundary => "invalid special word boundary assertion"
  | classUnclosed => "unclosed character class"
  | classEscape => "invalid escape sequence found in character class"
  | classRange => "invalid character class range"
  | propertyUnknown => "Unicode property not found"
  | propertyNotAllowed => "Unicode not allowed here"
  | notUtf8 => "pattern can match invalid UTF-8"
  | nestedTooDeeply => "exceeded the maximum number of nested parentheses/brackets"

end SealedBuild.Regex
