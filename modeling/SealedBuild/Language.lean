import SealedBuild.Glob
import SealedBuild.Regex

/-!
# Languages of patterns

The program only needs to know of a language of patterns how they are compiled, what they match, and
how an error reads. It uses two languages: one to describe lines, and one to describe paths.
-/

namespace SealedBuild

/-- A language in which texts are described by patterns. -/
structure PatternLanguage where
  Pattern : Type
  Error : Type
  compile : String → Except Error Pattern
  isMatch : Pattern → String → Bool
  /-- The sentence that reports an error. -/
  message : Error → String

/-- The languages of a verification. -/
structure Languages where
  lines : PatternLanguage
  paths : PatternLanguage

/-- Regular expressions. -/
abbrev Regex.language : PatternLanguage where
  Pattern := Regex
  Error := Regex.Error
  compile := Regex.compile
  isMatch := Regex.isMatch
  message := Regex.Error.message

/-- Patterns with stars and brackets. -/
abbrev Glob.language : PatternLanguage where
  Pattern := Glob
  Error := Glob.Error
  compile := Glob.parse
  isMatch := Glob.isMatch
  message := Glob.Error.message

/-- The languages that the program uses: lines are described by regular expressions, and paths by
patterns with stars and brackets. -/
abbrev Languages.standard : Languages where
  lines := Regex.language
  paths := Glob.language

end SealedBuild
