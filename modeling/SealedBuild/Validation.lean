import SealedBuild.Failure

/-!
# Validation results

A validation collects everything that it finds: errors, which refuse the input, and warnings, which
do not.
-/

namespace SealedBuild

/-- What a validation found, in order. -/
structure Validation where
  errors : List String
  warnings : List String
  deriving DecidableEq

namespace Validation

/-- Nothing found. -/
def empty : Validation := ⟨[], []⟩

/-- Whether there are no errors. -/
def isValid (found : Validation) : Bool := found.errors.isEmpty

/-- Adds an error. -/
def addError (found : Validation) (text : String) : Validation :=
  { found with errors := found.errors ++ [text] }

/-- Adds a warning. -/
def addWarning (found : Validation) (text : String) : Validation :=
  { found with warnings := found.warnings ++ [text] }

/-- Adds what another validation found. -/
def merge (found more : Validation) : Validation :=
  ⟨found.errors ++ more.errors, found.warnings ++ more.warnings⟩

/-- The warnings of a valid input, or the failure that names all errors. -/
def result (found : Validation) : Except Failure (List String) :=
  if found.isValid then .ok found.warnings
  else .error (.config ("; ".intercalate found.errors))

end Validation

end SealedBuild
