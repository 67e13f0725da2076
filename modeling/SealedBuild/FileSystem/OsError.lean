
/-!
# Errors of file operations

The ways in which an operation on files or processes fails, with the text that reports each.
-/

namespace SealedBuild

/-- Why a file or process operation failed. -/
inductive OsError
  | notFound
  | execFormat
  | permissionDenied
  | busy
  | alreadyExists
  | notDirectory
  | isDirectory
  | invalidArgument
  | nameTooLong
  | tooManyLinks
  /-- A path holds a zero character. -/
  | zeroInPath
  /-- A command line holds a zero character. -/
  | zeroInArguments
  /-- A file that is read as text is not valid UTF-8. -/
  | notText
  /-- Any other error of the operating system, with its text and number. -/
  | other (text : String) (number : Nat)
  deriving DecidableEq

namespace OsError

/-- The sentence of an error that the operating system reports under a number. -/
def numbered (text : String) (number : Nat) : String :=
  text ++ " (os error " ++ toString number ++ ")"

/-- The sentence that reports an error. -/
def message : OsError → String
  | notFound => numbered "No such file or directory" 2
  | execFormat => numbered "Exec format error" 8
  | permissionDenied => numbered "Permission denied" 13
  | busy => numbered "Device or resource busy" 16
  | alreadyExists => numbered "File exists" 17
  | notDirectory => numbered "Not a directory" 20
  | isDirectory => numbered "Is a directory" 21
  | invalidArgument => numbered "Invalid argument" 22
  | nameTooLong => numbered "File name too long" 36
  | tooManyLinks => numbered "Too many levels of symbolic links" 40
  | zeroInPath => "file name contained an unexpected NUL byte"
  | zeroInArguments => "nul byte found in provided data"
  | notText => "stream did not contain valid UTF-8"
  | other text number => numbered text number

end OsError

end SealedBuild
