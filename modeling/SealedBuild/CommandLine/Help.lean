import SealedBuild.CommandLine.Arguments

/-!
# Help

The text that explains the arguments, and the one that names the version. Descriptions start in one
column, and an option that the environment can give shows its variable with its value.
-/

namespace SealedBuild.CommandLine

/-- What the program is for, in one line. -/
def about : String :=
  "Reproducible sandboxed release builds of the codex CLI with dependency constraint checks"

/-- How the program is called. -/
def usage : String := "Usage: build-codex [OPTIONS] [TARGET_ROOT]"

/-- The name of the program and its version. -/
def versionText : String := "build-codex 0.1.0\n"

/-- The description of an option that takes a value. -/
def ValueOption.description : ValueOption → String
  | sourceRoot => "Source tree to build (default: parent of this program's directory)"
  | config => "TOML file overriding the built-in pipeline configuration"
  | engine => "Container engine CLI (docker, podman)"

/-- The description of a switch. -/
def Switch.description : Switch → String
  | skipVerify => "Install without running the dependency constraint checks"
  | verifyOnly => "Only run the dependency constraint checks"
  | json => "Print the verification report as JSON"

/-- The width of the column in front of the descriptions. -/
def columnWidth : Nat := 21

/-- A line that explains one option. -/
def optionLine (left description : String) : String :=
  left ++ String.ofList (List.replicate (columnWidth + 6 - left.length) ' ') ++ description ++ "\n"

/-- The line of an option that takes a value. -/
def valueOptionLine (environment : String → Option String) (option : ValueOption) : String :=
  optionLine ("      " ++ (Slot.option option).label)
    (option.description ++ " [env: " ++ option.variableName ++ "=" ++
      (environment option.variableName).getD "" ++ "]")

/-- The text that explains the arguments. -/
def helpText (environment : String → Option String) : String :=
  about ++ "\n\n" ++ usage ++ "\n\nArguments:\n  [TARGET_ROOT]  " ++
    "Target tree; the binary is installed at <TARGET_ROOT>/mooreCube/bin/codex/codex" ++
    "\n\nOptions:\n" ++
    String.join (ValueOption.all.map (valueOptionLine environment)) ++
    String.join (Switch.all.map fun switch =>
      optionLine ("      " ++ switch.label) switch.description) ++
    optionLine "  -h, --help" "Print help" ++ optionLine "  -V, --version" "Print version"

/-- The text that reports what is wrong with arguments. -/
def UsageError.report (error : UsageError) : String :=
  "error: " ++ error.message ++ "\n\n" ++ usage ++ "\n\nFor more information, try '--help'.\n"

end SealedBuild.CommandLine
