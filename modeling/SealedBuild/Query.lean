import SealedBuild.Failure
import SealedBuild.Json
import SealedBuild.Step
import SealedBuild.Text.Blank
import SealedBuild.Text.Lines

/-!
# Dependency queries

A query asks for the packages that depend on one package. Its answer is read off the output of the
query: printed lines mean that the package is present, and so does the complaint that its name is
ambiguous; the complaint that the name matches no package means that it is absent. Every other
failure of the query is a failure of the run.
-/

namespace SealedBuild

open Text

/-- Whether a package is in the dependency graph; if it is, the lines that show how. -/
inductive QueryOutcome
  | absent
  | present (tree : List String)
  deriving DecidableEq

namespace QueryOutcome

/-- The outcome for people to read. -/
def describe : QueryOutcome → String
  | absent => "Absent"
  | present tree => "Present \x7b tree: " ++ quotedList tree ++ " \x7d"

/-- The outcome as a document. -/
def toJson : QueryOutcome → Json
  | absent => .object [("status", .string "absent")]
  | present tree => .object [("status", .string "present"), ("tree", .ofStrings tree)]

/-- The outcome that a document stands for. An array may give the status and what belongs to it in
order. -/
def ofJson? : Json → Option QueryOutcome
  | .object members =>
    match (Json.member? members "status").bind Json.string? with
    | some "absent" => some absent
    | some "present" => ((Json.member? members "tree").bind Json.strings?).map present
    | _ => none
  | .array [.string "absent"] => some absent
  | .array [.string "present", tree] => tree.strings?.map present
  | _ => none

end QueryOutcome

/-- The lines that are not blank. -/
def writtenLines (text : String) : List String := (linesOf text).filter fun l => !isBlankText l

/-- The candidates that an ambiguous name is reported with: the lines that start with the package
name and a version mark, or the package name alone if there are none. -/
def candidates (package stderr : String) : List String :=
  let found := ((linesOf stderr).map trimmed).filter fun line =>
    (package ++ "@").toList.isPrefixOf line.toList
  if found = [] then [package] else found

/-- What the output of a query for a package says. -/
def interpretQuery (package : String) (output : StepOutput) : Except Failure QueryOutcome :=
  if output.success then
    let tree := writtenLines output.stdout
    .ok (if tree = [] then .absent else .present tree)
  else if contains output.stderr "did not match any packages" then .ok .absent
  else if contains output.stderr "is ambiguous" then
    .ok (.present (candidates package output.stderr))
  else
    let reason := ((writtenLines output.stderr).getLast?.map trimmed).getD "no output"
    .error (.sandbox ("dependency query for `" ++ package ++ "` failed: " ++ reason) output.code)

end SealedBuild
