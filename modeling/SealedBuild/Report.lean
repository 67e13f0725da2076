import SealedBuild.OsPath
import SealedBuild.Query

/-!
# Verification reports

What the verification found: the outcome of each dependency query and each line that holds a token.
A package that is present and a token outside of the allowed paths are violations.
-/

namespace SealedBuild

/-- The outcome of the query for one constraint. -/
structure DependencyCheck where
  package : String
  rationale : String
  outcome : QueryOutcome
  deriving DecidableEq

/-- A line that holds a token. Lines are counted from one. -/
structure TokenMatch where
  path : OsPath
  line : Nat
  token : String
  excerpt : String
  allowed : Bool
  deriving DecidableEq

/-- What the verification of one workspace member found. -/
structure Report where
  member : String
  dependencies : List DependencyCheck
  tokens : List TokenMatch
  deriving DecidableEq

/-- Whether the package is present. -/
def DependencyCheck.isPresent (check : DependencyCheck) : Bool :=
  match check.outcome with
  | .present _ => true
  | .absent => false

/-- The sentence for a package that is present. -/
def DependencyCheck.violation (member : String) (check : DependencyCheck) : String :=
  "`" ++ check.package ++ "` is in the dependency graph of `" ++ member ++ "` (" ++
    check.rationale ++ ")"

/-- The sentence for a token outside of the allowed paths. -/
def TokenMatch.violation (found : TokenMatch) : String :=
  found.path.display ++ ":" ++ toString found.line ++ " matches `" ++ found.token ++ "`: " ++
    found.excerpt

namespace Report

/-- The sentences for all violations, packages first. -/
def violations (report : Report) : List String :=
  ((report.dependencies.filter (·.isPresent)).map (·.violation report.member)) ++
    (report.tokens.filter (!·.allowed)).map (·.violation)

/-- Whether nothing disallowed was found. -/
def passed (report : Report) : Bool := report.violations.isEmpty

/-- The failure that all violations together are. -/
def failure (report : Report) : Failure :=
  .constraintViolation ("; ".intercalate report.violations)

end Report

/-- A dependency check as a document. -/
def DependencyCheck.toJson (check : DependencyCheck) : Json :=
  .object [("package", .string check.package), ("rationale", .string check.rationale),
    ("outcome", check.outcome.toJson)]

/-- A token match as a document, if its path is text. -/
def TokenMatch.toJson? (found : TokenMatch) : Option Json :=
  found.path.toJson?.map fun path =>
    .object [("path", path), ("line", .number found.line), ("token", .string found.token),
      ("excerpt", .string found.excerpt), ("allowed", .bool found.allowed)]

/-- A report as a document, if the paths in it are text. -/
def Report.toJson? (report : Report) : Option Json :=
  (report.tokens.mapM TokenMatch.toJson?).map fun tokens =>
    .object [("member", .string report.member),
      ("dependencies", .array (report.dependencies.map (·.toJson))), ("tokens", .array tokens)]

end SealedBuild
