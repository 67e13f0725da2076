import SealedBuild.Config.Problem

/-!
# What a validation has found

A validation adds what it finds to what it has found before, and the parts of a configuration are
merged in the end. All of this comes down to two lists, the problems and the cautions, each in the
order in which they are found.

Main statements: `VerifySettings.validateIn_eq` and `Config.validateIn_eq`, which say what these
lists are, in whatever languages the patterns are read.
-/

namespace SealedBuild

open Text

theorem toList_problemIf_eq_nil_iff {condition : Bool} {problem : Problem} :
    (problemIf condition problem).toList = [] ↔ condition = false := by
  cases condition <;> simp [problemIf]

namespace Validation

variable {α : Type}

/-- The validation that has found problems and cautions. -/
def of (problems : List Problem) (cautions : List Caution) : Validation :=
  ⟨problems.map (·.message), cautions.map (·.message)⟩

theorem empty_eq_of : empty = of [] [] := rfl

theorem report_of (problems : List Problem) (cautions : List Caution) (problem? : Option Problem) :
    (of problems cautions).report problem? = of (problems ++ problem?.toList) cautions := by
  cases problem? with
  | none => simp [report]
  | some problem => simp [report, of, addError]

theorem warn_of (problems : List Problem) (cautions : List Caution) (caution? : Option Caution) :
    (of problems cautions).warn caution? = of problems (cautions ++ caution?.toList) := by
  cases caution? with
  | none => simp [warn]
  | some caution => simp [warn, of, addWarning]

/-- Members of a list that are checked one after the other add their problems in this order. -/
theorem foldl_report_of (problem? : α → Option Problem) (members : List α)
    (problems : List Problem) (cautions : List Caution) :
    members.foldl (fun found member => found.report (problem? member)) (of problems cautions) =
      of (problems ++ members.filterMap problem?) cautions := by
  induction members generalizing problems with
  | nil => simp
  | cons member rest ih =>
    rw [List.foldl_cons, report_of, ih, List.filterMap_cons, List.append_assoc]
    cases problem? member <;> rfl

theorem merge_of (problems problems' : List Problem) (cautions cautions' : List Caution) :
    (of problems cautions).merge (of problems' cautions') =
      of (problems ++ problems') (cautions ++ cautions') := by
  simp [merge, of]

theorem isValid_of_iff {problems : List Problem} {cautions : List Caution} :
    (of problems cautions).isValid = true ↔ problems = [] := by
  rw [isValid, of, List.isEmpty_iff, List.map_eq_nil_iff]

end Validation

namespace SandboxSettings

/-- The problems with the settings of the sandbox, in the order in which they are reported. -/
def problems (settings : SandboxSettings) : List Problem :=
  (problemIf (isBlankText settings.engine) .emptyEngine).toList ++
  (problemIf (isBlankText settings.image) .emptyImage).toList ++
  (problemIf (!settings.sourceMount.isAbsolute) .relativeSourceMount).toList ++
  (problemIf (!settings.targetMount.isAbsolute) .relativeTargetMount).toList ++
  (problemIf (settings.sourceMount.sameComponents settings.targetMount) .sameMounts).toList ++
  (problemIf (!settings.buildSubdir.isContained) .uncontainedBuildSubdir).toList ++
  (problemIf (settings.maxLifetimeSecs == 0) .noLifetime).toList

theorem validate_eq (settings : SandboxSettings) :
    settings.validate = .of settings.problems (imageCaution? settings.image).toList := by
  simp only [validate, Validation.empty_eq_of, Validation.report_of, Validation.warn_of, problems,
    List.nil_append]

end SandboxSettings

namespace VerifySettings

/-- The problems with the settings of the verification, in the order in which they are reported. -/
def problemsIn (languages : Languages) (settings : VerifySettings) : List Problem :=
  settings.tokens.filterMap (tokenProblem? languages) ++
    settings.allowedPaths.filterMap (allowedPathProblem? languages)

/-- The cautions about the settings of the verification, in the order in which they are
reported. -/
def cautions (settings : VerifySettings) : List Caution :=
  (cautionIf (!settings.enforce) .notEnforced).toList ++
  (cautionIf (!settings.constraints.any (·.disallowed)) .nothingForbidden).toList

theorem validateIn_eq (languages : Languages) (settings : VerifySettings) :
    settings.validateIn languages = .of (settings.problemsIn languages) settings.cautions := by
  simp only [validateIn, Validation.empty_eq_of, Validation.warn_of, Validation.foldl_report_of,
    problemsIn, cautions, List.nil_append]

end VerifySettings

namespace Config

/-- The problems with a configuration, in the order in which they are reported. -/
def problemsIn (languages : Languages) (config : Config) : List Problem :=
  config.sandbox.problems ++
  (problemIf (!config.toolchain.manifest.isContained) .uncontainedManifest).toList ++
  (problemIf (isBlankText config.build.package) .emptyPackage).toList ++
  (problemIf (isBlankText config.build.binary) .emptyBinary).toList ++
  (problemIf (!config.install.destination.isContained) .uncontainedDestination).toList ++
  config.verify.problemsIn languages

/-- The problems with a configuration in the languages of the program. -/
def problems (config : Config) : List Problem := config.problemsIn .standard

/-- The cautions about a configuration, in the order in which they are reported. -/
def cautions (config : Config) : List Caution :=
  (SandboxSettings.imageCaution? config.sandbox.image).toList ++ config.verify.cautions

theorem validateIn_eq (languages : Languages) (config : Config) :
    config.validateIn languages = .of (config.problemsIn languages) config.cautions := by
  simp only [validateIn, SandboxSettings.validate_eq, VerifySettings.validateIn_eq,
    Validation.report_of, Validation.merge_of, problemsIn, cautions]

theorem errors_validate (config : Config) :
    config.validate.errors = config.problems.map (·.message) := by
  rw [validate, validateIn_eq]
  rfl

theorem isValid_iff_problems_eq_nil {config : Config} :
    config.validate.isValid = true ↔ config.problems = [] := by
  rw [validate, validateIn_eq, Validation.isValid_of_iff, problems]

end Config

end SealedBuild
