import SealedBuild.Config
import SealedBuild.Language
import SealedBuild.Text.Blank
import SealedBuild.Validation

/-!
# Checking configurations

Each rule that a configuration breaks is one problem, so that all of them are reported together and
none hides another. Cautions point out settings that are allowed but weaken a run. Each part of a
configuration is checked by itself, and what is found is merged.
-/

namespace SealedBuild

open Text

/-- A rule that a configuration breaks. -/
inductive Problem
  | emptyEngine
  | emptyImage
  | relativeSourceMount
  | relativeTargetMount
  | sameMounts
  | uncontainedBuildSubdir
  | noLifetime
  | uncontainedManifest
  | emptyPackage
  | emptyBinary
  | uncontainedDestination
  /-- The pattern of a token cannot be compiled, with the sentence that says why. -/
  | invalidToken (pattern reason : String)
  /-- A pattern of paths cannot be compiled, with the sentence that says why. -/
  | invalidAllowedPath (pattern reason : String)
  deriving DecidableEq

/-- The sentence that reports a problem. -/
def Problem.message : Problem → String
  | emptyEngine => "sandbox.engine cannot be empty"
  | emptyImage => "sandbox.image cannot be empty"
  | relativeSourceMount => "sandbox.source_mount must be an absolute path"
  | relativeTargetMount => "sandbox.target_mount must be an absolute path"
  | sameMounts => "sandbox.source_mount and sandbox.target_mount must differ"
  | uncontainedBuildSubdir =>
    "sandbox.build_subdir must be a relative path inside the source tree"
  | noLifetime => "sandbox.max_lifetime_secs must be greater than zero"
  | uncontainedManifest => "toolchain.manifest must be a relative path inside the source tree"
  | emptyPackage => "build.package cannot be empty"
  | emptyBinary => "build.binary cannot be empty"
  | uncontainedDestination =>
    "install.destination must be a relative path inside the target tree"
  | invalidToken pattern reason => "invalid token pattern '" ++ pattern ++ "': " ++ reason
  | invalidAllowedPath pattern reason => "invalid allowed path '" ++ pattern ++ "': " ++ reason

/-- A setting that weakens a run. -/
inductive Caution
  | unpinnedImage (image : String)
  | floatingImage (image : String)
  | notEnforced
  | nothingForbidden
  deriving DecidableEq

/-- The sentence that reports a caution. -/
def Caution.message : Caution → String
  | unpinnedImage image => "sandbox.image '" ++ image ++ "' is not version-pinned"
  | floatingImage image => "sandbox.image '" ++ image ++ "' uses the floating 'latest' tag"
  | notEnforced => "verify.enforce is off; constraint violations will not block installs"
  | nothingForbidden => "verify.constraints has no disallowed packages"

namespace Validation

/-- Adds the error that reports a problem, if there is one. -/
def report (found : Validation) : Option Problem → Validation
  | some problem => found.addError problem.message
  | none => found

/-- Adds the warning that reports a caution, if there is one. -/
def warn (found : Validation) : Option Caution → Validation
  | some caution => found.addWarning caution.message
  | none => found

end Validation

/-- The problem, if the condition holds. -/
def problemIf (condition : Bool) (problem : Problem) : Option Problem :=
  if condition then some problem else none

/-- The caution, if the condition holds. -/
def cautionIf (condition : Bool) (caution : Caution) : Option Caution :=
  if condition then some caution else none

namespace SandboxSettings

/-- What the reference of an image says about its version. The part after the last slash may hold a
tag after a colon, and a digest anywhere pins the image. -/
def imageCaution? (image : String) : Option Caution :=
  let last := ((cutAt '/' image.toList).getLast?).getD []
  if isBlankText image then none
  else if !last.contains ':' ∧ !image.toList.contains '@' then some (.unpinnedImage image)
  else if ":latest".toList.isSuffixOf last then some (.floatingImage image)
  else none

/-- What validation finds in the settings of the sandbox. -/
def validate (settings : SandboxSettings) : Validation :=
  Validation.empty
    |>.report (problemIf (isBlankText settings.engine) .emptyEngine)
    |>.report (problemIf (isBlankText settings.image) .emptyImage)
    |>.warn (imageCaution? settings.image)
    |>.report (problemIf (!settings.sourceMount.isAbsolute) .relativeSourceMount)
    |>.report (problemIf (!settings.targetMount.isAbsolute) .relativeTargetMount)
    |>.report (problemIf (settings.sourceMount.sameComponents settings.targetMount) .sameMounts)
    |>.report (problemIf (!settings.buildSubdir.isContained) .uncontainedBuildSubdir)
    |>.report (problemIf (settings.maxLifetimeSecs == 0) .noLifetime)

end SandboxSettings

namespace VerifySettings

section Languages

variable (languages : Languages)

/-- The problem that a token makes, if its pattern cannot be compiled. -/
def tokenProblem? (token : Token) : Option Problem :=
  match languages.lines.compile token.pattern with
  | .ok _ => none
  | .error error => some (.invalidToken token.pattern (languages.lines.message error))

/-- The problem that a pattern of paths makes, if it cannot be compiled. -/
def allowedPathProblem? (pattern : String) : Option Problem :=
  match languages.paths.compile pattern with
  | .ok _ => none
  | .error error => some (.invalidAllowedPath pattern (languages.paths.message error))

/-- What validation finds in the settings of the verification, with the patterns read in certain
languages. -/
def validateIn (settings : VerifySettings) : Validation :=
  let found := Validation.empty
    |>.warn (cautionIf (!settings.enforce) .notEnforced)
    |>.warn (cautionIf (!settings.constraints.any (·.disallowed)) .nothingForbidden)
  let found := settings.tokens.foldl (fun found token =>
    found.report (tokenProblem? languages token)) found
  settings.allowedPaths.foldl (fun found pattern =>
    found.report (allowedPathProblem? languages pattern)) found

end Languages

/-- What validation finds in the settings of the verification. -/
def validate (settings : VerifySettings) : Validation := settings.validateIn .standard

end VerifySettings

namespace Config

/-- What validation finds in a configuration, with the patterns read in certain languages. -/
def validateIn (languages : Languages) (config : Config) : Validation :=
  config.sandbox.validate
    |>.report (problemIf (!config.toolchain.manifest.isContained) .uncontainedManifest)
    |>.report (problemIf (isBlankText config.build.package) .emptyPackage)
    |>.report (problemIf (isBlankText config.build.binary) .emptyBinary)
    |>.report (problemIf (!config.install.destination.isContained) .uncontainedDestination)
    |>.merge (config.verify.validateIn languages)

/-- What validation finds in a configuration. -/
def validate (config : Config) : Validation := config.validateIn .standard

end Config

end SealedBuild
