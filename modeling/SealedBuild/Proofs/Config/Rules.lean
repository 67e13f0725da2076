import SealedBuild.Proofs.Config.Loading
import SealedBuild.Proofs.Config.Problems
import SealedBuild.Proofs.Outcome
import SealedBuild.Proofs.Path.Components
import SealedBuild.Proofs.Query.Interpretation

/-!
# The rules of a configuration

Every rule says in words of its own what it asks for, and nothing about the other rules. A
validation goes through the rules in a fixed order and reports each one that is broken, once for
every token and every allowed path, so none can hide behind another one. A configuration is valid if
it keeps all of them, and what it is merely cautioned against plays no part in that.

Main statement: `validation_of_config`, for every configuration, and for every way to load it.
-/

namespace SealedBuild

open Text

variable {config : Config} {listed more : List Rule} {found others : List Problem}

/-- A rule for configurations. There is one for each token and each allowed path. -/
inductive Rule
  | writtenEngine
  | writtenImage
  | absoluteSourceMount
  | absoluteTargetMount
  | differentMounts
  | containedBuildSubdir
  | someLifetime
  | containedManifest
  | writtenPackage
  | writtenBinary
  | containedDestination
  | readableToken (pattern : String)
  | readableAllowedPath (pattern : String)

/-- A path is not empty and goes along ordinary names and dots only. -/
structure Path.GoesDown (path : Path) : Prop where
  written : path.text ≠ ""
  down : ∀ c ∈ path.components, c = .current ∨ ∃ name, c = .name name

theorem Path.isContained_iff {path : Path} : path.isContained = true ↔ path.GoesDown := by
  constructor
  · intro contained
    refine ⟨?_, forall_mem_components_of_isContained contained⟩
    simpa using (Bool.and_eq_true_iff.mp contained).1
  · rintro ⟨written, down⟩
    refine Bool.and_eq_true_iff.mpr ⟨by simpa using written, List.all_eq_true.mpr fun c held => ?_⟩
    obtain rfl | ⟨name, rfl⟩ := down c held
    · rfl
    · rfl

namespace Rule

/-- A configuration keeps a rule. -/
def Kept (config : Config) : Rule → Prop
  | writtenEngine => IsWritten config.sandbox.engine
  | writtenImage => IsWritten config.sandbox.image
  | absoluteSourceMount => config.sandbox.sourceMount.isAbsolute = true
  | absoluteTargetMount => config.sandbox.targetMount.isAbsolute = true
  | differentMounts => config.sandbox.sourceMount.components ≠ config.sandbox.targetMount.components
  | containedBuildSubdir => config.sandbox.buildSubdir.GoesDown
  | someLifetime => 0 < config.sandbox.maxLifetimeSecs
  | containedManifest => config.toolchain.manifest.GoesDown
  | writtenPackage => IsWritten config.build.package
  | writtenBinary => IsWritten config.build.binary
  | containedDestination => config.install.destination.GoesDown
  | readableToken pattern => ∃ regex, Regex.compile pattern = .ok regex
  | readableAllowedPath pattern => ∃ glob, Glob.parse pattern = .ok glob

/-- The problem as which a broken rule is reported. That of a pattern says why it cannot be read. -/
inductive ReportedAs : Rule → Problem → Prop
  | writtenEngine : ReportedAs writtenEngine .emptyEngine
  | writtenImage : ReportedAs writtenImage .emptyImage
  | absoluteSourceMount : ReportedAs absoluteSourceMount .relativeSourceMount
  | absoluteTargetMount : ReportedAs absoluteTargetMount .relativeTargetMount
  | differentMounts : ReportedAs differentMounts .sameMounts
  | containedBuildSubdir : ReportedAs containedBuildSubdir .uncontainedBuildSubdir
  | someLifetime : ReportedAs someLifetime .noLifetime
  | containedManifest : ReportedAs containedManifest .uncontainedManifest
  | writtenPackage : ReportedAs writtenPackage .emptyPackage
  | writtenBinary : ReportedAs writtenBinary .emptyBinary
  | containedDestination : ReportedAs containedDestination .uncontainedDestination
  | readableToken {pattern : String} {error : Regex.Error}
      (refused : Regex.compile pattern = .error error) :
      ReportedAs (readableToken pattern) (.invalidToken pattern error.message)
  | readableAllowedPath {pattern : String} {error : Glob.Error}
      (refused : Glob.parse pattern = .error error) :
      ReportedAs (readableAllowedPath pattern) (.invalidAllowedPath pattern error.message)

end Rule

/-- The problems that rules are reported as, one after the other: none for a rule that is kept, and
one for a rule that is broken. -/
inductive Findings (config : Config) : List Rule → List Problem → Prop
  | nil : Findings config [] []
  | kept {rule : Rule} {more : List Rule} {others : List Problem} (kept : rule.Kept config)
      (later : Findings config more others) : Findings config (rule :: more) others
  | broken {rule : Rule} {problem : Problem} {more : List Rule} {others : List Problem}
      (broken : ¬ rule.Kept config) (reported : rule.ReportedAs problem)
      (later : Findings config more others) :
      Findings config (rule :: more) (problem :: others)

namespace Findings

theorem append (first : Findings config listed found) (second : Findings config more others) :
    Findings config (listed ++ more) (found ++ others) := by
  induction first with
  | nil => exact second
  | kept kept later ih => exact .kept kept ih
  | broken broken reported later ih => exact .broken broken reported ih

/-- Nothing is reported exactly if all rules are kept. -/
theorem eq_nil_iff (reported : Findings config listed found) :
    found = [] ↔ ∀ rule ∈ listed, rule.Kept config := by
  induction reported with
  | nil => simp
  | kept kept later ih => simpa [kept] using ih
  | broken broken reported later ih => simp [broken]

/-- A rule with a single problem is reported where the problem is found. -/
theorem problemIf_append {rule : Rule} {problem : Problem} {condition : Bool}
    (kept : condition = false ↔ rule.Kept config) (reported : rule.ReportedAs problem)
    (later : Findings config more others) :
    Findings config (rule :: more) ((problemIf condition problem).toList ++ others) := by
  cases condition with
  | false => exact .kept (kept.mp rfl) later
  | true => exact .broken (fun fine => Bool.noConfusion (kept.mpr fine)) reported later

/-- Members that are each reported for a rule of their own are reported one after the other. -/
theorem of_filterMap {α : Type} {rule : α → Rule} {problem? : α → Option Problem}
    (reported : ∀ member, Findings config [rule member] (problem? member).toList)
    (members : List α) : Findings config (members.map rule) (members.filterMap problem?) := by
  induction members with
  | nil => exact .nil
  | cons member rest ih =>
      have all := (reported member).append ih
      rw [List.filterMap_cons]
      cases found : problem? member with
      | none => rwa [found] at all
      | some problem => rwa [found] at all

theorem of_token (token : Token) : Findings config [.readableToken token.pattern]
    (VerifySettings.tokenProblem? .standard token).toList := by
  unfold VerifySettings.tokenProblem?
  dsimp only
  cases compiled : Regex.compile token.pattern with
  | ok regex => exact .kept ⟨regex, compiled⟩ .nil
  | error error =>
      refine .broken ?_ (.readableToken compiled) .nil
      rintro ⟨regex, fine⟩
      cases compiled.symm.trans fine

theorem of_allowedPath (pattern : String) : Findings config [.readableAllowedPath pattern]
    (VerifySettings.allowedPathProblem? .standard pattern).toList := by
  unfold VerifySettings.allowedPathProblem?
  dsimp only
  cases parsed : Glob.parse pattern with
  | ok glob => exact .kept ⟨glob, parsed⟩ .nil
  | error error =>
      refine .broken ?_ (.readableAllowedPath parsed) .nil
      rintro ⟨glob, fine⟩
      cases parsed.symm.trans fine

end Findings

namespace Config

/-- The rules for a configuration, in the order in which they are reported. -/
def rules (config : Config) : List Rule :=
  [.writtenEngine, .writtenImage, .absoluteSourceMount, .absoluteTargetMount, .differentMounts,
    .containedBuildSubdir, .someLifetime, .containedManifest, .writtenPackage, .writtenBinary,
    .containedDestination] ++
  (config.verify.tokens.map (.readableToken ·.pattern) ++
    config.verify.allowedPaths.map .readableAllowedPath)

/-- A configuration that can be used. -/
structure Valid (config : Config) : Prop where
  engine : IsWritten config.sandbox.engine
  image : IsWritten config.sandbox.image
  package : IsWritten config.build.package
  binary : IsWritten config.build.binary
  sourceMount : config.sandbox.sourceMount.isAbsolute = true
  targetMount : config.sandbox.targetMount.isAbsolute = true
  mounts : config.sandbox.sourceMount.components ≠ config.sandbox.targetMount.components
  buildSubdir : config.sandbox.buildSubdir.GoesDown
  manifest : config.toolchain.manifest.GoesDown
  destination : config.install.destination.GoesDown
  lifetime : 0 < config.sandbox.maxLifetimeSecs
  tokens : ∀ token ∈ config.verify.tokens, ∃ regex, Regex.compile token.pattern = .ok regex
  allowedPaths : ∀ pattern ∈ config.verify.allowedPaths, ∃ glob, Glob.parse pattern = .ok glob

theorem forall_kept_iff : (∀ rule ∈ config.rules, rule.Kept config) ↔ config.Valid := by
  simp only [rules, List.forall_mem_append, List.forall_mem_cons, List.forall_mem_map,
    List.not_mem_nil, false_imp_iff, implies_true, Rule.Kept]
  constructor
  · rintro ⟨⟨engine, image, sourceMount, targetMount, mounts, buildSubdir, lifetime, manifest,
      package, binary, destination, -⟩, tokens, allowedPaths⟩
    exact ⟨engine, image, package, binary, sourceMount, targetMount, mounts, buildSubdir, manifest,
      destination, lifetime, tokens, allowedPaths⟩
  · rintro ⟨engine, image, package, binary, sourceMount, targetMount, mounts, buildSubdir,
      manifest, destination, lifetime, tokens, allowedPaths⟩
    exact ⟨⟨engine, image, sourceMount, targetMount, mounts, buildSubdir, lifetime, manifest,
      package, binary, destination, trivial⟩, tokens, allowedPaths⟩

/-- The problems of a configuration are what its rules are reported as. -/
theorem reported (config : Config) : Findings config config.rules config.problems := by
  have written {text : String} : isBlankText text = false ↔ IsWritten text := by
    rw [← Bool.not_eq_true, isBlankText_iff, Classical.not_not]
  have absolute {path : Path} : (!path.isAbsolute) = false ↔ path.isAbsolute = true := by
    rw [Bool.not_eq_false']
  have contained {path : Path} : (!path.isContained) = false ↔ path.GoesDown := by
    rw [Bool.not_eq_false', Path.isContained_iff]
  have different {path other : Path} :
      path.sameComponents other = false ↔ path.components ≠ other.components := by
    rw [Path.sameComponents, beq_eq_false_iff_ne]
  have positive {number : Nat} : (number == 0) = false ↔ 0 < number := by
    rw [beq_eq_false_iff_ne, Nat.pos_iff_ne_zero]
  rw [problems, problemsIn, SandboxSettings.problems, VerifySettings.problemsIn]
  simp only [List.append_assoc]
  exact .problemIf_append written .writtenEngine <|
    .problemIf_append written .writtenImage <|
    .problemIf_append absolute .absoluteSourceMount <|
    .problemIf_append absolute .absoluteTargetMount <|
    .problemIf_append different .differentMounts <|
    .problemIf_append contained .containedBuildSubdir <|
    .problemIf_append positive .someLifetime <|
    .problemIf_append contained .containedManifest <|
    .problemIf_append written .writtenPackage <|
    .problemIf_append written .writtenBinary <|
    .problemIf_append contained .containedDestination <|
    (Findings.of_filterMap .of_token _).append (.of_filterMap .of_allowedPath _)

theorem errors_eq_nil_iff : config.validate.errors = [] ↔ config.Valid := by
  rw [← forall_kept_iff, ← config.reported.eq_nil_iff, errors_validate, List.map_eq_nil_iff]

theorem isValid_iff : config.validate.isValid = true ↔ config.Valid := by
  rw [Validation.isValid, List.isEmpty_iff, errors_eq_nil_iff]

end Config

/-- Validation reports every rule that is broken, in order and once for each, and nothing else. A
configuration is valid if it keeps all rules, and this alone decides on the result, whatever the
warnings are, and on whether the configuration is handed out when it is loaded. If it is not valid,
all that was found is said. -/
theorem validation_of_config (config : Config) :
    Findings config config.rules config.problems ∧
    config.validate.errors = config.problems.map (·.message) ∧
    (config.validate.isValid = true ↔ config.Valid) ∧
    (∀ warnings,
      (config.Valid → Validation.result ⟨config.validate.errors, warnings⟩ = .ok warnings) ∧
      (¬ config.Valid → Validation.result ⟨config.validate.errors, warnings⟩ =
        .error (.config ("; ".intercalate config.validate.errors)))) ∧
    ∀ files path?, Config.Chosen files path? config →
      (config.Valid → Config.load files path? = .ok config) ∧
      (¬ config.Valid → Config.load files path? =
        .error (.config ("; ".intercalate config.validate.errors))) := by
  refine ⟨config.reported, config.errors_validate, Config.isValid_iff, fun warnings => ?_,
    fun files path? chosen => ?_⟩
  · rw [← Config.errors_eq_nil_iff]
    exact ⟨Validation.result_of_nil warnings, Validation.result_of_ne_nil warnings⟩
  · rw [Config.load_of_chosen chosen, ← Config.isValid_iff]
    exact ⟨fun valid => Config.checked_ok_iff.mpr ⟨valid, rfl⟩, Config.checked_of_not_isValid⟩

namespace Sample

/-- A configuration that breaks four rules. -/
def careless : Config where
  sandbox := { engine := " ", targetMount := ⟨"platform"⟩ }
  install := { destination := ⟨"../codex"⟩ }
  verify := { allowedPaths := ["docs/***"] }

/-- The text of a file with this configuration. -/
def carelessText : String :=
  "[sandbox]\nengine = ' '\ntarget_mount = 'platform'\n" ++
  "[install]\ndestination = '../codex'\n[verify]\nallowed_paths = ['docs/***']\n"

def carelessFiles : FileSystem where
  entries := [(["build.toml"], .file 0o644 (Bytes.ofString carelessText))]
  workingDirectory := []

end Sample

theorem validation_of_careless_config :
    Config.load Sample.carelessFiles (some ⟨"/build.toml"⟩) =
      .error (.config ("sandbox.engine cannot be empty; " ++
        "sandbox.target_mount must be an absolute path; " ++
        "install.destination must be a relative path inside the target tree; " ++
        "invalid allowed path 'docs/***': Pattern syntax error near position 7: " ++
        "wildcards are either regular `*` or recursive `**`")) := by
  have content : Sample.carelessFiles.readText ⟨"/build.toml"⟩ = .ok Sample.carelessText :=
    eq_ok_of_toOption (by decide +kernel)
  have parsed : Config.parse Sample.carelessText = .ok Sample.careless :=
    eq_ok_of_toOption (by decide +kernel)
  have blank : isBlankText Sample.careless.sandbox.engine = true := by decide
  have invalid : ¬ Sample.careless.Valid := fun valid => isBlankText_iff.mp blank valid.engine
  obtain ⟨-, -, -, -, loads⟩ := validation_of_config Sample.careless
  rw [(loads _ _ (.file content parsed)).2 invalid]
  decide +kernel

end SealedBuild
