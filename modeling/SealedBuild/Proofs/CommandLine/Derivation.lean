import SealedBuild.Proofs.CommandLine.ExitStatus
import SealedBuild.Proofs.Config.Loading
import SealedBuild.Proofs.Config.Problems
import SealedBuild.Proofs.Request.Roots

/-!
# What a task is derived from

A task is derived from arguments only if they name a target, both roots are existing directories
with canonical paths, and the configuration that is asked for can be read and has no problem. An
engine that the arguments name takes the place of the configured one only after that, and is not
checked any more.

Main statements: `Task.ofArguments_ok_iff`, which says what a task is derived from, and
`problems_of_task`, which says what validation finds in the configuration of a task.
-/

namespace SealedBuild

open Text

variable {failure : Failure}

namespace Config

variable {config : Config}

/-- The configuration with another engine, if one is given. -/
def withEngine (config : Config) (engine? : Option String) : Config :=
  { config with
    sandbox := { config.sandbox with engine := engine?.getD config.sandbox.engine } }

/-- Another engine adds a problem if it is blank, and no other one. -/
theorem problems_withEngine (valid : config.validate.isValid = true) (engine? : Option String) :
    (config.withEngine engine?).problems =
      (problemIf (engine?.any isBlankText) .emptyEngine).toList := by
  have none_found : config.problems = [] := isValid_iff_problems_eq_nil.mp valid
  cases engine? with
  | none => exact none_found
  | some engine =>
      simp only [problems, problemsIn, SandboxSettings.problems, List.append_eq_nil_iff]
        at none_found ⊢
      simp [withEngine, none_found]

end Config

namespace CommandLine

variable {σ : Type} {arguments : Arguments} {files : FileSystem} {program : Path} {task : Task}

/-- The task that is derived from arguments that name a target, a source root and a
configuration. -/
structure Task.Derived (arguments : Arguments) (files : FileSystem) (program : Path)
    (target source : Path) (config : Config) (task : Task) : Prop where
  target_eq : arguments.target = some target
  source_eq : Request.resolveSourceRoot files arguments.sourceRoot program = .ok source
  source_directory : files.isDirectory source = true
  sourceRoot_eq : files.canonical source = .ok task.request.sourceRoot
  target_directory : files.isDirectory target = true
  targetRoot_eq : files.canonical target = .ok task.request.targetRoot
  chosen : Config.Chosen files arguments.config config
  valid : config.validate.isValid = true
  config_eq : task.config = config.withEngine arguments.engine
  mode_eq : task.mode = if arguments.skipVerify then .skip else .ofConfig task.config
  verifyOnly_eq : task.verifyOnly = arguments.verifyOnly
  json_eq : task.json = arguments.json

/-- A task is derived from everything that it depends on, and all of that has been checked. -/
theorem Task.ofArguments_ok_iff : Task.ofArguments arguments files program = .ok task ↔
    ∃ target source config, Task.Derived arguments files program target source config task := by
  constructor
  · intro given
    obtain ⟨target, required, given⟩ := ok_of_bind given
    obtain ⟨source, source_eq, given⟩ := ok_of_bind given
    obtain ⟨request, made, given⟩ := ok_of_bind given
    obtain ⟨config, loaded, given⟩ := ok_of_bind given
    obtain rfl := Except.ok.inj given
    obtain ⟨target', required', made⟩ := ok_of_bind made
    obtain ⟨sourceRoot, source_exists, made⟩ := ok_of_bind made
    obtain ⟨targetRoot, target_exists, made⟩ := ok_of_bind made
    obtain rfl := Except.ok.inj made
    obtain rfl : target = target' := Except.ok.inj required'
    obtain ⟨source_directory, sourceRoot_eq⟩ := Request.existingDirectory_ok_iff.mp source_exists
    obtain ⟨target_directory, targetRoot_eq⟩ := Request.existingDirectory_ok_iff.mp target_exists
    obtain ⟨chosen, valid⟩ := Config.load_ok_iff.mp loaded
    have target_eq : arguments.target = some target := by
      unfold Request.requireTarget at required
      split at required
      · rename_i given
        rw [given, Except.ok.inj required]
      · cases required
    exact ⟨target, source, config, target_eq, source_eq, source_directory, sourceRoot_eq,
      target_directory, targetRoot_eq, chosen, valid, rfl, rfl, rfl, rfl⟩
  · rintro ⟨target, source, config, derived⟩
    have source_exists := Request.existingDirectory_ok_iff.mpr
      ⟨derived.source_directory, derived.sourceRoot_eq⟩
    have target_exists := Request.existingDirectory_ok_iff.mpr
      ⟨derived.target_directory, derived.targetRoot_eq⟩
    have made : Request.make files (some target) source = .ok task.request := by
      rw [Request.make, Request.requireTarget]
      simp only [bind, Except.bind, source_exists, target_exists]
      rfl
    have loaded := Config.load_ok_iff.mpr ⟨derived.chosen, derived.valid⟩
    have required : Request.requireTarget arguments.target = .ok target := by
      rw [derived.target_eq]
      rfl
    obtain ⟨request, config', mode, verifyOnly, json⟩ := task
    obtain rfl : config' = _ := derived.config_eq
    obtain rfl : mode = if arguments.skipVerify then .skip
        else .ofConfig (config.withEngine arguments.engine) := derived.mode_eq
    obtain rfl : verifyOnly = _ := derived.verifyOnly_eq
    obtain rfl : json = _ := derived.json_eq
    simp only [ofArguments, bind, Except.bind, required, derived.source_eq, made, loaded]
    rfl

/-- Validation finds nothing in the configuration that a pipeline is given, unless the arguments
name a blank engine. That is the only thing it can find then, and it has not been looked for. -/
theorem problems_of_task (given : Task.ofArguments arguments files program = .ok task)
    (sandbox : σ) :
    let handed := (task.world files sandbox).pipeline.config
    (∃ config, Config.Chosen files arguments.config config ∧ config.validate.isValid = true ∧
      handed = config.withEngine arguments.engine) ∧
    handed.validate.errors =
      (if arguments.engine.any isBlankText then [Problem.emptyEngine.message] else []) ∧
    (handed.validate.isValid = true ↔
      ∀ engine, arguments.engine = some engine → isBlankText engine = false) := by
  obtain ⟨target, source, config, derived⟩ := Task.ofArguments_ok_iff.mp given
  intro handed
  have handed_eq : handed = config.withEngine arguments.engine := derived.config_eq
  have errors_eq : handed.validate.errors =
      if arguments.engine.any isBlankText then [Problem.emptyEngine.message] else [] := by
    rw [handed_eq, Config.errors_validate, Config.problems_withEngine derived.valid, problemIf]
    split <;> rfl
  refine ⟨⟨config, derived.chosen, derived.valid, handed_eq⟩, errors_eq, ?_⟩
  rw [Validation.isValid, errors_eq]
  cases arguments.engine <;> simp

end CommandLine

namespace Sample

/-- The arguments of a build with another engine. -/
def buildWith (engine : String) : CommandLine.Arguments :=
  ⟨some ⟨"/target"⟩, some ⟨"/source"⟩, none, some engine, false, false, false⟩

/-- The two trees, with a configuration that names a blank engine. -/
def blankEngine : FileSystem :=
  files.applyAll [.file ⟨"/build.toml"⟩ 0o644 "[sandbox]\nengine = \" \"\n".toUTF8.toList]

end Sample

namespace CommandLine

/-- A build with another engine is given a configuration without problems. -/
theorem problems_of_other_engine : ∃ task,
    Task.ofArguments (Sample.buildWith "podman") Sample.files ⟨""⟩ = .ok task ∧
      (task.world Sample.files ()).pipeline.config.validate.errors = [] := by
  cases given : Task.ofArguments (Sample.buildWith "podman") Sample.files ⟨""⟩ with
  | error failure =>
      have accepted : (Task.ofArguments (Sample.buildWith "podman") Sample.files ⟨""⟩).toBool =
          true := by decide +kernel
      rw [given] at accepted
      cases accepted
  | ok task =>
      obtain ⟨-, errors_eq, -⟩ := problems_of_task given ()
      exact ⟨task, rfl, errors_eq.trans (by decide +kernel)⟩

/-- A blank engine is refused if a configuration file names it, but an argument or a variable of the
environment hands it to the pipeline. -/
theorem blank_engine_unchecked :
    Config.load Sample.blankEngine (some ⟨"/build.toml"⟩) =
        .error (.config "sandbox.engine cannot be empty") ∧
      Arguments.parse ["/target", "--source-root", "/source", "--engine", ""] (fun _ => none) =
        .ok (Sample.buildWith "") ∧
      Arguments.parse ["/target", "--source-root", "/source"]
          (fun name => if name = "CODEX_BUILDER_ENGINE" then some " " else none) =
        .ok (Sample.buildWith " ") ∧
      ∀ engine ∈ ["", " "],
        (Task.ofArguments (Sample.buildWith engine) Sample.files ⟨""⟩).map
            (fun task => (task.world Sample.files ()).pipeline.config.validate.errors) =
          .ok ["sandbox.engine cannot be empty"] := by
  refine ⟨?_, ?_, ?_, ?_⟩
  · decide +kernel
  · decide +kernel
  · decide +kernel
  · decide +kernel

end CommandLine

end SealedBuild
