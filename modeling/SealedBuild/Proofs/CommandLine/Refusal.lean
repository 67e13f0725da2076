import SealedBuild.Proofs.CommandLine.Verdict

/-!
# Refusals

Whatever can be checked without a container is checked before one is asked for. A command line that
is declined calls no engine and leaves the file system as it is, however many faults it has, and an
engine is called for every other one.

Main statement: `idle_iff_declined`, for every command line in every environment.
-/

namespace SealedBuild

namespace CommandLine

variable {ε : Type} {engine : Engine ε} {name : String} {args : List String}
  {environment : String → Option String} {program : Path} {files left : FileSystem} {state : ε}
  {final : ContainerState ε} {output : Output} {arguments : Arguments} {task : Task}
  {failure : Failure} {code : Int}

/-- What can be wrong with accepted arguments. Several faults may come together. -/
inductive Fault (arguments : Arguments) (files : FileSystem) (program : Path) : Prop
  | noTarget (omitted : arguments.target = none)
  /-- There is no source root, or it is not an existing directory. -/
  | noSourceDirectory
      (missing : ∀ source, Request.resolveSourceRoot files arguments.sourceRoot program =
        .ok source → files.isDirectory source = false)
  | noTargetDirectory {target : Path} (given : arguments.target = some target)
      (missing : files.isDirectory target = false)
  | untraceableSource {source : Path} {error : OsError}
      (resolved : Request.resolveSourceRoot files arguments.sourceRoot program = .ok source)
      (refused : files.canonical source = .error error)
  | untraceableTarget {target : Path} {error : OsError} (given : arguments.target = some target)
      (refused : files.canonical target = .error error)
  | unreadConfig {path : Path} {error : OsError} (asked : arguments.config = some path)
      (refused : files.readText path = .error error)
  | unparsedConfig {path : Path} {text : String} {error : Toml.Error}
      (asked : arguments.config = some path) (content : files.readText path = .ok text)
      (refused : Config.parse text = .error error)
  | invalidConfig {config : Config} (chosen : Config.Chosen files arguments.config config)
      (refused : config.validate.isValid = false)
  | unloadedToolchain {source root : Path} {config : Config} {failure : Failure}
      (resolved : Request.resolveSourceRoot files arguments.sourceRoot program = .ok source)
      (canonical : files.canonical source = .ok root)
      (chosen : Config.Chosen files arguments.config config)
      (refused : Toolchain.load files root config.toolchain.manifest = .error failure)

namespace Fault

/-- Arguments that stand for no task have a fault. -/
theorem of_refused (refused : Task.ofArguments arguments files program = .error failure) :
    Fault arguments files program := by
  by_contra faultless
  obtain ⟨target, given⟩ : ∃ target, arguments.target = some target := by
    cases given : arguments.target with
    | none => exact absurd (.noTarget given) faultless
    | some target => exact ⟨target, rfl⟩
  obtain ⟨source, resolved, source_directory⟩ : ∃ source,
      Request.resolveSourceRoot files arguments.sourceRoot program = .ok source ∧
        files.isDirectory source = true := by
    by_contra none
    refine faultless (.noSourceDirectory fun source resolved => Bool.eq_false_iff.mpr ?_)
    exact fun directory => none ⟨source, resolved, directory⟩
  have target_directory : files.isDirectory target = true := by
    by_contra missing
    exact faultless (.noTargetDirectory given (Bool.eq_false_iff.mpr missing))
  obtain ⟨config, chosen⟩ : ∃ config, Config.Chosen files arguments.config config := by
    cases asked : arguments.config with
    | none => exact ⟨_, .builtIn⟩
    | some path =>
        cases content : files.readText path with
        | error error => exact absurd (.unreadConfig asked content) faultless
        | ok text =>
            cases parsed : Config.parse text with
            | error error => exact absurd (.unparsedConfig asked content parsed) faultless
            | ok config => exact ⟨config, .file content parsed⟩
  have valid : config.validate.isValid = true := by
    by_contra refused
    exact faultless (.invalidConfig chosen (Bool.eq_false_iff.mpr refused))
  obtain ⟨sourceRoot, sourceRoot_eq⟩ : ∃ root, files.canonical source = .ok root := by
    cases traced : files.canonical source with
    | error error => exact absurd (.untraceableSource resolved traced) faultless
    | ok root => exact ⟨root, rfl⟩
  obtain ⟨targetRoot, targetRoot_eq⟩ : ∃ root, files.canonical target = .ok root := by
    cases traced : files.canonical target with
    | error error => exact absurd (.untraceableTarget given traced) faultless
    | ok root => exact ⟨root, rfl⟩
  have derived : Task.Derived arguments files program target source config
      ⟨⟨sourceRoot, targetRoot⟩, config.withEngine arguments.engine,
        if arguments.skipVerify then .skip else .ofConfig (config.withEngine arguments.engine),
        arguments.verifyOnly, arguments.json⟩ :=
    ⟨given, resolved, source_directory, sourceRoot_eq, target_directory, targetRoot_eq, chosen,
      valid, rfl, rfl, rfl, rfl⟩
  have accepted := Task.ofArguments_ok_iff.mpr ⟨target, source, config, derived⟩
  exact absurd (refused.symm.trans accepted) (by simp)

/-- Arguments that stand for a task have at most one fault: the toolchain of the task cannot be
loaded. -/
theorem iff_unloaded (given : Task.ofArguments arguments files program = .ok task) :
    Fault arguments files program ↔ ∃ failure,
      Toolchain.load files task.request.sourceRoot task.config.toolchain.manifest =
        .error failure := by
  obtain ⟨target, source, config, derived⟩ := Task.ofArguments_ok_iff.mp given
  have manifest_eq : task.config.toolchain.manifest = config.toolchain.manifest := by
    rw [derived.config_eq]
    rfl
  rw [manifest_eq]
  constructor
  · intro fault
    cases fault with
    | noTarget omitted => exact absurd (derived.target_eq.symm.trans omitted) (by simp)
    | noSourceDirectory missing =>
        have absent := missing source derived.source_eq
        exact absurd (derived.source_directory.symm.trans absent) (by simp)
    | noTargetDirectory given missing =>
        obtain rfl := Option.some.inj (derived.target_eq.symm.trans given)
        exact absurd (derived.target_directory.symm.trans missing) (by simp)
    | untraceableSource resolved refused =>
        obtain rfl := Except.ok.inj (derived.source_eq.symm.trans resolved)
        exact absurd (derived.sourceRoot_eq.symm.trans refused) (by simp)
    | untraceableTarget given refused =>
        obtain rfl := Option.some.inj (derived.target_eq.symm.trans given)
        exact absurd (derived.targetRoot_eq.symm.trans refused) (by simp)
    | unreadConfig asked refused =>
        have chosen := derived.chosen
        rw [asked] at chosen
        cases chosen with
        | file content parsed => exact absurd (content.symm.trans refused) (by simp)
    | unparsedConfig asked content refused =>
        have chosen := derived.chosen
        rw [asked] at chosen
        cases chosen with
        | file content' parsed =>
            obtain rfl := Except.ok.inj (content.symm.trans content')
            exact absurd (parsed.symm.trans refused) (by simp)
    | invalidConfig chosen refused =>
        obtain rfl := derived.chosen.unique chosen
        exact absurd (derived.valid.symm.trans refused) (by simp)
    | unloadedToolchain resolved canonical chosen refused =>
        obtain rfl := Except.ok.inj (derived.source_eq.symm.trans resolved)
        obtain rfl := Except.ok.inj (derived.sourceRoot_eq.symm.trans canonical)
        obtain rfl := derived.chosen.unique chosen
        exact ⟨_, refused⟩
  · rintro ⟨failure, refused⟩
    exact .unloadedToolchain derived.source_eq derived.sourceRoot_eq derived.chosen refused

end Fault

/-- A command line is declined, and the program exits with a code. -/
inductive Declined (args : List String) (environment : String → Option String) (program : Path)
    (files : FileSystem) : Int → Prop
  | help (asked : Arguments.parse args environment = .error .help) :
      Declined args environment program files 0
  | version (asked : Arguments.parse args environment = .error .version) :
      Declined args environment program files 0
  | refused {error : UsageError}
      (given : Arguments.parse args environment = .error (.refused error)) :
      Declined args environment program files 1
  | faulty {arguments : Arguments} (parsed : Arguments.parse args environment = .ok arguments)
      (fault : Fault arguments files program) : Declined args environment program files 1

/-- Arguments that are not accepted are declined with the code that the program exits with. -/
theorem declined_iff_of_stop {stop : Stop}
    (stopped : Arguments.parse args environment = .error stop) :
    Declined args environment program files code ↔
      code = (Output.ofStop environment stop).code := by
  constructor
  · intro declined
    cases declined with
    | help asked =>
        obtain rfl := Except.error.inj (stopped.symm.trans asked)
        rfl
    | version asked =>
        obtain rfl := Except.error.inj (stopped.symm.trans asked)
        rfl
    | refused given =>
        obtain rfl := Except.error.inj (stopped.symm.trans given)
        rfl
    | faulty parsed fault => exact absurd (stopped.symm.trans parsed) (by simp)
  · rintro rfl
    cases stop with
    | help => exact .help stopped
    | version => exact .version stopped
    | refused error => exact .refused stopped

/-- Accepted arguments are declined if they have a fault. -/
theorem declined_iff_of_ok (parsed : Arguments.parse args environment = .ok arguments) :
    Declined args environment program files code ↔ code = 1 ∧ Fault arguments files program := by
  constructor
  · intro declined
    cases declined with
    | help asked => exact absurd (parsed.symm.trans asked) (by simp)
    | version asked => exact absurd (parsed.symm.trans asked) (by simp)
    | refused given => exact absurd (parsed.symm.trans given) (by simp)
    | faulty parsed' fault =>
        obtain rfl := Except.ok.inj (parsed.symm.trans parsed')
        exact ⟨rfl, fault⟩
  · rintro ⟨rfl, fault⟩
    exact .faulty parsed fault

/-- The call of a task whose toolchain cannot be loaded fails for that, and leaves everything as it
is. -/
theorem idle_of_unloaded {executed : List Step} {ending : Ending (Artifact ⊕ Report)}
    {outside : FileSystem × ContainerState ε} {provider : Provider (ContainerState ε)}
    (told : Account provider (task.world files (.initial state)) task.call executed ending outside)
    (refused : Toolchain.load files task.request.sourceRoot task.config.toolchain.manifest =
      .error failure) : ending = .failed failure ∧ outside = (files, .initial state) := by
  rw [← task.call_request] at refused
  have unready {toolchain : Toolchain} (loaded : Toolchain.load files task.call.request.sourceRoot
      task.config.toolchain.manifest = .ok toolchain) : False :=
    absurd (refused.symm.trans loaded) (by simp)
  cases told with
  | finished ended => cases ended
  | unloaded running refused' =>
      obtain rfl := Except.error.inj (refused.symm.trans refused')
      exact ⟨rfl, rfl⟩
  | unstarted running loaded refused => exact (unready loaded).elim
  | stuck running loaded hangs => exact (unready loaded).elim
  | broken running ready course stops => exact (unready ready.loaded).elim
  | reported verifies running ready course => exact (unready ready.loaded).elim
  | installed builds running ready course done => exact (unready ready.loaded).elim
  | uninstalled builds running ready course refused => exact (unready ready.loaded).elim

/-- A command line that is declined exits with its code, makes no call of the engine, and leaves the
file system as it is. Every other one calls the engine. -/
theorem idle_iff_declined
    (ran : runWithContainers engine name args environment program files state =
      (output, left, final)) :
    (∀ code, Declined args environment program files code →
      output.code = code ∧ left = files ∧ final.calls = [] ∧ final.engine = state) ∧
    (final.calls = [] ↔ ∃ code, Declined args environment program files code) := by
  cases parsed : Arguments.parse args environment with
  | error stop =>
      obtain rfl := output_of_stop parsed ran
      obtain ⟨rfl, rfl⟩ := runWithContainers_of_stop parsed ran
      refine ⟨fun code declined => ?_, fun _ => ⟨_, (declined_iff_of_stop parsed).mpr rfl⟩,
        fun _ => rfl⟩
      exact ⟨((declined_iff_of_stop parsed).mp declined).symm, rfl, rfl, rfl⟩
  | ok arguments =>
      simp only [declined_iff_of_ok parsed]
      cases given : Task.ofArguments arguments files program with
      | error failure =>
          obtain ⟨rfl, rfl, rfl⟩ := runWithContainers_of_refused parsed given ran
          refine ⟨?_, fun _ => ⟨1, rfl, .of_refused given⟩, fun _ => rfl⟩
          rintro code ⟨rfl, -⟩
          exact ⟨(Task.isEarly_of_error given).exitCode, rfl, rfl, rfl⟩
      | ok task =>
          obtain ⟨printed, executed, told⟩ := runWithContainers_of_task parsed given ran
          simp only [Fault.iff_unloaded given]
          cases loaded : Toolchain.load files task.request.sourceRoot
              task.config.toolchain.manifest with
          | error failure =>
              obtain ⟨ended, left_eq⟩ := idle_of_unloaded told loaded
              obtain ⟨rfl, rfl⟩ := Prod.mk.inj left_eq
              obtain ⟨reason, rfl⟩ := Toolchain.load_error loaded
              rw [ended] at printed
              refine ⟨?_, fun _ => ⟨1, rfl, _, rfl⟩, fun _ => rfl⟩
              rintro code ⟨rfl, -⟩
              exact ⟨by rw [printed]; rfl, rfl, rfl, rfl⟩
          | ok toolchain =>
              rw [← task.call_request] at loaded
              have called := told.calls_ne_nil rfl loaded
              refine ⟨?_, fun none => absurd none called, ?_⟩
              · rintro code ⟨-, failure, refused⟩
                cases refused
              · rintro ⟨code, -, failure, refused⟩
                cases refused

/-- A build whose configuration file does not exist fails before the engine is called. -/
theorem idle_of_missing_config :
    ∃ output left final,
      runWithContainers Sample.maker "box"
        ["/target", "--source-root", "/source", "--config", "/missing.toml"]
        (fun _ => none) ⟨""⟩ Sample.files () = (output, left, final) ∧
      output.code = 1 ∧ left = Sample.files ∧ final.calls = [] := by
  rcases ran : runWithContainers Sample.maker "box"
    ["/target", "--source-root", "/source", "--config", "/missing.toml"] (fun _ => none) ⟨""⟩
    Sample.files () with ⟨output, left, final⟩
  have parsed : Arguments.parse
      ["/target", "--source-root", "/source", "--config", "/missing.toml"] (fun _ => none) = .ok
        ⟨some ⟨"/target"⟩, some ⟨"/source"⟩, some ⟨"/missing.toml"⟩, none, false, false,
          false⟩ := by
    decide +kernel
  have unread : Sample.files.readText ⟨"/missing.toml"⟩ = .error .notFound := by decide +kernel
  have declined : Declined _ _ ⟨""⟩ Sample.files 1 :=
    .faulty parsed (.unreadConfig rfl unread)
  obtain ⟨code_eq, left_eq, calls_eq, -⟩ := (idle_iff_declined ran).1 1 declined
  exact ⟨output, left, final, rfl, code_eq, left_eq, calls_eq⟩

end CommandLine

end SealedBuild
