import SealedBuild.Proofs.CommandLine.Derivation
import SealedBuild.Proofs.Json.Serialization
import SealedBuild.Proofs.Pipeline.Prediction
import SealedBuild.Proofs.Query.Absence
import SealedBuild.Proofs.Scan.Occurrences

/-!
# The verdict of the program

The exit status, what is printed, and what has changed in the file system agree on every path. A
build exits with zero exactly if it has installed its binary, and then says where; otherwise it
prints nothing. A verification prints its report exactly if it has one that can be printed, exits
with zero exactly if this report has no violations, and never executes the build or installs
anything. A report cannot be printed if it is to be a document and has a path that is not text.

Main statement: `verdict_of_run`, for every accepted command line in every environment.
-/

namespace SealedBuild

variable {ε : Type} {engine : Engine ε} {command name : String} {session : Session}
  {config : Config} {toolchain : Toolchain} {request : Request} {mode : VerifyMode}

theorem Ending.map_eq_value_iff {α β : Type} {ending : Ending α} {form : α → β} {result : β} :
    ending.map form = .value result ↔ ∃ value, ending = .value value ∧ form value = result := by
  cases ending <;> simp [map]

/-- An install that succeeds changes one entry. -/
theorem installed_of_ok {files after : FileSystem} {artifact : Artifact}
    (done : installArtifact files (config.artifactSource request.sourceRoot)
      (config.artifactDestination request.targetRoot) = (.ok artifact, after)) :
    Installed config request files after artifact := by
  have install_eq : Pipeline.install config request (⟨.new config, files, (), []⟩ : World Unit) =
      (.value artifact, ⟨(Pipeline.new config).advance .installed, after, (), []⟩) := by
    unfold Pipeline.install
    dsimp only
    rw [done]
  have installed := (Pipeline.install_files config request
    (⟨.new config, files, (), []⟩ : World Unit)).1 artifact
  rw [install_eq] at installed
  exact installed rfl

/-- The build is no step of a verification, whatever toolchain it is meant to use. -/
theorem buildStep_not_mem (other : Toolchain) :
    config.buildStep other ∉ ((Call.verifyOnly request).plan config mode toolchain).steps := by
  intro held
  rw [Call.plan, Plan.steps_append, List.mem_append] at held
  rcases held with prepared | asked
  · rw [Call.preparation, Config.steps_provisioning, Toolchain.provisionSteps] at prepared
    simp only [Toolchain.packageSteps, Toolchain.installStep, Toolchain.probeStep,
      Config.buildStep] at prepared
    split at prepared <;> simp at prepared
  · rw [Call.stance, Config.inspection, if_neg (by simp), Config.steps_questions,
      Config.queryPlan] at asked
    obtain ⟨constraint, -, same⟩ := List.mem_map.mp asked
    simp [Config.dependencyQuery, Config.buildStep] at same

/-- A verification does not make the call that executes the build. -/
theorem Container.Life.unbuilt {executed : List Step} {made : List EngineCall}
    (life : Container.Life command name session executed made)
    (along : executed <+: ((Call.verifyOnly request).plan config mode toolchain).steps)
    (other : Toolchain) {call : EngineCall} (held : call ∈ made) :
    call.args ≠ Container.execArgs name session (config.buildStep other) := by
  intro same
  rcases life.args_of_mem held with args_eq | ⟨step, given, args_eq⟩ | args_eq
  · rw [args_eq] at same
    simp [Container.runArgs, Container.execArgs] at same
  · rw [args_eq] at same
    obtain rfl := Container.execArgs_injective same
    exact buildStep_not_mem other (along.subset given)
  · rw [args_eq] at same
    simp [Container.removeArgs, Container.execArgs] at same

namespace CommandLine

variable {args : List String} {environment : String → Option String} {program : Path}
  {files left : FileSystem} {state : ε} {final : ContainerState ε} {output : Output}
  {arguments : Arguments} {task : Task} {ending : Ending (Artifact ⊕ Report)}

namespace Task

section Outcomes

variable (task : Task) (engine : Engine ε) (name : String) (files : FileSystem) (state : ε)

/-- The full run of a task ends with an artifact. -/
def Builds (artifact : Artifact) : Prop :=
  (Pipeline.run (ContainerState.provider engine task.config.sandbox.engine name) task.request
    (task.world files (.initial state))).1 = .value artifact

/-- The verification of a task ends with a report. -/
def Reports (report : Report) : Prop :=
  (Pipeline.verifyOnly (ContainerState.provider engine task.config.sandbox.engine name)
    task.request (task.world files (.initial state))).1 = .value report

/-- What a task prints when its binary has been installed. -/
def installedText : String :=
  "installed " ++ task.config.build.binary ++ " to " ++
    (task.config.artifactDestination task.request.targetRoot).text ++ "\n"

end Outcomes

/-- A task does what its arguments say. -/
theorem switches_of_arguments (given : Task.ofArguments arguments files program = .ok task) :
    task.verifyOnly = arguments.verifyOnly ∧ task.json = arguments.json := by
  obtain ⟨target, source, config, derived⟩ := Task.ofArguments_ok_iff.mp given
  exact ⟨derived.verifyOnly_eq, derived.json_eq⟩

/-- The call of a task that builds ends as its full run does. -/
theorem ending_of_build (builds : task.verifyOnly = false) :
    task.ending engine name files state =
      (Pipeline.run (ContainerState.provider engine task.config.sandbox.engine name) task.request
        (task.world files (.initial state))).1.map .inl := by
  unfold ending call
  rw [if_neg (by simp [builds]), Call.perform]

/-- The call of a task that only verifies ends as its verification does. -/
theorem ending_of_verification (verifies : task.verifyOnly = true) :
    task.ending engine name files state =
      (Pipeline.verifyOnly (ContainerState.provider engine task.config.sandbox.engine name)
        task.request (task.world files (.initial state))).1.map .inr := by
  unfold ending call
  rw [if_pos verifies, Call.perform]

end Task

/-- A report can be printed: as lines in any case, and as a document if all paths are text. -/
def Printable (json : Bool) (report : Report) : Prop :=
  json = true → ∀ found ∈ report.tokens, found.path.IsText

section Printing

variable {json : Bool} {report : Report} {text : String}

theorem exists_reportText_iff :
    (∃ text, reportText json report = .ok text) ↔ Printable json report := by
  unfold reportText Printable
  rw [← Report.exists_toJson?_iff]
  cases json with
  | false => simp
  | true => cases report.toJson? <;> simp

/-- What a verification prints of a report does not depend on the violations. -/
theorem verifyOutput_stdout (printed : reportText json report = .ok text) :
    (verifyOutput json (.value report)).stdout = text := by
  rw [verifyOutput, printed]
  dsimp only
  split <;> rfl

/-- A verification with a report that it prints exits with one if there are violations, and else
with zero. -/
theorem verifyOutput_status (printed : reportText json report = .ok text) :
    (verifyOutput json (.value report)).status = if report.violations = [] then 0 else 1 := by
  rw [verifyOutput, printed]
  unfold Report.passed
  dsimp only
  cases report.violations with
  | nil => rfl
  | cons first rest => rfl

/-- A report is not printed as nothing. -/
theorem reportText_ne_empty (printed : reportText json report = .ok text) : text ≠ "" := by
  rintro rfl
  unfold reportText summary at printed
  split at printed
  · split at printed
    · simp at printed
    · cases printed
  · simp at printed

/-- A verification with a report that it cannot print prints nothing and exits with one. -/
theorem verifyOutput_of_not_printable (unprintable : ¬ Printable json report) :
    (verifyOutput json (.value report)).stdout = "" ∧
      (verifyOutput json (.value report)).status = 1 := by
  cases printed : reportText json report with
  | ok text => exact absurd (exists_reportText_iff.mp ⟨text, printed⟩) unprintable
  | error failure =>
    have config : ∃ text, failure = .config text := by
      unfold reportText at printed
      split at printed
      · split at printed
        · cases printed
        · exact ⟨_, (Except.error.inj printed).symm⟩
      · cases printed
    obtain ⟨text, rfl⟩ := config
    rw [verifyOutput, printed]
    exact ⟨rfl, rfl⟩

end Printing

section Verdicts

variable (engine : Engine ε) (name : String) (arguments : Arguments) (program : Path)
  (files : FileSystem) (state : ε) (output : Output) (left : FileSystem)
  (final : ContainerState ε)

/-- The verdict on a build: its exit status, what it prints, and what it leaves behind. -/
structure BuildVerdict : Prop where
  status_iff : output.status = 0 ↔ ∃ task artifact,
    Task.ofArguments arguments files program = .ok task ∧
      task.Builds engine name files state artifact
  stdout_iff : output.status = 0 ↔ ∃ task,
    Task.ofArguments arguments files program = .ok task ∧ output.stdout = task.installedText
  silent : output.status ≠ 0 → output.stdout = ""
  /-- After the first attempt to remove the container, the install changes one entry. Only a second
  attempt comes after that, and without one the file system is as the install has left it. -/
  installed : ∀ task artifact, Task.ofArguments arguments files program = .ok task →
    task.Builds engine name files state artifact → ∃ first answer again torn after,
      ContainerState.Leads engine task.config.sandbox.engine
        (first ++ [⟨Container.removeArgs name, answer⟩]) (files, .initial state) torn ∧
      Installed task.config task.request torn.1 after artifact ∧
      ContainerState.Leads engine task.config.sandbox.engine again (after, torn.2) (left, final) ∧
      Container.Removals name (⟨Container.removeArgs name, answer⟩ :: again) ∧
      (again = [] → left = after)

/-- The verdict on a verification: its exit status, what it prints, and what it leaves behind. -/
structure VerificationVerdict : Prop where
  stdout_iff : output.stdout ≠ "" ↔ ∃ task report,
    Task.ofArguments arguments files program = .ok task ∧
      task.Reports engine name files state report ∧ Printable arguments.json report
  stdout_eq : ∀ task report, Task.ofArguments arguments files program = .ok task →
    task.Reports engine name files state report →
      ∀ text, reportText arguments.json report = .ok text → output.stdout = text
  status_iff : output.status = 0 ↔ ∃ task report,
    Task.ofArguments arguments files program = .ok task ∧
      task.Reports engine name files state report ∧ Printable arguments.json report ∧
        report.violations = []
  unprinted : ∀ task report, Task.ofArguments arguments files program = .ok task →
    task.Reports engine name files state report → ¬ Printable arguments.json report →
      output.stdout = "" ∧ output.status = 1
  violated : ∀ task report, Task.ofArguments arguments files program = .ok task →
    task.Reports engine name files state report → report.violations ≠ [] → output.status = 1
  /-- Only the engine writes. -/
  untouched : ∃ command,
    ContainerState.Leads engine command final.calls (files, .initial state) (left, final)
  /-- The engine is not called for the build. -/
  unbuilt : ∀ task toolchain, Task.ofArguments arguments files program = .ok task →
    ∀ call ∈ final.calls, call.args ≠ Container.execArgs name
      (.forRequest task.request task.config) (task.config.buildStep toolchain)

end Verdicts

/-- The verdict on a build that has not installed its binary. -/
theorem BuildVerdict.of_failure {failure : Failure} (byte : failure.HasByte)
    (failed : output = .failure "" failure)
    (none : ∀ task artifact, Task.ofArguments arguments files program = .ok task →
      ¬ task.Builds engine name files state artifact) :
    BuildVerdict engine name arguments program files state output left final := by
  subst failed
  have nonzero := status_of_failure byte ""
  constructor
  · refine ⟨fun zero => absurd zero nonzero, ?_⟩
    rintro ⟨task, artifact, given, builds⟩
    exact absurd builds (none task artifact given)
  · refine ⟨fun zero => absurd zero nonzero, ?_⟩
    rintro ⟨task, given, printed⟩
    simp [Task.installedText, Output.failure] at printed
  · exact fun _ => rfl
  · exact fun task artifact given builds => absurd builds (none task artifact given)

/-- The verdict on a verification that has no report. -/
theorem VerificationVerdict.of_failure {failure : Failure} (byte : failure.HasByte)
    (failed : output = .failure "" failure)
    (none : ∀ task report, Task.ofArguments arguments files program = .ok task →
      ¬ task.Reports engine name files state report)
    (untouched : ∃ command,
      ContainerState.Leads engine command final.calls (files, .initial state) (left, final))
    (unbuilt : ∀ task toolchain, Task.ofArguments arguments files program = .ok task →
      ∀ call ∈ final.calls, call.args ≠ Container.execArgs name
        (.forRequest task.request task.config) (task.config.buildStep toolchain)) :
    VerificationVerdict engine name arguments program files state output left final := by
  subst failed
  have nonzero := status_of_failure byte ""
  constructor
  · refine ⟨fun printed => absurd rfl printed, ?_⟩
    rintro ⟨task, report, given, reports, -⟩
    exact absurd reports (none task report given)
  · exact fun task report given reports => absurd reports (none task report given)
  · refine ⟨fun zero => absurd zero nonzero, ?_⟩
    rintro ⟨task, report, given, reports, -⟩
    exact absurd reports (none task report given)
  · exact fun task report given reports => absurd reports (none task report given)
  · exact fun task report given reports => absurd reports (none task report given)
  · exact untouched
  · exact unbuilt

/-- The verdict on a build that has installed its binary. -/
theorem BuildVerdict.of_artifact {artifact : Artifact} {calls : List EngineCall}
    (given : Task.ofArguments arguments files program = .ok task)
    (built : task.Builds engine name files state artifact)
    (printed : output = runOutput task.config.build.binary (.value artifact))
    (deeds : ContainerState.Deeds engine task.config.sandbox.engine name
      (task.config.artifactSource task.request.sourceRoot)
      (task.config.artifactDestination task.request.targetRoot) (files, .initial state)
      (.value (.inl artifact)) calls (left, final)) :
    BuildVerdict engine name arguments program files state output left final := by
  cases deeds with
  | calls uninstalled leads => exact absurd rfl (uninstalled artifact)
  | @install artifact first again answer after torn left removes begins done ends =>
      have installed := installed_of_ok done
      have text_eq : output.stdout = task.installedText := by
        rw [printed, installed.artifact_eq]
        rfl
      have zero : output.status = 0 := by
        rw [printed]
        rfl
      constructor
      · exact ⟨fun _ => ⟨task, artifact, given, built⟩, fun _ => zero⟩
      · exact ⟨fun _ => ⟨task, given, text_eq⟩, fun _ => zero⟩
      · exact fun nonzero => absurd zero nonzero
      · intro other artifact' given' builds
        obtain rfl := Except.ok.inj (given.symm.trans given')
        obtain rfl := Ending.value.inj (built.symm.trans builds)
        refine ⟨first, answer, again, torn, after, begins, installed, ends, removes, ?_⟩
        rintro rfl
        exact ends.files_of_nil

/-- The verdict on a verification that has a report. -/
theorem VerificationVerdict.of_report {report : Report}
    (given : Task.ofArguments arguments files program = .ok task)
    (reported : task.Reports engine name files state report)
    (printed : output = verifyOutput arguments.json (.value report))
    (untouched : ∃ command,
      ContainerState.Leads engine command final.calls (files, .initial state) (left, final))
    (unbuilt : ∀ task toolchain, Task.ofArguments arguments files program = .ok task →
      ∀ call ∈ final.calls, call.args ≠ Container.execArgs name
        (.forRequest task.request task.config) (task.config.buildStep toolchain)) :
    VerificationVerdict engine name arguments program files state output left final := by
  have only {other : Task} {report' : Report}
      (given' : Task.ofArguments arguments files program = .ok other)
      (reports : other.Reports engine name files state report') : report = report' := by
    obtain rfl := Except.ok.inj (given.symm.trans given')
    exact Ending.value.inj (reported.symm.trans reports)
  subst printed
  constructor
  · constructor
    · intro written
      by_cases printable : Printable arguments.json report
      · exact ⟨task, report, given, reported, printable⟩
      · exact absurd (verifyOutput_of_not_printable printable).1 written
    · rintro ⟨other, report', given', reports, printable⟩
      obtain rfl := only given' reports
      obtain ⟨text, printed⟩ := exists_reportText_iff.mpr printable
      rw [verifyOutput_stdout printed]
      exact reportText_ne_empty printed
  · intro other report' given' reports text printed
    obtain rfl := only given' reports
    exact verifyOutput_stdout printed
  · constructor
    · intro zero
      by_cases printable : Printable arguments.json report
      · obtain ⟨text, printed⟩ := exists_reportText_iff.mpr printable
        refine ⟨task, report, given, reported, printable, ?_⟩
        by_contra violated
        rw [verifyOutput_status printed, if_neg violated] at zero
        cases zero
      · rw [(verifyOutput_of_not_printable printable).2] at zero
        cases zero
    · rintro ⟨other, report', given', reports, printable, clean⟩
      obtain rfl := only given' reports
      obtain ⟨text, printed⟩ := exists_reportText_iff.mpr printable
      rw [verifyOutput_status printed, if_pos clean]
  · intro other report' given' reports unprintable
    obtain rfl := only given' reports
    exact verifyOutput_of_not_printable unprintable
  · intro other report' given' reports violated
    obtain rfl := only given' reports
    by_cases printable : Printable arguments.json report
    · obtain ⟨text, printed⟩ := exists_reportText_iff.mpr printable
      rw [verifyOutput_status printed, if_neg violated]
    · exact (verifyOutput_of_not_printable printable).2
  · exact untouched
  · exact unbuilt

/-- The verdict on every build. -/
theorem buildVerdict_of_run (bytes : engine.ExitsWithBytes)
    (parsed : Arguments.parse args environment = .ok arguments)
    (builds : arguments.verifyOnly = false)
    (ran : runWithContainers engine name args environment program files state =
      (output, left, final)) :
    BuildVerdict engine name arguments program files state output left final := by
  cases given : Task.ofArguments arguments files program with
  | error failure =>
      obtain ⟨failed, -⟩ := runWithContainers_of_refused parsed given ran
      refine .of_failure (Failure.hasByte_of_none (Task.isEarly_of_error given).innerCode) failed ?_
      intro task artifact given'
      rw [given] at given'
      cases given'
  | ok task =>
      have same {other : Task} (given' : Task.ofArguments arguments files program = .ok other) :
          task = other := Except.ok.inj (given.symm.trans given')
      obtain ⟨printed, executed, told⟩ := runWithContainers_of_task parsed given ran
      have builds' : task.verifyOnly = false := (Task.switches_of_arguments given).1.trans builds
      rw [Task.ending_of_build builds'] at printed told
      cases built : (Pipeline.run (ContainerState.provider engine task.config.sandbox.engine name)
          task.request (task.world files (.initial state))).1 with
      | failed failure =>
          rw [built] at printed told
          refine .of_failure (told.hasByte bytes) printed fun other artifact given' builds => ?_
          obtain rfl := same given'
          exact absurd (built.symm.trans builds) (by simp)
      | abandoned =>
          rw [built] at printed told
          refine .of_failure (Failure.hasByte_of_none rfl) printed
            fun other artifact given' builds => ?_
          obtain rfl := same given'
          exact absurd (built.symm.trans builds) (by simp)
      | value artifact =>
          rw [built] at printed told
          obtain ⟨made, -, deeds⟩ := told.life
          rw [Task.call_request] at deeds
          exact .of_artifact given built printed deeds

/-- The verdict on every verification. -/
theorem verificationVerdict_of_run (bytes : engine.ExitsWithBytes)
    (parsed : Arguments.parse args environment = .ok arguments)
    (verifies : arguments.verifyOnly = true)
    (ran : runWithContainers engine name args environment program files state =
      (output, left, final)) :
    VerificationVerdict engine name arguments program files state output left final := by
  cases given : Task.ofArguments arguments files program with
  | error failure =>
      obtain ⟨failed, rfl, rfl⟩ := runWithContainers_of_refused parsed given ran
      refine .of_failure (Failure.hasByte_of_none (Task.isEarly_of_error given).innerCode) failed ?_
        ⟨"", .refl⟩ ?_
      · intro task report given'
        rw [given] at given'
        cases given'
      · intro task toolchain given'
        rw [given] at given'
        cases given'
  | ok task =>
      have same {other : Task} (given' : Task.ofArguments arguments files program = .ok other) :
          task = other := Except.ok.inj (given.symm.trans given')
      obtain ⟨printed, executed, told⟩ := runWithContainers_of_task parsed given ran
      obtain ⟨verifies', json_eq⟩ := Task.switches_of_arguments given
      rw [verifies] at verifies'
      rw [Task.ending_of_verification verifies'] at printed told
      have call_eq : task.call = .verifyOnly task.request := by
        rw [Task.call, if_pos verifies']
      have along := told.along
      obtain ⟨made, life, deeds⟩ := told.life
      obtain ⟨writes, called⟩ := deeds.made
      have leads : ContainerState.Leads engine task.config.sandbox.engine made
          (files, .initial state) (left, final) := by
        refine deeds.leads fun artifact ended => ?_
        obtain ⟨report, -, artifact_eq⟩ := Ending.map_eq_value_iff.mp ended
        cases artifact_eq
      obtain rfl : final.calls = made := called.calls_eq
      have unbuilt : ∀ other toolchain, Task.ofArguments arguments files program = .ok other →
          ∀ call ∈ final.calls, call.args ≠ Container.execArgs name
            (.forRequest other.request other.config) (other.config.buildStep toolchain) := by
        intro other toolchain given' call held
        obtain rfl := same given'
        rcases along with left_eq | ⟨loaded, -, along⟩
        · obtain rfl : final = .initial state := congrArg Prod.snd left_eq
          cases held
        · rw [call_eq] at life along
          exact life.unbuilt along toolchain held
      cases reported : (Pipeline.verifyOnly
          (ContainerState.provider engine task.config.sandbox.engine name) task.request
          (task.world files (.initial state))).1 with
      | failed failure =>
          rw [reported] at printed told
          refine .of_failure (told.hasByte bytes) printed (fun other report given' reports => ?_)
            ⟨_, leads⟩ unbuilt
          obtain rfl := same given'
          exact absurd (reported.symm.trans reports) (by simp)
      | abandoned =>
          rw [reported] at printed told
          refine .of_failure (Failure.hasByte_of_none rfl) printed
            (fun other report given' reports => ?_) ⟨_, leads⟩ unbuilt
          obtain rfl := same given'
          exact absurd (reported.symm.trans reports) (by simp)
      | value report =>
          rw [reported] at printed
          replace printed : output = verifyOutput arguments.json (.value report) :=
            json_eq ▸ printed
          exact .of_report given reported printed ⟨_, leads⟩ unbuilt

/-- What every accepted command line makes the program print and exit with, and what it makes it
leave behind. -/
theorem verdict_of_run (bytes : engine.ExitsWithBytes)
    (parsed : Arguments.parse args environment = .ok arguments)
    (ran : runWithContainers engine name args environment program files state =
      (output, left, final)) :
    (arguments.verifyOnly = false →
      BuildVerdict engine name arguments program files state output left final) ∧
    (arguments.verifyOnly = true →
      VerificationVerdict engine name arguments program files state output left final) := by
  constructor
  · exact fun builds => buildVerdict_of_run bytes parsed builds ran
  · exact fun verifies => verificationVerdict_of_run bytes parsed verifies ran

end CommandLine

namespace Sample

/-- The binary that is built. -/
def binary : Write := .file ⟨"/source/codex-rs/target/release/codex"⟩ 0o755 [127, 69, 76, 70]

/-- An engine that does everything, and builds a binary. -/
def maker : Engine Unit where
  call _ args state := (⟨if "build" ∈ args then [binary] else [], .exited (some 0) [] []⟩, state)

theorem maker_exitsWithBytes : maker.ExitsWithBytes := by
  intro command args state code stdout stderr exited
  cases exited
  decide

/-- An engine that builds a binary, but cannot remove a container, and writes to the place of the
installed binary instead. -/
def meddler : Engine Unit where
  call _ args state :=
    (⟨if "build" ∈ args then [binary]
      else if "rm" ∈ args then [.file ⟨"/target/mooreCube/bin/codex/codex"⟩ 0o644 []] else [],
      .exited (some (if "rm" ∈ args then 1 else 0)) [] []⟩, state)

/-- The two trees, with a link at the destination that leads to the directory it is in. -/
def looped : FileSystem :=
  files.applyAll [.link ⟨"/target/loop"⟩ ".",
    .file ⟨"/build.toml"⟩ 0o644 "[install]\ndestination = \"loop/loop\"\n".toUTF8.toList]

/-- A build whose destination goes through the link at the destination. -/
def looping : CommandLine.Output × FileSystem × ContainerState Unit :=
  CommandLine.runWithContainers maker "box"
    ["/target", "--config", "/build.toml", "--source-root", "/source", "--skip-verify"]
    (fun _ => none) ⟨""⟩ looped ()

/-- A build that is meddled with after its install. -/
def meddled : CommandLine.Output × FileSystem × ContainerState Unit :=
  CommandLine.runWithContainers meddler "box"
    ["/target", "--source-root", "/source", "--skip-verify"] (fun _ => none) ⟨""⟩ files ()

/-- The two trees, with a manifest in the source tree whose name is not text. -/
def oddlyNamed : FileSystem :=
  { files with odd := [(⟨[Bytes.ofString "source", [0xff]], by decide⟩, .file 0o644 manifest)] }

/-- The command line of a verification whose report is to be a document. -/
def documenting : List String := ["/target", "--source-root", "/source", "--verify-only", "--json"]

/-- The task that it stands for. -/
def documented : CommandLine.Task := ⟨⟨⟨"/source"⟩, ⟨"/target"⟩⟩, {}, .enforce, true, true⟩

/-- The containers in which it is carried out. -/
def boxes : Provider (ContainerState Unit) := ContainerState.provider maker "docker" "box"

/-- A token is found in the manifest whose name is not text. -/
theorem exists_found_oddlyNamed {scanner : Scanner}
    (compiled : Scanner.ofSettings {} = .ok scanner) :
    ∃ found ∈ scanner.scan oddlyNamed ⟨"/source"⟩, ¬ found.path.IsText := by
  have leads : oddlyNamed.Leads (({} : VerifySettings).skipDirs.map Bytes.ofString)
      (Location.raw ["source"]) [[0xff]] manifest := .file rfl
  obtain ⟨found, occurs⟩ : ∃ found, Occurs .standard
      (fun names => TokenScanner.canOpen ⟨"/source"⟩ names = true ∧
        oddlyNamed.IsOpen (Location.raw ["source"]) names)
      {} oddlyNamed (Location.raw ["source"]) ⟨[[0xff]], 1, 0⟩ found :=
    exists_occurs_of_leads ⟨by decide, FileSystem.isOpen_of_access_eq rfl⟩ leads
  refine ⟨found, TokenScanner.mem_scan_of_occurs compiled rfl rfl occurs, ?_⟩
  rw [occurs.path_eq]
  rintro ⟨text, same⟩
  have isText := OsPath.text?_eq_some_iff.mpr same
  have notText : (OsPath.ofNames [[0xff]]).text? = none := by decide
  cases notText.symm.trans isText

/-- The verification of these trees comes to a report. -/
theorem exists_reports_oddlyNamed {scanner : Scanner}
    (compiled : Scanner.ofSettings {} = .ok scanner) : ∃ checks,
      documented.Reports maker "box" oddlyNamed ()
        ⟨"codex-cli", checks, scanner.scan oddlyNamed ⟨"/source"⟩⟩ := by
  have ready : Pipeline.Ready boxes {} documented.request
      (World.fresh {} .enforce oddlyNamed (.initial ())) (.ofChannel "1.90.0") :=
    ⟨by decide +kernel, by decide +kernel⟩
  -- Every call of the engine succeeds and prints nothing, and none writes anything.
  have silent : (boxes.replies (Config.verifyPlan {} (.ofChannel "1.90.0"))
      (started boxes {} documented.request oddlyNamed (.initial ()) .enforce).sandbox).all
      (fun reply => reply.answer == .finished ⟨some 0, "", ""⟩) = true := by
    decide +kernel
  have unchanged : ((started boxes {} documented.request oddlyNamed (.initial ()) .enforce).ran
      boxes (Config.verifyPlan {} (.ofChannel "1.90.0"))).files = oddlyNamed := by
    decide +kernel
  rw [Config.verifyPlan, Provider.replies_append, List.all_append, Bool.and_eq_true] at silent
  simp only [List.all_eq_true, beq_iff_eq] at silent
  rw [Config.verifyPlan, World.ran_append] at unchanged
  obtain ⟨checks, answered⟩ := Answered.of_absent
    (findsAbsent_of_replies fun reply given package => ⟨_, silent.2 reply given, rfl⟩)
  refine ⟨checks, Pipeline.verifyOnly_of_reports ready (fun reply given => ?_)
    ⟨compiled, rfl, answered, ?_⟩⟩
  · exact ⟨_, silent.1 reply given, rfl⟩
  · exact congrArg (scanner.scan · ⟨"/source"⟩) unchanged.symm

end Sample

namespace CommandLine

/-- A build that is not verified exits with zero, and has installed its binary. -/
theorem verdict_of_unverified_build :
    ∃ output left final,
      runWithContainers Sample.maker "box" ["/target", "--source-root", "/source", "--skip-verify"]
        (fun _ => none) ⟨""⟩ Sample.files () = (output, left, final) ∧
      output.status = 0 ∧ ∃ task before after artifact,
        output.stdout = Task.installedText task ∧
        Installed task.config task.request before after artifact := by
  rcases ran : runWithContainers Sample.maker "box"
    ["/target", "--source-root", "/source", "--skip-verify"] (fun _ => none) ⟨""⟩ Sample.files ()
    with ⟨output, left, final⟩
  have parsed : Arguments.parse ["/target", "--source-root", "/source", "--skip-verify"]
      (fun _ => none) = .ok
        ⟨some ⟨"/target"⟩, some ⟨"/source"⟩, none, none, true, false, false⟩ := by
    decide +kernel
  have zero : output.status = 0 := by
    have done : (runWithContainers Sample.maker "box"
        ["/target", "--source-root", "/source", "--skip-verify"] (fun _ => none) ⟨""⟩
        Sample.files ()).1.status = 0 := by decide +kernel
    rw [ran] at done
    exact done
  have verdict := (verdict_of_run Sample.maker_exitsWithBytes parsed ran).1 rfl
  obtain ⟨task, given, printed⟩ := verdict.stdout_iff.mp zero
  obtain ⟨other, artifact, given', builds⟩ := verdict.status_iff.mp zero
  obtain rfl := Except.ok.inj (given.symm.trans given')
  obtain ⟨first, answer, again, torn, after, -, installed, -⟩ :=
    verdict.installed task artifact given builds
  exact ⟨output, left, final, rfl, zero, task, torn.1, after, artifact, printed, installed⟩

/-- A verification comes to a report and prints nothing. -/
theorem exists_unprinted : ∃ arguments task report,
    Arguments.parse Sample.documenting (fun _ => none) = .ok arguments ∧
    arguments.verifyOnly = true ∧
    Task.ofArguments arguments Sample.oddlyNamed ⟨""⟩ = .ok task ∧
    task.Reports Sample.maker "box" Sample.oddlyNamed () report ∧
    ∃ output left final,
      runWithContainers Sample.maker "box" Sample.documenting (fun _ => none) ⟨""⟩
        Sample.oddlyNamed () = (output, left, final) ∧
      output.stdout = "" ∧ output.status = 1 := by
  obtain ⟨scanner, compiled⟩ := exists_ofSettings_default
  obtain ⟨checks, reports⟩ := Sample.exists_reports_oddlyNamed compiled
  obtain ⟨found, held, notText⟩ := Sample.exists_found_oddlyNamed compiled
  have parsed : Arguments.parse Sample.documenting (fun _ => none) =
      .ok ⟨some ⟨"/target"⟩, some ⟨"/source"⟩, none, none, false, true, true⟩ := by
    decide +kernel
  have derived : Task.Derived ⟨some ⟨"/target"⟩, some ⟨"/source"⟩, none, none, false, true, true⟩
      Sample.oddlyNamed ⟨""⟩ ⟨"/target"⟩ ⟨"/source"⟩ {} Sample.documented := by
    constructor
    all_goals first | exact .builtIn | decide +kernel
  have given := Task.ofArguments_ok_iff.mpr ⟨_, _, _, derived⟩
  rcases ran : runWithContainers Sample.maker "box" Sample.documenting (fun _ => none) ⟨""⟩
    Sample.oddlyNamed () with ⟨output, left, final⟩
  have verdict := verificationVerdict_of_run Sample.maker_exitsWithBytes parsed rfl ran
  have unprinted := verdict.unprinted _ _ given reports
    fun printable => notText (printable rfl found held)
  exact ⟨_, _, _, parsed, rfl, given, reports, output, left, final, rfl, unprinted⟩

/-- The path at which a binary has just been installed need not lead to it: the path may go through
a link that the binary has replaced, and the engine may write to it while the container is removed
once more. Nor is every report printed. -/
theorem path_or_report_lost :
    (Sample.looping.1 = ⟨0, "installed codex to /target/loop/loop\n", ""⟩ ∧
      (Sample.looping.2.1.entryAt ⟨"/target/loop/loop"⟩).toOption = none) ∧
    (Sample.meddled.1 = ⟨0, "installed codex to /target/mooreCube/bin/codex/codex\n", ""⟩ ∧
      (Sample.meddled.2.1.entryAt ⟨"/target/mooreCube/bin/codex/codex"⟩).toOption =
        some (.file 0o644 [])) ∧
    ∃ arguments task report,
      Arguments.parse Sample.documenting (fun _ => none) = .ok arguments ∧
      arguments.verifyOnly = true ∧
      Task.ofArguments arguments Sample.oddlyNamed ⟨""⟩ = .ok task ∧
      task.Reports Sample.maker "box" Sample.oddlyNamed () report ∧
      ∃ output left final,
        runWithContainers Sample.maker "box" Sample.documenting (fun _ => none) ⟨""⟩
          Sample.oddlyNamed () = (output, left, final) ∧
        output.stdout = "" ∧ output.status = 1 := by
  refine ⟨?_, ?_, exists_unprinted⟩
  · decide +kernel
  · decide +kernel

end CommandLine

end SealedBuild
