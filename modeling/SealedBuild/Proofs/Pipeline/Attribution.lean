import SealedBuild.Proofs.Outcome
import SealedBuild.Proofs.Pipeline.Account

/-!
# What a failure is blamed on

A call that fails has come upon one thing that stops it: a stage that is not a step, or a step that
cannot be run, or a step whose output is an objection. What it has come upon determines the failure
and the exit status of the process. A step that has run passes its own exit status on, and whatever
brings no exit status with it exits with one.

Main statement: `failure_of_call`, for every call in every world.
-/

namespace SealedBuild

variable {σ α : Type} {provider : Provider σ} {config : Config} {toolchain : Toolchain}
  {mode : VerifyMode} {world : World σ} {call : Call} {executed : List Step}

namespace Failure

/-- A signal sent to the process itself is what the failure is about. -/
def IsSignal (failure : Failure) : Prop := failure = .interrupted ∨ failure = .terminated

/-- No failure exits with zero. -/
theorem exitCode_ne_zero (failure : Failure) : failure.exitCode ≠ 0 := by
  unfold exitCode
  split
  · decide
  · decide
  · split
    · split
      · decide
      · assumption
    · decide

/-- The exit status from inside the sandbox is passed on unless it is zero, and one stands for a
missing one. -/
theorem exitCode_eq_getD {failure : Failure} (plain : ¬ failure.IsSignal)
    (nonzero : failure.innerCode ≠ some 0) : failure.exitCode = failure.innerCode.getD 1 := by
  unfold exitCode
  split
  · exact absurd (Or.inl rfl) plain
  · exact absurd (Or.inr rfl) plain
  · cases inner : failure.innerCode with
    | none => rfl
    | some code => exact if_neg fun zero => nonzero (by rw [inner, zero])

theorem not_isSignal_of_innerCode {failure : Failure} {code : Int}
    (inner : failure.innerCode = some code) : ¬ failure.IsSignal := by
  rintro (rfl | rfl) <;> cases inner

end Failure

namespace Toolchain

/-- A toolchain that cannot be loaded is a failure of its manifest. -/
theorem load_error {files : FileSystem} {sourceRoot manifest : Path} {failure : Failure}
    (refused : load files sourceRoot manifest = .error failure) :
    ∃ reason, failure = .toolchainManifest (manifestFile files sourceRoot manifest) reason := by
  unfold load at refused
  dsimp only at refused
  split at refused
  · exact ⟨_, (Except.error.inj refused).symm⟩
  · split at refused
    · exact ⟨_, (Except.error.inj refused).symm⟩
    · cases refused

end Toolchain

/-- Patterns that cannot be compiled are a failure of the configuration. -/
theorem TokenScanner.ofSettings_error {languages : Languages} {settings : VerifySettings}
    {failure : Failure} (refused : ofSettings languages settings = .error failure) :
    ∃ text, failure = .config text := by
  rcases error_of_bind refused with tokens | ⟨compiled, -, refused⟩
  · obtain ⟨token, -, failed⟩ := exists_of_mapM_error tokens
    unfold compileToken at failed
    split at failed
    · cases failed
    · exact ⟨_, (Except.error.inj failed).symm⟩
  · rcases error_of_bind refused with patterns | ⟨globs, -, made⟩
    · obtain ⟨pattern, -, failed⟩ := exists_of_mapM_error patterns
      unfold compileAllowed at failed
      split at failed
      · cases failed
      · exact ⟨_, (Except.error.inj failed).symm⟩
    · cases made

/-- A query whose answer cannot be understood fails with its own exit status, which is not zero. -/
theorem interpretQuery_error {package : String} {output : StepOutput} {failure : Failure}
    (unclear : interpretQuery package output = .error failure) :
    output.code ≠ some 0 ∧ ∃ message, failure = .sandbox message output.code := by
  unfold interpretQuery at unclear
  split at unclear
  · cases unclear
  · rename_i unsuccessful
    refine ⟨mt StepOutput.success_iff.mpr unsuccessful, ?_⟩
    split at unclear
    · cases unclear
    · split at unclear
      · cases unclear
      · exact ⟨_, (Except.error.inj unclear).symm⟩

/-- An install that fails is a failure of the copy from the one path to the other. -/
theorem installArtifact_error {files : FileSystem} {source destination : Path} {failure : Failure}
    (refused : (installArtifact files source destination).1 = .error failure) :
    ∃ reason, failure = .copy source destination reason := by
  unfold installArtifact at refused
  dsimp only at refused
  split at refused
  · exact ⟨_, (Except.error.inj refused).symm⟩
  · split at refused
    · exact ⟨_, (Except.error.inj refused).symm⟩
    · split at refused
      · exact ⟨_, (Except.error.inj refused).symm⟩
      · split at refused
        · exact ⟨_, (Except.error.inj refused).symm⟩
        · split at refused
          · exact ⟨_, (Except.error.inj refused).symm⟩
          · cases refused

namespace Call

/-- A call comes to an assignment of its plan after others that have passed, and its step is
answered. -/
structure ComesTo (provider : Provider σ) (world : World σ) (call : Call) (toolchain : Toolchain)
    (done : Plan) (next : Assignment) (answer : Response) : Prop where
  running : world.pipeline.stage.isTerminal = false
  ready : Pipeline.Ready provider world.pipeline.config call.request world toolchain
  planned : ∃ rest, call.preparation world.pipeline.config toolchain ++
    world.pipeline.config.attainable toolchain (call.stance world.pipeline.mode) =
      done ++ next :: rest
  passed : done.Passed provider (call.opened provider world)
  answered : (provider.run next.step
    (provider.stateAfter done.steps (call.opened provider world))).1.answer = answer

end Call

/-- What a call that fails has come upon, with the steps that it has executed, its failure, and the
exit status of the process. -/
inductive Blame (provider : Provider σ) (world : World σ) (call : Call) :
    List Step → Failure → Int → Prop
  | finished (ended : world.pipeline.stage.isTerminal = true) :
      Blame provider world call [] (.config "pipeline has already finished") 1
  | unloaded {place : Path} {reason : String}
      (running : world.pipeline.stage.isTerminal = false)
      (refused : Toolchain.load world.files call.request.sourceRoot
        world.pipeline.config.toolchain.manifest = .error (.toolchainManifest place reason)) :
      Blame provider world call [] (.toolchainManifest place reason) 1
  /-- The sandbox does not start. Its failure is returned as it is, with its own exit status if that
  is not zero. -/
  | unstarted {toolchain : Toolchain} {failure : Failure} {status : Int}
      (running : world.pipeline.stage.isTerminal = false)
      (loaded : Toolchain.load world.files call.request.sourceRoot
        world.pipeline.config.toolchain.manifest = .ok toolchain)
      (refused : (provider.create (.forRequest call.request world.pipeline.config)
        world.sandbox).1.answer = .failed failure)
      (own : ∀ code, failure.innerCode = some code → code ≠ 0 → status = code) :
      Blame provider world call [] failure status
  /-- A step cannot be run. Its failure is returned as it is. -/
  | unrun {toolchain : Toolchain} {done : Plan} {next : Assignment} {failure : Failure}
      (comes : call.ComesTo provider world toolchain done next (.failed failure)) :
      Blame provider world call (done.steps ++ [next.step]) failure failure.exitCode
  | unprovisioned {toolchain : Toolchain} {done : Plan} {step : Step} {output : StepOutput}
      (comes : call.ComesTo provider world toolchain done ⟨step, .provisioning⟩
        (.finished output))
      (unsuccessful : output.code ≠ some 0) :
      Blame provider world call (done.steps ++ [step]) (.toolchainInstall step.display output.code)
        (output.code.getD 1)
  | unbuilt {toolchain : Toolchain} {done : Plan} {output : StepOutput}
      (comes : call.ComesTo provider world toolchain done
        (world.pipeline.config.building toolchain) (.finished output))
      (unsuccessful : output.code ≠ some 0) :
      Blame provider world call (done.steps ++ [world.pipeline.config.buildStep toolchain])
        (.build world.pipeline.config.build.package output.code) (output.code.getD 1)
  | unclear {toolchain : Toolchain} {done : Plan} {step : Step} {package message : String}
      {output : StepOutput}
      (comes : call.ComesTo provider world toolchain done ⟨step, .asking package⟩
        (.finished output))
      (refused : interpretQuery package output = .error (.sandbox message output.code))
      (unsuccessful : output.code ≠ some 0) :
      Blame provider world call (done.steps ++ [step]) (.sandbox message output.code)
        (output.code.getD 1)
  | uncompiled {toolchain : Toolchain} {text : String}
      (running : world.pipeline.stage.isTerminal = false)
      (ready : Pipeline.Ready provider world.pipeline.config call.request world toolchain)
      (verifies : call.stance world.pipeline.mode ≠ .skip)
      (refused : Scanner.ofSettings world.pipeline.config.verify = .error (.config text))
      (passed : (call.preparation world.pipeline.config toolchain).Passed provider
        (call.opened provider world)) :
      Blame provider world call (call.preparation world.pipeline.config toolchain).steps
        (.config text) 1
  | violated {toolchain : Toolchain} {scanner : Scanner} {report : Report}
      (running : world.pipeline.stage.isTerminal = false)
      (ready : Pipeline.Ready provider world.pipeline.config call.request world toolchain)
      (enforces : call.stance world.pipeline.mode = .enforce)
      (passed : (call.plan world.pipeline.config world.pipeline.mode toolchain).Passed provider
        (call.opened provider world))
      (reports : Pipeline.Reports provider world.pipeline.config toolchain call.request.sourceRoot
        ((call.begun provider world).ran provider
          (call.preparation world.pipeline.config toolchain).steps) scanner report)
      (violated : report.passed = false) :
      Blame provider world call
        (call.plan world.pipeline.config world.pipeline.mode toolchain).steps
        (.constraintViolation ("; ".intercalate report.violations)) 1
  | uninstalled {toolchain : Toolchain} {executed : List Step} {reason : String}
      (running : world.pipeline.stage.isTerminal = false)
      (ready : Pipeline.Ready provider world.pipeline.config call.request world toolchain)
      (course : Course provider world.pipeline.config toolchain call.request.sourceRoot
        (call.stance world.pipeline.mode) (call.preparation world.pipeline.config toolchain)
        (call.begun provider world) executed (.value () : Ending Unit))
      (refused : (installArtifact (call.torn provider world executed).files
        (world.pipeline.config.artifactSource call.request.sourceRoot)
        (world.pipeline.config.artifactDestination call.request.targetRoot)).1 =
          .error (.copy (world.pipeline.config.artifactSource call.request.sourceRoot)
            (world.pipeline.config.artifactDestination call.request.targetRoot) reason)) :
      Blame provider world call executed
        (.copy (world.pipeline.config.artifactSource call.request.sourceRoot)
          (world.pipeline.config.artifactDestination call.request.targetRoot) reason) 1

namespace Call

/-- Every assignment of a plan is what one of the three purposes makes of it. -/
theorem purpose_of_mem {next : Assignment} (call : Call)
    (planned : next ∈ call.preparation config toolchain ++ config.attainable toolchain mode) :
    next.purpose = .provisioning ∨ next = config.building toolchain ∨
      ∃ package, next.purpose = .asking package := by
  have provisions (held : next ∈ config.provisioning toolchain) :
      next.purpose = .provisioning := by
    obtain ⟨step, -, rfl⟩ := List.mem_map.mp held
    rfl
  rcases List.mem_append.mp planned with prepared | inspected
  · cases call with
    | run request =>
        rcases List.mem_append.mp prepared with early | last
        · exact Or.inl (provisions early)
        · exact Or.inr (Or.inl (List.mem_singleton.mp last))
    | verifyOnly request => exact Or.inl (provisions prepared)
  · replace inspected := (config.attainable_prefix toolchain mode).subset inspected
    unfold Config.inspection at inspected
    split at inspected
    · cases inspected
    · obtain ⟨constraint, -, rfl⟩ := List.mem_map.mp inspected
      exact Or.inr (Or.inr ⟨constraint.package, rfl⟩)

/-- A call that stops at a step is to blame on that step. -/
theorem ComesTo.blame {done : Plan} {next : Assignment} {answer : Response} {failure : Failure}
    (comes : call.ComesTo provider world toolchain done next answer)
    (stops : next.Stops answer (.failed failure : Ending α)) :
    Blame provider world call (done.steps ++ [next.step]) failure failure.exitCode := by
  cases stops with
  | failed failure => exact .unrun comes
  | @objected output failure objection =>
      obtain ⟨rest, planned⟩ := comes.planned
      have held : next ∈ call.preparation world.pipeline.config toolchain ++
          world.pipeline.config.attainable toolchain (call.stance world.pipeline.mode) := by
        rw [planned]
        exact List.mem_append_right _ List.mem_cons_self
      have must {refusal : Failure}
          (objects : (if output.success then none else some refusal) = some failure) :
          output.code ≠ some 0 ∧ refusal = failure := by
        split at objects
        · cases objects
        · rename_i unsuccessful
          exact ⟨mt StepOutput.success_iff.mpr unsuccessful, Option.some.inj objects⟩
      obtain ⟨step, purpose⟩ := next
      rcases call.purpose_of_mem held with rfl | building | ⟨package, rfl⟩
      · obtain ⟨unsuccessful, rfl⟩ := must objection
        have status : (Failure.toolchainInstall step.display output.code).exitCode =
            output.code.getD 1 :=
          Failure.exitCode_eq_getD (by simp [Failure.IsSignal]) unsuccessful
        exact status ▸ .unprovisioned comes unsuccessful
      · rw [building] at comes objection ⊢
        obtain ⟨unsuccessful, rfl⟩ := must objection
        have status : (Failure.build world.pipeline.config.build.package output.code).exitCode =
            output.code.getD 1 :=
          Failure.exitCode_eq_getD (by simp [Failure.IsSignal]) unsuccessful
        exact status ▸ .unbuilt comes unsuccessful
      · have refused : interpretQuery package output = .error failure := by
          change failure? (interpretQuery package output) = some failure at objection
          cases read : interpretQuery package output with
          | ok outcome =>
              rw [read] at objection
              cases objection
          | error other =>
              rw [read] at objection
              exact congrArg Except.error (Option.some.inj objection)
        obtain ⟨unsuccessful, message, rfl⟩ := interpretQuery_error refused
        have status : (Failure.sandbox message output.code).exitCode = output.code.getD 1 :=
          Failure.exitCode_eq_getD (by simp [Failure.IsSignal]) unsuccessful
        exact status ▸ .unclear comes refused unsuccessful

end Call

/-- A call that has taken its course and fails is to blame on what it has come upon. -/
theorem Course.blame {failure : Failure} (running : world.pipeline.stage.isTerminal = false)
    (ready : Pipeline.Ready provider world.pipeline.config call.request world toolchain)
    (course : Course provider world.pipeline.config toolchain call.request.sourceRoot
      (call.stance world.pipeline.mode) (call.preparation world.pipeline.config toolchain)
      (call.begun provider world) executed (.failed failure : Ending α)) :
    Blame provider world call executed failure failure.exitCode := by
  generalize ending_eq : (.failed failure : Ending α) = ending at course
  cases course with
  | @stopped done rest last _ split passed stops =>
      subst ending_eq
      exact Call.ComesTo.blame ⟨running, ready, ⟨rest, split⟩, passed, rfl⟩ stops
  | uncompiled verifies refused passed =>
      obtain rfl := Ending.failed.inj ending_eq
      obtain ⟨text, rfl⟩ := TokenScanner.ofSettings_error refused
      exact .uncompiled running ready verifies refused passed
  | violated enforces reports violated attains passed =>
      obtain rfl := Ending.failed.inj ending_eq
      exact .violated running ready enforces passed reports violated
  | completed value attains cleared passed => cases ending_eq

/-- A call that fails is to blame on what it has come upon. -/
theorem Account.blame {failure : Failure} {left : FileSystem × σ}
    (told : Account provider world call executed (.failed failure) left) :
    Blame provider world call executed failure failure.exitCode := by
  generalize ending_eq : (.failed failure : Ending (Artifact ⊕ Report)) = ending at told
  cases told with
  | finished ended =>
      obtain rfl := Ending.failed.inj ending_eq
      exact .finished ended
  | unloaded running refused =>
      obtain rfl := Ending.failed.inj ending_eq
      obtain ⟨reason, rfl⟩ := Toolchain.load_error refused
      exact .unloaded running refused
  | unstarted running loaded refused =>
      obtain rfl := Ending.failed.inj ending_eq
      refine .unstarted running loaded refused fun code inner nonzero => ?_
      have plain := Failure.not_isSignal_of_innerCode inner
      rw [Failure.exitCode_eq_getD plain (by simpa [inner] using nonzero), inner]
      rfl
  | stuck running loaded hangs => cases ending_eq
  | broken running ready course stops =>
      subst ending_eq
      exact course.blame running ready
  | reported verifies running ready course => cases ending_eq
  | installed builds running ready course done => cases ending_eq
  | uninstalled builds running ready course refused =>
      obtain rfl := Ending.failed.inj ending_eq
      obtain ⟨reason, rfl⟩ := installArtifact_error (congrArg Prod.fst refused)
      exact .uninstalled running ready course (congrArg Prod.fst refused)

/-- A call that fails does so for what it has come upon, with the failure and the exit status that
this determines. No failure whatever exits with zero. -/
theorem failure_of_call (call : Call) (provider : Provider σ) (world : World σ) :
    (∀ failure, (call.perform provider world).1 = .failed failure →
      ∃ events status, (call.perform provider world).2.events = world.events ++ events ∧
        Blame provider world call (Event.steps events) failure status ∧
        failure.exitCode = status) ∧
    ∀ failure : Failure, failure.exitCode ≠ 0 := by
  refine ⟨fun failure failed => ?_, Failure.exitCode_ne_zero⟩
  obtain ⟨events, events_eq, told⟩ := call.account provider world
  rw [failed] at told
  exact ⟨events, failure.exitCode, events_eq, told.blame, rfl⟩

/-- The process exits with the status of a build that fails. -/
theorem failure_of_failed_build :
    ((Call.run Sample.request).perform Sample.breaker Sample.start).1 =
        .failed (.build "codex-cli" (some 101)) ∧
      Blame Sample.breaker Sample.start (.run Sample.request)
        (Event.steps ((Call.run Sample.request).perform Sample.breaker Sample.start).2.events)
        (.build "codex-cli" (some 101)) 101 := by
  have failed : ((Call.run Sample.request).perform Sample.breaker Sample.start).1 =
      .failed (.build "codex-cli" (some 101)) := by decide +kernel
  obtain ⟨blamed, -⟩ := failure_of_call (.run Sample.request) Sample.breaker Sample.start
  obtain ⟨events, status, events_eq, blame, status_eq⟩ := blamed _ failed
  obtain rfl : _ = events := events_eq
  obtain rfl : 101 = status := status_eq
  exact ⟨failed, blame⟩

end SealedBuild
