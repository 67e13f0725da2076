import SealedBuild.Proofs.Container.Calls
import SealedBuild.Proofs.Pipeline.FailFast

/-!
# Lives of containers

A call of a pipeline whose sandboxes are containers makes the calls of one container's life, or of
none: it starts the container, executes its steps in it, and removes it, whatever the call ends
with. Apart from an install nothing but these calls writes.

Main statement: `Account.life`, the life that belongs to an account.

## Implementation notes

A life says which calls are made, and deeds say what they do to the file system. Both are about the
same list of calls. They are kept apart because the protocol needs no file system, and because the
install stands between two calls of one life.
-/

namespace SealedBuild

variable {σ α ε : Type} {provider : Provider σ} {config : Config} {toolchain : Toolchain}
  {sourceRoot : Path} {mode : VerifyMode} {before : Plan} {executed : List Step}
  {engine : Engine ε} {command name : String} {session : Session}

/-- Of two lists that are related, every member of the first one is related to one of the second
one. -/
theorem exists_of_forall₂ {β : Type} {related : α → β → Prop} {first : List α} {second : List β}
    (pairs : List.Forall₂ related first second) {left : α} (held : left ∈ first) :
    ∃ right ∈ second, related left right := by
  induction pairs with
  | nil => cases held
  | @cons one other rest others head tail ih =>
      rcases List.mem_cons.mp held with rfl | later
      · exact ⟨other, List.mem_cons_self, head⟩
      · obtain ⟨right, found, pair⟩ := ih later
        exact ⟨right, List.mem_cons_of_mem _ found, pair⟩

/-- All steps of a plan that has been passed have run to their ends. -/
theorem Plan.Passed.finished {plan : Plan} {state : σ} (passed : plan.Passed provider state) :
    ∀ reply ∈ provider.replies plan.steps state, ∃ output, reply.answer = .finished output := by
  intro reply given
  have turned : List.Forall₂ (flip Assignment.Passes) (provider.replies plan.steps state) plan :=
    List.Forall₂.flip passed
  obtain ⟨assignment, -, output, finished, -⟩ := exists_of_forall₂ turned given
  exact ⟨output, finished⟩

/-- Only the last step of a course may have failed to run to its end. -/
theorem Course.finished {world : World σ} {ending : Ending α}
    (course : Course provider config toolchain sourceRoot mode before world executed ending) :
    ∀ reply ∈ (provider.replies executed world.sandbox).dropLast,
      ∃ output, reply.answer = .finished output := by
  intro reply given
  cases course with
  | stopped split passed stops =>
      rw [provider.replies_append, Provider.replies, Provider.replies_nil,
        List.dropLast_concat] at given
      exact passed.finished reply given
  | uncompiled verifies refused passed => exact passed.finished reply (List.dropLast_subset _ given)
  | violated enforces reports violated attains passed =>
      exact passed.finished reply (List.dropLast_subset _ given)
  | completed value attains cleared passed =>
      exact passed.finished reply (List.dropLast_subset _ given)

namespace Container

/-- The calls that execute steps in a container, of which only the last one may not have been
started. -/
structure Executions (name : String) (session : Session) (executed : List Step)
    (made : List EngineCall) : Prop where
  args_eq : made.map (·.args) = executed.map (execArgs name session)
  started : ∀ call ∈ made.dropLast, call.isStarted = true

/-- The calls of a container's life. -/
inductive Life (command name : String) (session : Session) :
    List Step → List EngineCall → Prop
  /-- No container is asked for. -/
  | unasked : Life command name session [] []
  /-- The container does not start. -/
  | unstarted {answer : EngineAnswer} {failure : Failure}
      (refused : ContainerState.launch command session answer = .failed failure) :
      Life command name session [] [⟨runArgs name session, answer⟩]
  /-- The container starts, is used, and is removed. -/
  | removed {executed : List Step} {stdout stderr : Bytes} {executions removals : List EngineCall}
      (executes : Executions name session executed executions)
      (removes : Removals name removals) :
      Life command name session executed
        (⟨runArgs name session, .exited (some 0) stdout stderr⟩ :: executions ++ removals)

/-- The calls of a life start a container, execute a step that was executed, or remove the
container. -/
theorem Life.args_of_mem {made : List EngineCall} (life : Life command name session executed made)
    {call : EngineCall} (held : call ∈ made) :
    call.args = runArgs name session ∨ (∃ step ∈ executed, call.args = execArgs name session step) ∨
      call.args = removeArgs name := by
  cases life with
  | unasked => cases held
  | unstarted refused =>
      obtain rfl := List.mem_singleton.mp held
      exact Or.inl rfl
  | @removed executed stdout stderr executions removals executes removes =>
      rcases List.mem_append.mp held with held | held
      · rcases List.mem_cons.mp held with rfl | held
        · exact Or.inl rfl
        · have given : call.args ∈ executions.map (·.args) := List.mem_map_of_mem held
          rw [executes.args_eq] at given
          obtain ⟨step, along, args_eq⟩ := List.mem_map.mp given
          exact Or.inr (Or.inl ⟨step, along, args_eq.symm⟩)
      · exact Or.inr (Or.inr (removes.args_of_mem held))

/-- The arguments that execute a step tell which step it is. -/
theorem execArgs_injective : Function.Injective (execArgs name session) := by
  intro first second same
  have tails := List.append_cancel_left same
  obtain ⟨program, args⟩ := first
  obtain ⟨program', args'⟩ := second
  simpa using tails

end Container

namespace ContainerState

/-- Calls have been made, and the files have changed by what the engine has written meanwhile. -/
def Leads (engine : Engine ε) (command : String) (made : List EngineCall)
    (before after : FileSystem × ContainerState ε) : Prop :=
  ∃ writes, Made engine command before.2 made writes after.2 ∧ after.1 = before.1.applyAll writes

variable {first second : List EngineCall} {files : FileSystem}
  {start middle last : FileSystem × ContainerState ε}

theorem Leads.refl : Leads engine command [] start start := ⟨[], .refl _, rfl⟩

theorem Leads.trans (begins : Leads engine command first start middle)
    (goesOn : Leads engine command second middle last) :
    Leads engine command (first ++ second) start last := by
  obtain ⟨writes, made, files_eq⟩ := begins
  obtain ⟨writes', made', files_eq'⟩ := goesOn
  exact ⟨writes ++ writes', made.trans made',
    by rw [files_eq', files_eq, FileSystem.applyAll_append]⟩

/-- Without a call the files stay as they are. -/
theorem Leads.files_of_nil (leads : Leads engine command [] start last) : last.1 = start.1 := by
  obtain ⟨writes, made, files_eq⟩ := leads
  rw [files_eq, made.dialogue.writes_of_nil, FileSystem.applyAll_nil]

/-- Starting a sandbox is one call. -/
theorem create_leads (engine : Engine ε) (command name : String) (session : Session)
    (files : FileSystem) (state : ContainerState ε) :
    ∃ answer, launch command session answer =
        (create engine command name session state).1.answer ∧
      Leads engine command [⟨Container.runArgs name session, answer⟩] (files, state)
        (files.applyAll (create engine command name session state).1.writes,
          (create engine command name session state).2) := by
  obtain ⟨answer, answer_eq, made⟩ := create_made engine command name session state
  exact ⟨answer, answer_eq, _, made, rfl⟩

end ContainerState

namespace Course

open ContainerState

variable {world : World (ContainerState ε)} {container : Container} {ending : Ending α}

/-- A course in a container executes its steps by one call for each of them. -/
theorem executions (alive : world.sandbox.container = some container)
    (course : Course (ContainerState.provider engine command name) config toolchain sourceRoot mode
      before world executed ending) :
    ((world.ran (ContainerState.provider engine command name) executed).sandbox.container =
        some container) ∧
      ∃ made, Container.Executions container.name container.session executed made ∧
        Leads engine container.command made world.outside
          (world.ran (ContainerState.provider engine command name) executed).outside := by
  obtain ⟨alive', made, args_eq, answers, called⟩ :=
    stateAfter_made engine command name alive executed
  refine ⟨alive', made, ⟨args_eq, fun call held => ?_⟩, _, called, rfl⟩
  have early : List.Forall₂
      (fun call reply => reply.answer = stepResponse container.command call.answer) made.dropLast
      ((ContainerState.provider engine command name).replies executed world.sandbox).dropLast := by
    rw [List.dropLast_eq_take, List.dropLast_eq_take, answers.length_eq]
    exact List.forall₂_take _ answers
  obtain ⟨reply, given, answer_eq⟩ := exists_of_forall₂ early held
  obtain ⟨output, finished⟩ := course.finished reply given
  rw [finished] at answer_eq
  unfold EngineCall.isStarted
  cases answer : call.answer with
  | notStarted error =>
      rw [answer] at answer_eq
      cases answer_eq
  | exited code stdout stderr => rfl

end Course

namespace ContainerState

/-- The calls of a life lead from what there was to what is left. If a full run ends with an
artifact, its install stands behind the first attempt to remove the container. -/
inductive Deeds (engine : Engine ε) (command name : String) (source destination : Path)
    (start : FileSystem × ContainerState ε) :
    Ending (Artifact ⊕ Report) → List EngineCall → FileSystem × ContainerState ε → Prop
  | calls {ending : Ending (Artifact ⊕ Report)} {made : List EngineCall}
      {left : FileSystem × ContainerState ε}
      (uninstalled : ∀ artifact, ending ≠ .value (.inl artifact))
      (leads : Leads engine command made start left) :
      Deeds engine command name source destination start ending made left
  | install {artifact : Artifact} {first again : List EngineCall} {answer : EngineAnswer}
      {files : FileSystem} {torn left : FileSystem × ContainerState ε}
      (removes : Container.Removals name (⟨Container.removeArgs name, answer⟩ :: again))
      (begins : Leads engine command (first ++ [⟨Container.removeArgs name, answer⟩]) start torn)
      (done : installArtifact torn.1 source destination = (.ok artifact, files))
      (ends : Leads engine command again (files, torn.2) left) :
      Deeds engine command name source destination start (.value (.inl artifact))
        (first ++ [⟨Container.removeArgs name, answer⟩] ++ again) left

/-- Without an install nothing but the calls makes a difference. -/
theorem Deeds.leads {source destination : Path} {start left : FileSystem × ContainerState ε}
    {ending : Ending (Artifact ⊕ Report)} {calls : List EngineCall}
    (deeds : Deeds engine command name source destination start ending calls left)
    (uninstalled : ∀ artifact, ending ≠ .value (.inl artifact)) :
    Leads engine command calls start left := by
  cases deeds with
  | calls _ leads => exact leads
  | @install artifact => exact absurd rfl (uninstalled artifact)

/-- The install makes no difference to the calls. -/
theorem Deeds.made {source destination : Path} {start left : FileSystem × ContainerState ε}
    {ending : Ending (Artifact ⊕ Report)} {calls : List EngineCall}
    (deeds : Deeds engine command name source destination start ending calls left) :
    ∃ writes, Made engine command start.2 calls writes left.2 := by
  cases deeds with
  | calls uninstalled leads =>
      obtain ⟨writes, made, -⟩ := leads
      exact ⟨writes, made⟩
  | install removes begins done ends =>
      obtain ⟨writes, made, -⟩ := begins
      obtain ⟨writes', made', -⟩ := ends
      exact ⟨writes ++ writes', made.trans made'⟩

end ContainerState

namespace Account

open ContainerState

variable {world : World (ContainerState ε)} {call : Call} {left : FileSystem × ContainerState ε}

/-- What a call does between the start of its container and the end of it. -/
theorem session_life {ending : Ending α}
    (ready : Pipeline.Ready (ContainerState.provider engine command name) world.pipeline.config
      call.request world toolchain)
    (course : Course (ContainerState.provider engine command name) world.pipeline.config toolchain
      call.request.sourceRoot (call.stance world.pipeline.mode)
      (call.preparation world.pipeline.config toolchain)
      (call.begun (ContainerState.provider engine command name) world) executed ending) :
    ∃ first answer again,
      Container.Life command name (.forRequest call.request world.pipeline.config) executed
        (first ++ [⟨Container.removeArgs name, answer⟩] ++ again) ∧
      Container.Removals name (⟨Container.removeArgs name, answer⟩ :: again) ∧
      Leads engine command (first ++ [⟨Container.removeArgs name, answer⟩]) world.outside
        (call.torn (ContainerState.provider engine command name) world executed).outside ∧
      ∀ files, Leads engine command again
        (files, (call.torn (ContainerState.provider engine command name) world executed).sandbox)
        ((ContainerState.provider engine command name).released files
          (call.torn (ContainerState.provider engine command name) world executed).sandbox) := by
  obtain ⟨answer, started, begins⟩ := create_leads engine command name
    (.forRequest call.request world.pipeline.config) world.files world.sandbox
  obtain ⟨stdout, stderr, rfl⟩ := launch_eq_started_iff.mp (started.trans ready.started)
  have alive : (call.begun (ContainerState.provider engine command name) world).sandbox.container =
      some ⟨command, name, .forRequest call.request world.pipeline.config, false⟩ :=
    create_container ready.started
  obtain ⟨alive', executions, executes, goesOn⟩ := course.executions alive
  obtain ⟨answer, again, removes, tornDown, letGo⟩ := removals_made engine alive' rfl
  refine ⟨⟨Container.runArgs name (.forRequest call.request world.pipeline.config),
    .exited (some 0) stdout stderr⟩ :: executions, answer, again, ?_, removes, ?_, ?_⟩
  · rw [List.append_assoc]
    exact .removed executes removes
  · exact (begins.trans goesOn).trans ⟨_, tornDown, rfl⟩
  · exact fun files => ⟨_, letGo, rfl⟩

/-- Once a container has been started and let go of, there are calls. -/
theorem session_calls {ending : Ending α}
    (ready : Pipeline.Ready (ContainerState.provider engine command name) world.pipeline.config
      call.request world toolchain)
    (course : Course (ContainerState.provider engine command name) world.pipeline.config toolchain
      call.request.sourceRoot (call.stance world.pipeline.mode)
      (call.preparation world.pipeline.config toolchain)
      (call.begun (ContainerState.provider engine command name) world) executed ending)
    (files : FileSystem) :
    ((ContainerState.provider engine command name).released files
      (call.torn (ContainerState.provider engine command name) world executed).sandbox).2.calls ≠
        [] := by
  obtain ⟨first, answer, again, -, -, ⟨_, begins, -⟩, ends⟩ := session_life ready course
  obtain ⟨_, ends, -⟩ := ends files
  have torn_eq : (call.torn (ContainerState.provider engine command name) world
      executed).sandbox.calls = _ := begins.calls_eq
  rw [ends.calls_eq, torn_eq]
  simp

/-- A call whose sandboxes are containers is not given up. -/
theorem not_abandoned {ending : Ending α}
    (course : Course (ContainerState.provider engine command name) config toolchain sourceRoot mode
      before world executed ending) : ending ≠ .abandoned := by
  cases course with
  | stopped split passed stops =>
      rintro rfl
      cases answer : ((ContainerState.provider engine command name).run _ _).1.answer with
      | hung => exact run_ne_hung _ answer
      | failed failure =>
          rw [answer] at stops
          cases stops
      | finished output =>
          rw [answer] at stops
          cases stops
  | uncompiled verifies refused passed => simp
  | violated enforces reports violated attains passed => simp
  | completed value attains cleared passed => simp

/-- A call that has loaded a toolchain asks for a container. -/
theorem calls_ne_nil {ending : Ending (Artifact ⊕ Report)}
    (told : Account (ContainerState.provider engine command name) world call executed ending left)
    (running : world.pipeline.stage.isTerminal = false)
    (loaded : Toolchain.load world.files call.request.sourceRoot
      world.pipeline.config.toolchain.manifest = .ok toolchain) : left.2.calls ≠ [] := by
  cases told with
  | finished ended => exact absurd (running.symm.trans ended) (by simp)
  | unloaded running refused => exact absurd (loaded.symm.trans refused) (by simp)
  | unstarted running loaded refused =>
      obtain ⟨answer, -, _, asked, -⟩ := create_leads engine command name
        (.forRequest call.request world.pipeline.config) world.files world.sandbox
      have calls_eq : (call.begun (ContainerState.provider engine command name)
          world).sandbox.calls = _ := asked.calls_eq
      rw [World.outside, calls_eq]
      simp
  | stuck running loaded hangs => exact absurd hangs (create_ne_hung _)
  | broken running ready course stops =>
      cases ending with
      | value result => exact absurd rfl (stops result)
      | abandoned => exact absurd rfl (not_abandoned course)
      | failed failure => exact session_calls ready course _
  | reported verifies running ready course => exact session_calls ready course _
  | installed builds running ready course done => exact session_calls ready course _
  | uninstalled builds running ready course refused => exact session_calls ready course _

/-- The life that belongs to an account, and what it has led to. -/
theorem life {ending : Ending (Artifact ⊕ Report)}
    (told : Account (ContainerState.provider engine command name) world call executed ending left) :
    ∃ made, Container.Life command name (.forRequest call.request world.pipeline.config)
        executed made ∧
      Deeds engine command name (world.pipeline.config.artifactSource call.request.sourceRoot)
        (world.pipeline.config.artifactDestination call.request.targetRoot) world.outside ending
        made left := by
  cases told with
  | finished ended => exact ⟨[], .unasked, .calls (by simp) .refl⟩
  | unloaded running refused => exact ⟨[], .unasked, .calls (by simp) .refl⟩
  | unstarted running loaded refused =>
      obtain ⟨answer, failed, leads⟩ := create_leads engine command name
        (.forRequest call.request world.pipeline.config) world.files world.sandbox
      exact ⟨_, .unstarted (failed.trans refused), .calls (by simp) leads⟩
  | stuck running loaded hangs => exact absurd hangs (create_ne_hung _)
  | broken running ready course stops =>
      obtain ⟨first, answer, again, lives, removes, begins, ends⟩ := session_life ready course
      refine ⟨_, lives, .calls (fun artifact => stops _) (begins.trans ?_)⟩
      cases ending with
      | value result => exact absurd rfl (stops result)
      | abandoned => exact absurd rfl (not_abandoned course)
      | failed failure => exact ends _
  | reported verifies running ready course =>
      obtain ⟨first, answer, again, lives, removes, begins, ends⟩ := session_life ready course
      exact ⟨_, lives, .calls (by simp) (begins.trans (ends _))⟩
  | installed builds running ready course done =>
      obtain ⟨first, answer, again, lives, removes, begins, ends⟩ := session_life ready course
      exact ⟨_, lives, .install removes begins done (ends _)⟩
  | @uninstalled toolchain executed failure files builds running ready course refused =>
      obtain ⟨first, answer, again, lives, removes, begins, ends⟩ := session_life ready course
      refine ⟨_, lives, .calls (by simp) (begins.trans ?_)⟩
      rcases installArtifact_cases (call.torn (ContainerState.provider engine command name) world
          executed).files (world.pipeline.config.artifactSource call.request.sourceRoot)
          (world.pipeline.config.artifactDestination call.request.targetRoot) with
        ⟨other, same⟩ | ⟨after, mode, content, directory, last, done, -⟩
      · obtain rfl : files = _ := congrArg Prod.snd (refused.symm.trans same)
        exact ends _
      · exact absurd (refused.symm.trans done) (by simp)

end Account

end SealedBuild
