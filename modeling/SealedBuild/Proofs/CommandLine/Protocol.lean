import SealedBuild.Proofs.CommandLine.Task

/-!
# The protocol with the engine

The program and the engine keep to a protocol. Nothing is called for if no container is asked for. A
container is asked for once. If it starts, the steps of the plan are executed in it from the first
one on, and then it is removed, with one more attempt if the engine refuses. All calls are about one
container name.

Main statement: `calls_of_run`, for every command line in every environment.
-/

namespace SealedBuild

variable {ε : Type} {engine : Engine ε} {command name : String} {session : Session} {state : ε}
  {plan executed : List Step} {calls made : List EngineCall}

/-- Once a call has been started, every later one is started too if a command line can hold its
arguments. -/
def Unbroken (calls : List EngineCall) : Prop :=
  calls.Pairwise fun first later => first.isStarted = true →
    (∀ arg ∈ later.args, hasZero arg = false) → later.isStarted = true

namespace Engine

/-- An engine stays runnable if every dialogue with it is unbroken. It may as well never be
runnable at all. -/
def StaysRunnable (engine : Engine ε) (state : ε) : Prop :=
  ∀ command calls writes last, engine.Dialogue command state calls writes last → Unbroken calls

/-- An engine that can always be started stays runnable. -/
theorem staysRunnable_of_exited (always : ∀ command args state, ∃ code stdout stderr,
    (engine.call command args state).1.answer = .exited code stdout stderr) :
    engine.StaysRunnable state := by
  intro command calls writes last dialogue
  refine List.pairwise_of_forall_mem_list fun first held later held' started clean => ?_
  obtain ⟨at_, answered⟩ := dialogue.answered held
  obtain ⟨at_', answered'⟩ := dialogue.answered held'
  have runnable : hasZero command = false := by
    by_contra zero
    rw [invoke, if_pos (by simp [zero])] at answered
    rw [EngineCall.isStarted, answered] at started
    cases started
  have passable : (command :: later.args).any hasZero = false := by
    rw [List.any_eq_false]
    intro arg given
    rcases List.mem_cons.mp given with rfl | given
    · simp [runnable]
    · simp [clean arg given]
  obtain ⟨code, stdout, stderr, exited⟩ := always command later.args at_'
  rw [invoke, passable] at answered'
  rw [EngineCall.isStarted, answered']
  simp [exited]

end Engine

namespace Container

/-- A removal leaves the container behind: it fails, and the engine does not say that there is no
such container. -/
def LeavesBehind (code : Option Int) (stderr : Bytes) : Prop :=
  code ≠ some 0 ∧ ContainerState.saysMissing stderr.lenientText = false

/-- The started calls of a run of the program, about a container with one name, for a plan. -/
inductive Protocol (name : String) (session : Session) (plan : List Step) :
    List EngineCall → Prop
  | idle : Protocol name session plan []
  | refused {code : Option Int} {stdout stderr : Bytes} (failed : code ≠ some 0) :
      Protocol name session plan [⟨runArgs name session, .exited code stdout stderr⟩]
  | removed {done : List Step} {executions : List EngineCall} {stdout stderr : Bytes}
      {code : Option Int} {stdout' stderr' : Bytes} (along : done <+: plan)
      (executes : executions.map (·.args) = done.map (execArgs name session))
      (gone : ¬ LeavesBehind code stderr') :
      Protocol name session plan
        (⟨runArgs name session, .exited (some 0) stdout stderr⟩ :: executions ++
          [⟨removeArgs name, .exited code stdout' stderr'⟩])
  | removedTwice {done : List Step} {executions : List EngineCall} {stdout stderr : Bytes}
      {code : Option Int} {stdout' stderr' : Bytes} {again : EngineAnswer} (along : done <+: plan)
      (executes : executions.map (·.args) = done.map (execArgs name session))
      (left : LeavesBehind code stderr') :
      Protocol name session plan
        (⟨runArgs name session, .exited (some 0) stdout stderr⟩ :: executions ++
          [⟨removeArgs name, .exited code stdout' stderr'⟩, ⟨removeArgs name, again⟩])

/-- A removal fails if it leaves the container behind, unless it has not been started. -/
theorem removeFailure?_eq_none_iff {code : Option Int} {stdout stderr : Bytes} :
    ContainerState.removeFailure? name (.exited code stdout stderr) = none ↔
      ¬ LeavesBehind code stderr := by
  unfold ContainerState.removeFailure? LeavesBehind
  dsimp only
  split
  · rename_i gone
    simp only [true_iff, not_and, Bool.not_eq_false]
    exact fun failed => gone.resolve_left failed
  · rename_i left
    rw [not_or] at left
    simp [left.1, left.2]

/-- The started calls among those that execute steps are the first ones. -/
theorem Executions.started_prefix (executes : Executions name session executed made) :
    ∃ done, done <+: executed ∧
      (made.filter (·.isStarted)).map (·.args) = done.map (execArgs name session) := by
  have along : made.filter (·.isStarted) <+: made := by
    rcases List.eq_nil_or_concat made with rfl | ⟨front, last, rfl⟩
    · exact List.prefix_refl _
    · rw [List.concat_eq_append] at executes ⊢
      have started := executes.started
      rw [List.dropLast_concat] at started
      rw [List.filter_append, List.filter_eq_self.mpr started]
      refine (List.prefix_append_right_inj front).mpr ?_
      cases started : last.isStarted <;> simp [started]
  refine ⟨executed.take (made.filter (·.isStarted)).length, List.take_prefix _ _, ?_⟩
  rw [List.map_take, ← executes.args_eq, ← List.map_take, ← List.prefix_iff_eq_take.mp along]

/-- The first attempt to remove a container is started, and so is the second one if there is one. -/
theorem Removals.started (removes : Removals name calls)
    (started : ∀ call ∈ calls, call.isStarted = true) :
    (∃ code stdout stderr, ¬ LeavesBehind code stderr ∧
        calls = [⟨removeArgs name, .exited code stdout stderr⟩]) ∨
      ∃ code stdout stderr again, LeavesBehind code stderr ∧
        calls = [⟨removeArgs name, .exited code stdout stderr⟩, ⟨removeArgs name, again⟩] := by
  cases removes with
  | @once answer gone =>
      cases answer with
      | notStarted error => cases gone
      | exited code stdout stderr =>
          exact Or.inl ⟨code, stdout, stderr, removeFailure?_eq_none_iff.mp gone, rfl⟩
  | @twice first second failure left =>
      cases first with
      | notStarted error => cases started _ List.mem_cons_self
      | exited code stdout stderr =>
          refine Or.inr ⟨code, stdout, stderr, second, ?_, rfl⟩
          by_contra gone
          rw [removeFailure?_eq_none_iff.mpr gone] at left
          cases left

/-- The started calls of a life keep to the protocol. -/
theorem Life.protocol (life : Life command name session executed made) (along : executed <+: plan)
    (answered : ∀ call ∈ made, ∃ state : ε,
      call.answer = (engine.invoke command call.args state).1.answer)
    (unbroken : Unbroken made) :
    Protocol name session plan (made.filter (·.isStarted)) := by
  cases life with
  | unasked => exact .idle
  | @unstarted answer failure refused =>
      cases answer with
      | notStarted error => exact .idle
      | exited code stdout stderr =>
          refine .refused fun succeeded => ?_
          rw [ContainerState.launch_eq_started_iff.mpr ⟨stdout, stderr, by rw [succeeded]⟩]
            at refused
          cases refused
  | @removed executed stdout stderr executions removals executes removes =>
      -- The name has been passed to the engine, so it can be passed again.
      obtain ⟨state, start⟩ := answered _ List.mem_cons_self
      have clean : hasZero name = false :=
        Engine.args_of_isStarted start rfl name (by simp [runArgs])
      have removable : ∀ call ∈ removals, ∀ arg ∈ call.args, hasZero arg = false := by
        have fixed : ∀ arg ∈ removeArgs name, hasZero arg = false := by
          intro arg held
          simp only [removeArgs, List.mem_cons, List.not_mem_nil, or_false] at held
          rcases held with rfl | rfl | rfl
          · decide
          · decide
          · exact clean
        intro call held
        rw [removes.args_of_mem held]
        exact fixed
      have started : ∀ call ∈ removals, call.isStarted = true := by
        intro call held
        rw [Unbroken, List.cons_append, List.pairwise_cons] at unbroken
        exact unbroken.1 call (List.mem_append_right _ held) rfl (removable call held)
      obtain ⟨done, early, executes'⟩ := executes.started_prefix
      have started_eq : (⟨runArgs name session, .exited (some 0) stdout stderr⟩ ::
          executions ++ removals).filter (·.isStarted) =
          ⟨runArgs name session, .exited (some 0) stdout stderr⟩ ::
            executions.filter (·.isStarted) ++ removals := by
        rw [List.filter_append, List.filter_eq_self.mpr started]
        rfl
      rw [started_eq]
      rcases removes.started started with
        ⟨code, stdout', stderr', gone, rfl⟩ | ⟨code, stdout', stderr', again, left, rfl⟩
      · exact .removed (early.trans along) executes' gone
      · exact .removedTwice (early.trans along) executes' left

/-- A container that has been started is removed at least once. -/
theorem Protocol.removal {other : Session} {stdout stderr : Bytes}
    (keeps : Protocol name session plan calls)
    (started : ⟨runArgs name other, .exited (some 0) stdout stderr⟩ ∈ calls) :
    ∃ answer, ⟨removeArgs name, answer⟩ ∈ calls := by
  cases keeps with
  | idle => cases started
  | refused failed =>
      have answers := congrArg EngineCall.answer (List.mem_singleton.mp started)
      exact absurd (EngineAnswer.exited.inj answers).1.symm failed
  | removed along executes gone => exact ⟨_, List.mem_append_right _ List.mem_cons_self⟩
  | removedTwice along executes left => exact ⟨_, List.mem_append_right _ List.mem_cons_self⟩

end Container

namespace CommandLine

/-- The calls of the engine that are started during a run of the program. -/
def startedCalls (engine : Engine ε) (name : String) (args : List String)
    (environment : String → Option String) (program : Path) (files : FileSystem) (state : ε) :
    List EngineCall :=
  (runWithContainers engine name args environment program files state).2.2.calls.filter
    (·.isStarted)

/-- The calls of a program keep to the protocol for its task, and there are none if it has none. In
any case a container that has been started is removed at least once. -/
theorem calls_of_run (engine : Engine ε) (name : String) (args : List String)
    (environment : String → Option String) (program : Path) (files : FileSystem) (state : ε)
    (stays : engine.StaysRunnable state) :
    (startedCalls engine name args environment program files state = [] ∨
      ∃ arguments task toolchain, Arguments.parse args environment = .ok arguments ∧
        Task.ofArguments arguments files program = .ok task ∧
        Toolchain.load files task.request.sourceRoot task.config.toolchain.manifest =
          .ok toolchain ∧
        Container.Protocol name (.forRequest task.request task.config)
          (task.call.plan task.config task.mode toolchain).steps
          (startedCalls engine name args environment program files state)) ∧
    ∀ session stdout stderr, ⟨Container.runArgs name session, .exited (some 0) stdout stderr⟩ ∈
        startedCalls engine name args environment program files state →
      ∃ answer, ⟨Container.removeArgs name, answer⟩ ∈
        startedCalls engine name args environment program files state := by
  have keeps : startedCalls engine name args environment program files state = [] ∨
      ∃ arguments task toolchain, Arguments.parse args environment = .ok arguments ∧
        Task.ofArguments arguments files program = .ok task ∧
        Toolchain.load files task.request.sourceRoot task.config.toolchain.manifest =
          .ok toolchain ∧
        Container.Protocol name (.forRequest task.request task.config)
          (task.call.plan task.config task.mode toolchain).steps
          (startedCalls engine name args environment program files state) := by
    unfold startedCalls
    rcases ran : runWithContainers engine name args environment program files state with
      ⟨output, left, final⟩
    cases parsed : Arguments.parse args environment with
    | error stop =>
        obtain ⟨-, rfl⟩ := runWithContainers_of_stop parsed ran
        exact Or.inl rfl
    | ok arguments =>
        cases given : Task.ofArguments arguments files program with
        | error failure =>
            obtain ⟨-, -, rfl⟩ := runWithContainers_of_refused parsed given ran
            exact Or.inl rfl
        | ok task =>
            obtain ⟨-, executed, told⟩ := runWithContainers_of_task parsed given ran
            rcases told.along with left_eq | ⟨toolchain, loaded, along⟩
            · obtain rfl : final = .initial state := congrArg Prod.snd left_eq
              exact Or.inl rfl
            · obtain ⟨calls, life, deeds⟩ := told.life
              obtain ⟨writes, made⟩ := deeds.made
              rw [Task.call_request] at life loaded
              obtain rfl : final.calls = calls := made.calls_eq
              refine Or.inr ⟨arguments, task, toolchain, rfl, given, loaded, ?_⟩
              exact life.protocol along (fun call held => made.dialogue.answered held)
                (stays _ _ _ _ made.dialogue)
  refine ⟨keeps, fun session stdout stderr started => ?_⟩
  rcases keeps with idle | ⟨arguments, task, toolchain, -, -, -, protocol⟩
  · rw [idle] at started
    cases started
  · exact protocol.removal started

end CommandLine

namespace Sample

/-- An engine that does everything but remove a container. -/
def stubborn : Engine Unit where
  call _ args state := (⟨[], .exited (some (if "rm" ∈ args then 1 else 0)) [] []⟩, state)

/-- The calls of a build that is not verified. -/
def stubbornCalls : List EngineCall :=
  CommandLine.startedCalls stubborn "box" ["/target", "--source-root", "/source", "--skip-verify"]
    (fun _ => none) ⟨""⟩ files ()

end Sample

/-- An engine that cannot remove a container is asked to start it, to execute the five steps of a
build, and twice to remove it. -/
theorem CommandLine.calls_of_stubborn_engine :
    Sample.stubborn.StaysRunnable () ∧
      Sample.stubbornCalls.map (·.args.head?) =
        [some "run", some "exec", some "exec", some "exec", some "exec", some "exec", some "rm",
          some "rm"] ∧
      ∃ session plan, Container.Protocol "box" session plan Sample.stubbornCalls := by
  have stays : Sample.stubborn.StaysRunnable () :=
    Engine.staysRunnable_of_exited fun command args state => ⟨_, _, _, rfl⟩
  have verbs : Sample.stubbornCalls.map (·.args.head?) =
      [some "run", some "exec", some "exec", some "exec", some "exec", some "exec", some "rm",
        some "rm"] := by decide +kernel
  obtain ⟨idle | ⟨arguments, task, toolchain, -, -, -, protocol⟩, -⟩ :=
    calls_of_run Sample.stubborn "box" ["/target", "--source-root", "/source", "--skip-verify"]
      (fun _ => none) ⟨""⟩ Sample.files () stays
  · rw [Sample.stubbornCalls, idle] at verbs
    cases verbs
  · exact ⟨stays, verbs, _, _, protocol⟩

end SealedBuild
