import SealedBuild.Proofs.Install.Transaction
import SealedBuild.Proofs.Pipeline.Call

/-!
# What a call leaves in the file system

Besides the steps in its sandbox nothing but the install of a call writes. The file system after a
call is therefore the one that the executed steps have left, except for the one entry at the
destination of an install that has succeeded. That the path of the destination leads to this entry
afterwards is another matter: the entry may have replaced a link that the path goes through.

Main statements: `files_of_call`, for a full run and for a verification in any world, and
`installed_entry_lost`, a run whose artifact is not found at its path.
-/

namespace SealedBuild

variable {σ α β : Type} {provider : Provider σ} {config : Config} {request : Request}
  {world : World σ}

/-- Nothing is written when a sandbox is started, torn down or let go of. -/
structure Provider.Quiet (provider : Provider σ) : Prop where
  create : ∀ session state, (provider.create session state).1.writes = []
  cleanup : ∀ state, (provider.cleanup state).1.writes = []
  drop : ∀ state, (provider.drop state).1.writes = []

/-- A scripted provider is quiet. -/
theorem Provider.scripted_quiet (reply : Step → Reply Response) : (scripted reply).Quiet := by
  constructor
  · exact fun session state => rfl
  · exact fun state => rfl
  · exact fun state => rfl

namespace Event

/-- The step that an event is about. -/
def step? : Event → Option Step
  | .step executed => some executed
  | _ => none

/-- The steps that were executed, in order. -/
def steps (events : List Event) : List Step := events.filterMap step?

/-- The executed steps of a sandbox are those between its start and its end. -/
theorem steps_eq (session : Session) (executed : List Step) {last : Event}
    (ends : last.step? = none) :
    steps (.created session :: executed.map .step ++ [last]) = executed := by
  have between : (executed.map Event.step).filterMap step? = executed := by
    rw [List.filterMap_map]
    exact List.filterMap_some
  have start : (Event.created session).step? = none := rfl
  simp [steps, List.filterMap_append, start, between, ends]

end Event

/-- The file system after the writes of the steps that were executed, and nothing else. The steps
were executed in a sandbox for a session. -/
def filesAfter (provider : Provider σ) (session : Session) (world : World σ)
    (events : List Event) : FileSystem :=
  world.files.applyAll
    (provider.writesOf (Event.steps events) (provider.create session world.sandbox).2)

namespace Pipeline

/-- Up to what is done after the teardown, every exit leaves the writes of the executed steps and
nothing else. -/
theorem Exit.files {inside : Toolchain → Action σ α} {afterwards : α → Action σ β}
    {plan : Toolchain → List Step} {path final extra : List Stage} {result : Ending β × World σ}
    (taken : Exit provider config request inside afterwards plan path final world result)
    (quiet : provider.Quiet) (closes : ∀ value, Action.Closes (afterwards value) extra) :
    ∃ events, result.2.events = world.events ++ events ∧
      (((∀ value, result.1 ≠ .value value) ∧
          result.2.files = filesAfter provider (.forRequest request config) world events) ∨
        ∃ value torn, torn.files = filesAfter provider (.forRequest request config) world events ∧
          result.1 = (afterwards value torn).1 ∧
          result.2.files = (afterwards value torn).2.files) := by
  cases taken with
  | unloaded refused => exact ⟨[], by simp, Or.inl ⟨by simp, rfl⟩⟩
  | unstarted loaded refused =>
      refine ⟨_, rfl, Or.inl ⟨by simp, ?_⟩⟩
      rw [World.asked_files, quiet.create]
      rfl
  | stuck loaded hangs =>
      refine ⟨_, rfl, Or.inl ⟨by simp, ?_⟩⟩
      rw [World.asked_files, quiet.create]
      rfl
  | @givenUp toolchain steps stages ready ending stepsAlong someStep stagesAlong =>
      refine ⟨.created (.forRequest request config) :: steps.map .step ++ [.dropped], ?_,
        Or.inl ⟨by simp, ?_⟩⟩
      · simp [World.inSession]
      · rw [filesAfter, Event.steps_eq _ _ rfl]
        simp [World.inSession, quiet.create, quiet.drop]
  | @broken toolchain steps stages failure ready ending stepsAlong stagesAlong =>
      refine ⟨.created (.forRequest request config) :: steps.map .step ++ [.cleanup], ?_,
        Or.inl ⟨by simp, ?_⟩⟩
      · simp [World.inSession, Provider.close]
      · rw [filesAfter, Event.steps_eq _ _ rfl]
        simp [World.inSession, Provider.close, quiet.create, quiet.cleanup, quiet.drop]
  | @completed toolchain value outcome ready ending afterwards_eq =>
      subst afterwards_eq
      refine ⟨.created (.forRequest request config) :: (plan toolchain).map .step ++ [.cleanup],
        ?_, Or.inr ⟨value, _, ?_, rfl, ?_⟩⟩
      · rw [Provider.letGo_events, (closes value).events_eq]
        simp [World.inSession]
      · rw [filesAfter, Event.steps_eq _ _ rfl]
        simp [World.inSession, quiet.create, quiet.cleanup]
      · rw [Provider.letGo_files, quiet.drop, FileSystem.applyAll_nil]

end Pipeline

/-- A file system differs from another one in the entry at the destination of a request only: there
it holds an executable file with the content that the built binary had. -/
structure Installed (config : Config) (request : Request) (before after : FileSystem)
    (artifact : Artifact) : Prop where
  artifact_eq : artifact = ⟨config.artifactSource request.sourceRoot,
    config.artifactDestination request.targetRoot, 0o755⟩
  entry : ∃ mode content directory name,
    before.entryAt (config.artifactSource request.sourceRoot) = .ok (.file mode content) ∧
    before.resolveParent (config.artifactDestination request.targetRoot) = .ok (directory, name) ∧
    after.lookup (directory ++ [name]) = some (.file 0o755 content) ∧
    (∀ place, place ≠ directory ++ [name] → after.lookup place = before.lookup place) ∧
    after = before.put (directory ++ [name]) (.file 0o755 content) ∧
    -- The path leads to the file too, unless the file has replaced a link that the path needs.
    ((∀ target, before.lookup (directory ++ [name]) ≠ some (.link target)) ∨
        (before.erase (directory ++ [name])).resolveParent
          (config.artifactDestination request.targetRoot) = .ok (directory, name) →
      after.entryAt (config.artifactDestination request.targetRoot) = .ok (.file 0o755 content))

namespace Pipeline

/-- An install that succeeds changes one entry, and one that does not changes nothing. -/
theorem install_files (config : Config) (request : Request) (world : World σ) :
    (∀ artifact, (install config request world).1 = .value artifact →
      Installed config request world.files (install config request world).2.files artifact) ∧
    ((∀ artifact, (install config request world).1 ≠ .value artifact) →
      (install config request world).2.files = world.files) := by
  rcases installArtifact_cases world.files (config.artifactSource request.sourceRoot)
      (config.artifactDestination request.targetRoot) with
    ⟨failure, refused⟩ | ⟨after, mode, content, directory, name, done, original, placed⟩
  · have install_eq : install config request world = (.failed failure, world) := by
      unfold install
      rw [refused]
    rw [install_eq]
    constructor
    · intro artifact ends
      cases ends
    · exact fun _ => rfl
  · have install_eq : install config request world =
        (.value ⟨config.artifactSource request.sourceRoot,
          config.artifactDestination request.targetRoot, artifactMode⟩,
          { world with files := after, pipeline := world.pipeline.advance .installed }) := by
      unfold install
      rw [done]
    rw [install_eq]
    constructor
    · intro artifact ends
      obtain rfl := Ending.value.inj ends
      refine ⟨rfl, mode, content, directory, name, original, placed.resolved, placed.lookup_self,
        fun place => placed.lookup_of_ne, placed.placed, ?_⟩
      rintro (noLink | findable)
      · exact placed.entryAt (placed.findable noLink)
      · exact placed.entryAt findable
    · exact fun stopped => absurd rfl (stopped _)

/-- A full run leaves what its executed steps have left, with the installed file if it ends with an
artifact. -/
theorem run_files (quiet : provider.Quiet) (request : Request) (world : World σ) :
    ∃ events, (run provider request world).2.events = world.events ++ events ∧
      (∀ artifact, (run provider request world).1 = .value artifact →
        Installed world.pipeline.config request
          (filesAfter provider (.forRequest request world.pipeline.config) world events)
          (run provider request world).2.files artifact) ∧
      ((∀ artifact, (run provider request world).1 ≠ .value artifact) →
        (run provider request world).2.files =
          filesAfter provider (.forRequest request world.pipeline.config) world events) := by
  cases ended : world.pipeline.stage.isTerminal with
  | true =>
      rw [run, unlessFinished_of_terminal _ ended]
      exact ⟨[], by simp, by simp, fun _ => rfl⟩
  | false =>
      obtain ⟨result, run_eq, taken⟩ := run_exit provider request ended
      obtain ⟨events, events_eq, stopped | ⟨value, torn, torn_eq, ending, files_eq⟩⟩ :=
        taken.files quiet fun _ => install_closes _ request
      · rw [run_eq, World.reached_events, World.reached_files]
        refine ⟨events, events_eq, ?_, fun _ => stopped.2⟩
        exact fun artifact ends => absurd ends (stopped.1 artifact)
      · have installed := install_files world.pipeline.config request torn
        rw [← ending, ← files_eq, torn_eq] at installed
        rw [run_eq, World.reached_events, World.reached_files]
        exact ⟨events, events_eq, installed⟩

/-- A verification leaves exactly what its executed steps have left. -/
theorem verifyOnly_files (quiet : provider.Quiet) (request : Request) (world : World σ) :
    ∃ events, (verifyOnly provider request world).2.events = world.events ++ events ∧
      (verifyOnly provider request world).2.files =
        filesAfter provider (.forRequest request world.pipeline.config) world events := by
  cases ended : world.pipeline.stage.isTerminal with
  | true =>
      rw [verifyOnly, unlessFinished_of_terminal _ ended]
      exact ⟨[], by simp, rfl⟩
  | false =>
      obtain ⟨result, verifyOnly_eq, taken⟩ := verifyOnly_exit provider request ended
      rw [verifyOnly_eq, World.reached_events, World.reached_files]
      obtain ⟨events, events_eq, stopped | ⟨value, torn, torn_eq, -, files_eq⟩⟩ :=
        taken.files quiet Action.pure_closes
      · exact ⟨events, events_eq, stopped.2⟩
      · exact ⟨events, events_eq, files_eq.trans torn_eq⟩

end Pipeline

/-- A full run that ends with an artifact differs in one entry from what the executed steps have
left, namely in the installed file. All other full runs, and all verifications, leave exactly what
the executed steps have left. -/
theorem files_of_call (quiet : provider.Quiet) (request : Request) (world : World σ) :
    (∃ events, (Pipeline.run provider request world).2.events = world.events ++ events ∧
      (∀ artifact, (Pipeline.run provider request world).1 = .value artifact →
        Installed world.pipeline.config request
          (filesAfter provider (.forRequest request world.pipeline.config) world events)
          (Pipeline.run provider request world).2.files artifact) ∧
      ((∀ artifact, (Pipeline.run provider request world).1 ≠ .value artifact) →
        (Pipeline.run provider request world).2.files =
          filesAfter provider (.forRequest request world.pipeline.config) world events)) ∧
    ∃ events, (Pipeline.verifyOnly provider request world).2.events = world.events ++ events ∧
      (Pipeline.verifyOnly provider request world).2.files =
        filesAfter provider (.forRequest request world.pipeline.config) world events := by
  constructor
  · exact Pipeline.run_files quiet request world
  · exact Pipeline.verifyOnly_files quiet request world

/-- A build that is not verified differs from what its steps have left in the installed file. -/
theorem files_of_unverified_build :
    Sample.builder.Quiet ∧ ∃ events,
      (Pipeline.run Sample.builder Sample.request Sample.start).2.events = events ∧
      Installed {} Sample.request
        (filesAfter Sample.builder (.forRequest Sample.request {}) Sample.start events)
        (Pipeline.run Sample.builder Sample.request Sample.start).2.files Sample.artifact := by
  have quiet : Sample.builder.Quiet := Provider.scripted_quiet _
  obtain ⟨⟨events, events_eq, installed, -⟩, -⟩ := files_of_call quiet Sample.request Sample.start
  exact ⟨quiet, events, events_eq, installed Sample.artifact Sample.run_value⟩

namespace Sample

/-- A configuration whose destination goes through a link and ends with the name of the link. -/
def roundabout : Config := { install := { destination := ⟨"loop/loop"⟩ } }

/-- A build that is installed at that destination, in a target with the link. -/
def roundaboutBuild : Ending Artifact × World Unit :=
  Pipeline.run builder Sample.request
    (.fresh roundabout .skip (files.apply (.link ⟨"/target/loop"⟩ ".")) ())

end Sample

/-- The path at which a run says that its binary is need not lead to it: the binary has replaced a
link that the path goes through. -/
theorem installed_entry_lost :
    Sample.builder.Quiet ∧
      Sample.roundaboutBuild.1 = .value ⟨⟨"/source/codex-rs/target/release/codex"⟩,
        ⟨"/target/loop/loop"⟩, 0o755⟩ ∧
      (Sample.roundaboutBuild.2.files.entryAt ⟨"/target/loop/loop"⟩).toOption = none ∧
      Sample.roundaboutBuild.2.files.lookup ["target", "loop"] =
        some (.file 0o755 [127, 69, 76, 70]) := by
  refine ⟨Provider.scripted_quiet _, ?_, ?_, ?_⟩
  · decide +kernel
  · decide +kernel
  · decide +kernel

end SealedBuild
