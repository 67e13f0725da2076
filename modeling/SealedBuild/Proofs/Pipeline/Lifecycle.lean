import SealedBuild.Proofs.Pipeline.Teardown

/-!
# The lifecycle of a sandbox

A sandbox is started, runs steps, and is torn down exactly once: by a cleanup when the action inside
it has ended, and by being let go of when a step hangs. If its start fails, or hangs and is given
up, there is none to tear down. A call starts one sandbox at most, and has
torn it down before it installs anything. Whether a cleanup succeeds makes no difference to a call.

Main statement: `lifecycle_of_reachable`, for every world that any sequence of calls leads to. It
rests on `Call.lifecycle` for the events of one call, and on `Pipeline.installsLast` for what has
happened when an install begins.
-/

namespace SealedBuild

variable {σ α β : Type} {provider other : Provider σ} {config : Config} {request : Request}
  {mode : VerifyMode} {world : World σ} {session : Session} {events : List Event}

/-- The events of a call that asks for a sandbox for a session. -/
inductive Lifecycle (session : Session) : Ending α → List Event → Prop
  /-- No sandbox is asked for. -/
  | unasked (failure : Failure) : Lifecycle session (.failed failure) []
  /-- The sandbox does not start. -/
  | unstarted (failure : Failure) :
      Lifecycle session (.failed failure) [.createFailed session (some failure)]
  /-- The start of the sandbox hangs, and no sandbox is started. -/
  | stuck : Lifecycle session .abandoned [.createFailed session none]
  /-- The sandbox runs steps and is cleaned up. -/
  | cleanedUp {ending : Ending α} (steps : List Step) (ended : ending ≠ .abandoned) :
      Lifecycle session ending (.created session :: steps.map .step ++ [.cleanup])
  /-- The sandbox runs steps, of which the last one hangs, and is dropped. -/
  | dropped (steps : List Step) (someStep : steps ≠ []) :
      Lifecycle session .abandoned (.created session :: steps.map .step ++ [.dropped])

namespace Event

/-- Whether a sandbox is alive after an event, or nothing if the event cannot occur: a sandbox is
asked for only if none is alive, and runs steps and is torn down only if it is alive. -/
def follow : Bool → Event → Option Bool
  | false, .created _ => some true
  | false, .createFailed _ _ => some false
  | true, .step _ => some true
  | true, .cleanup => some false
  | true, .dropped => some false
  | _, _ => none

/-- Whether a sandbox is alive after events in order, or nothing if one of them cannot occur. -/
def followAll (alive : Bool) (events : List Event) : Option Bool := events.foldlM follow alive

/-- Whether an event is the start of a sandbox. -/
def isStart : Event → Bool
  | .created _ => true
  | _ => false

/-- Whether an event is the end of a sandbox. -/
def isTeardown : Event → Bool
  | .cleanup | .dropped => true
  | _ => false

theorem followAll_append (alive : Bool) (first second : List Event) :
    followAll alive (first ++ second) =
      (followAll alive first).bind fun middle => followAll middle second := by
  simp only [followAll, List.foldlM_append]
  rfl

/-- Steps keep a sandbox alive. -/
theorem followAll_steps (steps : List Step) : followAll true (steps.map .step) = some true := by
  induction steps with
  | nil => rfl
  | cons step rest ih => exact ih

/-- A sandbox that is started, runs steps and is torn down is not alive any more. -/
theorem followAll_session (session : Session) (steps : List Step) {last : Event}
    (ends : follow true last = some false) :
    followAll false (.created session :: steps.map .step ++ [last]) = some false := by
  rw [List.cons_append, followAll, List.foldlM_cons]
  change followAll true (steps.map .step ++ [last]) = some false
  rw [followAll_append, followAll_steps]
  simp [followAll, ends]

/-- As many sandboxes are torn down as are started, but for one that is still alive. -/
theorem count_of_followAll {alive after : Bool} (possible : followAll alive events = some after) :
    events.countP isStart + alive.toNat = events.countP isTeardown + after.toNat := by
  induction events generalizing alive with
  | nil =>
      obtain rfl : alive = after := by simpa [followAll] using possible
      rfl
  | cons event rest ih =>
      obtain ⟨middle, next, possible⟩ : ∃ middle, follow alive event = some middle ∧
          followAll middle rest = some after := by
        simpa [followAll, List.foldlM_cons, Option.bind_eq_some_iff] using possible
      have rest_eq := ih possible
      rw [List.countP_cons, List.countP_cons]
      cases alive <;> cases event <;>
        simp only [follow, reduceCtorEq, Option.some.injEq] at next <;>
        subst next <;> simp [isStart, isTeardown] at rest_eq ⊢ <;> omega

end Event

namespace Lifecycle

theorem map {ending : Ending α} (form : α → β) (lifecycle : Lifecycle session ending events) :
    Lifecycle session (ending.map form) events := by
  cases lifecycle with
  | unasked failure => exact .unasked failure
  | unstarted failure => exact .unstarted failure
  | stuck => exact .stuck
  | cleanedUp steps ended =>
      refine .cleanedUp steps fun given_up => ended ?_
      cases ending with
      | value value => cases given_up
      | failed failure => cases given_up
      | abandoned => rfl
  | dropped steps someStep => exact .dropped steps someStep

/-- After a call no sandbox is alive, and no event of it is out of place. -/
theorem follow {ending : Ending α} (lifecycle : Lifecycle session ending events) :
    Event.followAll false events = some false := by
  cases lifecycle with
  | unasked failure => rfl
  | unstarted failure => rfl
  | stuck => rfl
  | cleanedUp steps ended => exact Event.followAll_session session steps rfl
  | dropped steps someStep => exact Event.followAll_session session steps rfl

end Lifecycle

namespace Pipeline

/-- Every exit leaves the events of one lifecycle. -/
theorem Exit.lifecycle {inside : Toolchain → Action σ α} {afterwards : α → Action σ β}
    {plan : Toolchain → List Step} {path final extra : List Stage} {result : Ending β × World σ}
    (taken : Exit provider config request inside afterwards plan path final world result)
    (closes : ∀ value, Action.Closes (afterwards value) extra) :
    ∃ events, result.2.events = world.events ++ events ∧
      Lifecycle (.forRequest request config) result.1 events := by
  cases taken with
  | unloaded refused => exact ⟨[], by simp, .unasked _⟩
  | unstarted loaded refused => exact ⟨_, rfl, .unstarted _⟩
  | stuck loaded hangs => exact ⟨_, rfl, .stuck⟩
  | @givenUp toolchain steps stages ready ending stepsAlong someStep stagesAlong =>
      refine ⟨_, ?_, .dropped steps someStep⟩
      simp [World.inSession]
  | @broken toolchain steps stages failure ready ending stepsAlong stagesAlong =>
      refine ⟨_, ?_, .cleanedUp steps (by simp)⟩
      simp [World.inSession, Provider.close]
  | @completed toolchain value outcome ready ending afterwards_eq =>
      subst afterwards_eq
      refine ⟨_, ?_, .cleanedUp (plan toolchain) ((closes value).ends _)⟩
      rw [Provider.letGo_events, (closes value).events_eq]
      simp [World.inSession]

end Pipeline

namespace Call

/-- The events of a call form one lifecycle. -/
theorem lifecycle (call : Call) (provider : Provider σ) (world : World σ) :
    ∃ events, (call.perform provider world).2.events = world.events ++ events ∧
      Lifecycle (.forRequest call.request world.pipeline.config) (call.perform provider world).1
        events := by
  cases ended : world.pipeline.stage.isTerminal with
  | true =>
      rw [call.perform_of_terminal ended]
      exact ⟨[], by simp, .unasked _⟩
  | false =>
      cases call with
      | run request =>
          obtain ⟨result, run_eq, taken⟩ := Pipeline.run_exit provider request ended
          obtain ⟨events, events_eq, lifecycle⟩ :=
            taken.lifecycle fun _ => Pipeline.install_closes _ request
          refine ⟨events, ?_, ?_⟩
          · simp only [perform, run_eq, World.reached_events, events_eq]
          · simp only [perform, run_eq]
            exact lifecycle.map Sum.inl
      | verifyOnly request =>
          obtain ⟨result, verifyOnly_eq, taken⟩ := Pipeline.verifyOnly_exit provider request ended
          obtain ⟨events, events_eq, lifecycle⟩ := taken.lifecycle Action.pure_closes
          refine ⟨events, ?_, ?_⟩
          · simp only [perform, verifyOnly_eq, World.reached_events, events_eq]
          · simp only [perform, verifyOnly_eq]
            exact lifecycle.map Sum.inr

end Call

namespace Pipeline

/-- A full run installs nothing before it has cleaned up its sandbox. -/
structure InstallsLast (provider : Provider σ) (request : Request) (world : World σ) : Prop where
  /-- When the install begins, the sandbox has been cleaned up. -/
  cleanedUp : ∀ begun, InstallBegins provider request world begun →
    ∃ steps : List Step, begun.events = world.events ++
      (.created (.forRequest request world.pipeline.config) :: steps.map .step ++ [.cleanup])
  /-- From there on the install decides, and nothing happens to a sandbox any more. -/
  decides : ∀ begun, InstallBegins provider request world begun →
    (let installed := install world.pipeline.config request begun
     run provider request world =
      (installed.1, (provider.letGo [] installed.2).reached installed.1.finale)) ∧
    (run provider request world).2.events = begun.events
  /-- If it does not begin, it makes no difference what stands in its place. -/
  idle : world.pipeline.stage.isTerminal = false →
    (¬ ∃ begun, InstallBegins provider request world begun) → ∀ instead : Action σ Artifact,
      run provider request world =
        finish (buildThen provider world.pipeline.config world.pipeline.mode request instead) world

theorem installsLast (provider : Provider σ) (request : Request) (world : World σ) :
    InstallsLast provider request world := by
  constructor
  · intro begun comes
    obtain ⟨-, toolchain, -, -, rfl⟩ := installBegins_iff.mp comes
    refine ⟨world.pipeline.config.runPlan toolchain world.pipeline.mode, ?_⟩
    simp [beforeInstall, World.inSession]
  · intro begun comes
    refine ⟨run_of_installBegins comes, ?_⟩
    rw [run_of_installBegins comes, World.reached_events, Provider.letGo_events, List.append_nil]
    exact (install_closes _ request).events_eq begun
  · exact run_of_not_installBegins

end Pipeline

/-- After any sequence of calls no sandbox is alive and no event is out of place. -/
theorem Reachable.follow (reachable : Reachable provider config mode world) :
    Event.followAll false world.events = some false := by
  induction reachable with
  | fresh files sandbox => rfl
  | @call world call before ih =>
      obtain ⟨events, events_eq, lifecycle⟩ := call.lifecycle provider world
      rw [events_eq, Event.followAll_append, ih]
      exact lifecycle.follow
  | elsewhere files sandbox before ih => exact ih

/-- However a pipeline has been called, every sandbox that was started has been torn down once,
before the next one was started, and has run no step after that. The events of the next call form
one lifecycle, its install comes after the cleanup, and everything about it but the state of the
provider is the same if its teardown goes differently. -/
theorem lifecycle_of_reachable (reachable : Reachable provider config mode world) (call : Call) :
    Event.followAll false world.events = some false ∧
      world.events.countP Event.isStart = world.events.countP Event.isTeardown ∧
      (∃ events, (call.perform provider world).2.events = world.events ++ events ∧
        Lifecycle (.forRequest call.request world.pipeline.config) (call.perform provider world).1
          events) ∧
      (∀ request, call = .run request → Pipeline.InstallsLast provider request world) ∧
      ∀ other, SameButTeardown provider other →
        (call.perform other world).1 = (call.perform provider world).1 ∧
        (call.perform other world).2.pipeline = (call.perform provider world).2.pipeline ∧
        (call.perform other world).2.files = (call.perform provider world).2.files ∧
        (call.perform other world).2.events = (call.perform provider world).2.events := by
  have possible := reachable.follow
  refine ⟨possible, ?_, call.lifecycle provider world, ?_, ?_⟩
  · simpa using Event.count_of_followAll possible
  · rintro request rfl
    exact Pipeline.installsLast provider request world
  · intro other same
    obtain ⟨sandbox, perform_eq⟩ := call.perform_apart same world
    rw [perform_eq]
    exact ⟨rfl, rfl, rfl, rfl⟩

/-- A build whose cleanup fails installs its binary all the same. -/
theorem lifecycle_of_failed_cleanup :
    let failing : Provider Unit :=
      { Sample.builder with cleanup := fun state => (⟨[], some (.sandbox "gone" none)⟩, state) }
    SameButTeardown Sample.builder failing ∧
      ((Call.run Sample.request).perform failing Sample.start).1 =
        .value (.inl Sample.artifact) := by
  intro failing
  have same : SameButTeardown Sample.builder failing := by
    constructor
    · rfl
    · rfl
    · exact fun state => rfl
    · exact fun state => rfl
    · exact fun state => rfl
  have reachable : Reachable Sample.builder {} .skip Sample.start := .fresh Sample.files ()
  obtain ⟨-, -, -, -, alike⟩ := lifecycle_of_reachable reachable (.run Sample.request)
  refine ⟨same, (alike failing same).1.trans ?_⟩
  rw [Call.perform, Sample.run_value]
  rfl

end SealedBuild
