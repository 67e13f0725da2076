import SealedBuild.Proofs.Container.Calls
import SealedBuild.Proofs.OsPath

/-!
# Removing a container

A container that has been started is used in any way: steps are executed in it, it is cleaned up,
and it is let go of, in any order and any number of times. Only the last attempt to remove it can be
one that succeeds. Until then every clean-up attempts it once more and fails if the attempt does;
after that no clean-up calls the engine. Letting go of the container is the last attempt at most.

Main statement: `removal_of_uses`, for any uses of a container that has been started.
-/

namespace SealedBuild

open Text

variable {ε : Type} {engine : Engine ε} {command name : String} {session : Session}

/-- A use of a container. -/
inductive ContainerUse
  | run (step : Step)
  | cleanup
  | drop

/-- An answer to a removal leaves nothing to be removed. -/
def EngineAnswer.Removes : EngineAnswer → Prop
  | .notStarted _ => False
  | .exited code _ stderr =>
    code = some 0 ∨ contains stderr.lenientText "No such container" = true ∨
      contains stderr.lenientText "no such container" = true

theorem ContainerState.removeFailure?_eq_none_iff_removes {answer : EngineAnswer} :
    removeFailure? name answer = none ↔ answer.Removes := by
  cases answer with
  | notStarted error => simp [removeFailure?, EngineAnswer.Removes]
  | exited code stdout stderr =>
    rw [EngineAnswer.Removes, ← Bool.or_eq_true, ← saysMissing]
    unfold removeFailure?
    dsimp only
    split
    · rename_i gone
      exact iff_of_true rfl gone
    · rename_i left
      exact iff_of_false (Option.some_ne_none _) left

/-- The attempts to remove a container among calls. -/
def attempts (name : String) (calls : List EngineCall) : List EngineCall :=
  calls.filter fun call => call.args = Container.removeArgs name

@[simp] theorem attempts_append (first second : List EngineCall) :
    attempts name (first ++ second) = attempts name first ++ attempts name second :=
  List.filter_append ..

@[simp] theorem attempts_remove (answer : EngineAnswer) :
    attempts name [⟨Container.removeArgs name, answer⟩] =
      [⟨Container.removeArgs name, answer⟩] := by
  simp [attempts]

/-- Executing a step is no attempt to remove a container. -/
@[simp] theorem attempts_exec (step : Step) (answer : EngineAnswer) :
    attempts name [⟨Container.execArgs name session step, answer⟩] = [] := by
  simp [attempts, Container.execArgs, Container.removeArgs]

/-- A container has been removed by one of the calls. -/
def Removed (name : String) (calls : List EngineCall) : Prop :=
  ∃ call ∈ attempts name calls, call.answer.Removes

/-- Attempts fail until at most one succeeds, which is the last one. -/
def IsRetried (made : List EngineCall) : Prop :=
  ∃ (failed : List EngineCall) (last : Option EngineCall), made = failed ++ last.toList ∧
    (∀ call ∈ failed, ¬ call.answer.Removes) ∧ ∀ call ∈ last, call.answer.Removes

namespace ContainerState

variable {state : ContainerState ε} {container : Container} {made : List EngineCall}

/-- The state after a use. -/
def use (engine : Engine ε) (state : ContainerState ε) : ContainerUse → ContainerState ε
  | .run step => (run engine step state).2
  | .cleanup => (cleanup engine state).2
  | .drop => (drop engine state).2

/-- The state after uses, one after another. -/
def afterUses (engine : Engine ε) (state : ContainerState ε) (uses : List ContainerUse) :
    ContainerState ε :=
  uses.foldl (use engine) state

@[simp] theorem afterUses_nil : afterUses engine state [] = state := rfl

@[simp] theorem afterUses_cons (next : ContainerUse) (uses : List ContainerUse) :
    afterUses engine state (next :: uses) = afterUses engine (use engine state next) uses := rfl

/-! ### What one use does -/

/-- Cleaning up a container that has not been removed is one call, which decides whether it is
removed now. -/
theorem cleanup_made (engine : Engine ε) (alive : state.container = some container)
    (present : container.removed = false) :
    ∃ answer,
      Made engine container.command state [⟨Container.removeArgs container.name, answer⟩]
        (cleanup engine state).1.writes (cleanup engine state).2 ∧
      ((cleanup engine state).1.answer = none ↔ answer.Removes) ∧
      (answer.Removes →
        (cleanup engine state).2.container = some { container with removed := true }) ∧
      (¬ answer.Removes → (cleanup engine state).2.container = some container) := by
  rcases invoked : state.invoke engine container.command (Container.removeArgs container.name) with
    ⟨reply, next⟩
  have called := invoke_made engine container.command state (Container.removeArgs container.name)
  rw [invoked] at called
  rw [cleanup_of_present alive present invoked]
  refine ⟨reply.answer, called.withContainer _, removeFailure?_eq_none_iff_removes, ?_, ?_⟩
  · intro removes
    rw [removeFailure?_eq_none_iff_removes.mpr removes]
    rfl
  · intro fails
    have failed : (removeFailure? container.name reply.answer).isNone = false := by
      rw [← Bool.not_eq_true, Option.isNone_iff_eq_none, removeFailure?_eq_none_iff_removes]
      exact fails
    rw [failed, ← present]

/-- Letting go of a container is cleaning it up, and leaves none behind. -/
theorem drop_eq (engine : Engine ε) (state : ContainerState ε) :
    drop engine state = (⟨(cleanup engine state).1.writes, ()⟩,
      { (cleanup engine state).2 with container := none }) := rfl

/-- Where no container is, nothing happens any more. -/
theorem use_of_gone (gone : state.container = none) (next : ContainerUse) :
    use engine state next = state := by
  cases next with
  | run step => simp [use, run, gone]
  | cleanup => simp [use, cleanup, gone]
  | drop =>
    obtain ⟨engine, calls, held⟩ := state
    obtain rfl : held = none := gone
    rfl

theorem afterUses_of_gone (gone : state.container = none) (uses : List ContainerUse) :
    afterUses engine state uses = state := by
  induction uses with
  | nil => rfl
  | cons next uses ih => rw [afterUses_cons, use_of_gone gone, ih]

/-- A container that has been removed stays so until it is let go of. -/
theorem container_of_removed (alive : state.container = some container)
    (removed : container.removed = true) {uses : List ContainerUse} (held : .drop ∉ uses) :
    (afterUses engine state uses).container = some container := by
  induction uses generalizing state with
  | nil => exact alive
  | cons next uses ih =>
    obtain ⟨first, later⟩ := not_or.mp (mt List.mem_cons.mpr held)
    refine ih ?_ later
    cases next with
    | run step => exact (run_made engine alive step).1
    | cleanup =>
      rw [use, cleanup_of_removed alive removed]
      exact alive
    | drop => exact absurd rfl first

/-! ### Where the removal stands -/

/-- Where the removal of a container stands after calls have been made: it is present and all
attempts have failed, or it is removed and the last attempt alone has succeeded, or nothing is left
that could be called for. -/
inductive Stands (container : Container) (made : List EngineCall) : Option Container → Prop
  | present (pending : ∀ call ∈ attempts container.name made, ¬ call.answer.Removes) :
      Stands container made (some container)
  | removed {failed : List EngineCall} {last : EngineCall}
      (attempts_eq : attempts container.name made = failed ++ [last])
      (pending : ∀ call ∈ failed, ¬ call.answer.Removes) (removes : last.answer.Removes) :
      Stands container made (some { container with removed := true })
  | gone (retried : IsRetried (attempts container.name made)) : Stands container made none

namespace Stands

variable {held : Option Container}

/-- Wherever it stands, attempts fail until at most one succeeds. -/
theorem isRetried (stands : Stands container made held) :
    IsRetried (attempts container.name made) := by
  cases stands with
  | present pending => exact ⟨_, none, (List.append_nil _).symm, pending, by simp⟩
  | @removed failed last attempts_eq pending removes =>
    exact ⟨failed, some last, attempts_eq, pending, by simpa using removes⟩
  | gone retried => exact retried

/-- The container that is left is the one that was started. -/
theorem container_eq {left : Container} (stands : Stands container made (some left)) :
    left = { container with removed := left.removed } := by
  cases stands <;> rfl

/-- Executing a step makes no difference. -/
theorem run (stands : Stands container made held) (step : Step) (answer : EngineAnswer) :
    Stands container (made ++ [⟨Container.execArgs container.name container.session step, answer⟩])
      held := by
  have same : attempts container.name
      (made ++ [⟨Container.execArgs container.name container.session step, answer⟩]) =
      attempts container.name made := by simp
  cases stands with
  | present pending => exact .present (by rwa [same])
  | removed attempts_eq pending removes => exact .removed (same.trans attempts_eq) pending removes
  | gone retried => exact .gone (by rwa [same])

/-- Where nothing is done, nothing is called for. -/
theorem unchanged {next : ContainerState ε} (stands : Stands container made state.container)
    (same : next = state) :
    ∃ more writes, Made engine command state more writes next ∧
      Stands container (made ++ more) next.container := by
  subst same
  exact ⟨[], [], .refl next, by simpa using stands⟩

end Stands

/-- Executing a step changes nothing about where the removal stands. -/
theorem run_stands (engine : Engine ε) (stands : Stands container made state.container)
    (step : Step) :
    ∃ more writes, Made engine container.command state more writes (run engine step state).2 ∧
      Stands container (made ++ more) (run engine step state).2.container := by
  cases alive : state.container with
  | none => exact stands.unchanged (use_of_gone alive (.run step))
  | some left =>
    obtain ⟨kept, answer, -, called⟩ := run_made engine alive step
    rw [alive] at stands
    rw [stands.container_eq] at called
    rw [kept]
    exact ⟨_, _, called, stands.run step answer⟩

/-- Cleaning up attempts to remove a container that is present, and the attempt decides where the
removal stands. -/
theorem cleanup_stands (engine : Engine ε) (stands : Stands container made state.container) :
    ∃ more writes, Made engine container.command state more writes (cleanup engine state).2 ∧
      Stands container (made ++ more) (cleanup engine state).2.container := by
  cases alive : state.container with
  | none => exact stands.unchanged (use_of_gone alive .cleanup)
  | some left =>
    cases removed : left.removed with
    | true => exact stands.unchanged (congrArg Prod.snd (cleanup_of_removed alive removed))
    | false =>
      obtain ⟨answer, called, -, succeeds, fails⟩ := cleanup_made engine alive removed
      rw [alive] at stands
      cases stands with
      | removed attempts_eq pending removes => cases removed
      | present pending =>
        refine ⟨_, _, called, ?_⟩
        by_cases removes : answer.Removes
        · rw [succeeds removes]
          exact .removed (by rw [attempts_append, attempts_remove]) pending removes
        · rw [fails removes]
          refine .present fun call held => ?_
          rw [attempts_append, attempts_remove] at held
          rcases List.mem_append.mp held with earlier | now
          · exact pending call earlier
          · obtain rfl := List.mem_singleton.mp now
            exact removes

/-- Whatever the use, the calls that it makes tell where the removal stands afterwards. -/
theorem use_stands (engine : Engine ε) (stands : Stands container made state.container)
    (next : ContainerUse) :
    ∃ more writes, Made engine container.command state more writes (use engine state next) ∧
      Stands container (made ++ more) (use engine state next).container := by
  cases next with
  | run step => exact run_stands engine stands step
  | cleanup => exact cleanup_stands engine stands
  | drop =>
    obtain ⟨more, writes, called, stands'⟩ := cleanup_stands engine stands
    exact ⟨more, writes, called.withContainer none, .gone stands'.isRetried⟩

/-- After any uses the calls that they have made tell where the removal stands. -/
theorem afterUses_stands (engine : Engine ε) (stands : Stands container made state.container)
    (uses : List ContainerUse) :
    ∃ more writes, Made engine container.command state more writes (afterUses engine state uses) ∧
      Stands container (made ++ more) (afterUses engine state uses).container := by
  induction uses generalizing state made with
  | nil => exact ⟨[], [], .refl state, by simpa using stands⟩
  | cons next uses ih =>
    obtain ⟨first, writes, called, stands'⟩ := use_stands engine stands next
    obtain ⟨more, others, called', stands''⟩ := ih stands'
    rw [List.append_assoc] at stands''
    exact ⟨first ++ more, writes ++ others, called.trans called', stands''⟩

/-- Only letting go leaves no container behind. -/
theorem container_use_eq_none_iff (next : ContainerUse) :
    (use engine state next).container = none ↔ state.container = none ∨ next = .drop := by
  cases alive : state.container with
  | none => simp [use_of_gone alive, alive]
  | some container =>
    cases next with
    | run step => simp [use, (run_made engine alive step).1]
    | drop => simp [use, drop_eq]
    | cleanup =>
      cases removed : container.removed with
      | true => simp [use, cleanup_of_removed alive removed, alive]
      | false =>
        obtain ⟨answer, -, -, succeeds, fails⟩ := cleanup_made engine alive removed
        by_cases removes : answer.Removes
        · simp [use, succeeds removes]
        · simp [use, fails removes]

theorem container_afterUses_eq_none_iff (engine : Engine ε) (state : ContainerState ε)
    (uses : List ContainerUse) :
    (afterUses engine state uses).container = none ↔ state.container = none ∨ .drop ∈ uses := by
  induction uses generalizing state with
  | nil => simp
  | cons next uses ih =>
    rw [afterUses_cons, ih, container_use_eq_none_iff, List.mem_cons,
      or_assoc, eq_comm (a := next)]

/-! ### What comes next -/

/-- What cleaning up and letting go of a container do when calls have been made. -/
structure RemovalContract (engine : Engine ε) (name : String) (made : List EngineCall)
    (state : ContainerState ε) : Prop where
  /-- After a removal neither of them calls the engine, and cleaning up does not fail. -/
  idle : Removed name made →
    cleanup engine state = (⟨[], none⟩, state) ∧ (drop engine state).2.calls = state.calls
  /-- Before that each of them is one attempt, and cleaning up fails if the attempt does. -/
  attempt : ¬ Removed name made → ∃ answer,
    (cleanup engine state).2.calls = state.calls ++ [⟨Container.removeArgs name, answer⟩] ∧
    (drop engine state).2.calls = state.calls ++ [⟨Container.removeArgs name, answer⟩] ∧
    ((cleanup engine state).1.answer = none ↔ answer.Removes)
  /-- If cleaning up fails, the container is as it was, and is attempted again by what is next. -/
  kept : (cleanup engine state).1.answer ≠ none →
    (cleanup engine state).2.container = state.container ∧ ∃ answer,
      (cleanup engine (cleanup engine state).2).2.calls =
        (cleanup engine state).2.calls ++ [⟨Container.removeArgs name, answer⟩] ∧
      (drop engine (cleanup engine state).2).2.calls =
        (cleanup engine state).2.calls ++ [⟨Container.removeArgs name, answer⟩]
  /-- If it does not fail, it neither fails nor calls the engine later on. -/
  settled : (cleanup engine state).1.answer = none → ∀ more, .drop ∉ more →
    cleanup engine (afterUses engine (cleanup engine state).2 more) =
      (⟨[], none⟩, afterUses engine (cleanup engine state).2 more)
  /-- After letting go nothing happens any more. -/
  final : ∀ more, afterUses engine (drop engine state).2 more = (drop engine state).2

/-- Wherever the removal of a container stands that has not been let go of, the contract is kept. -/
theorem Stands.contract (new : container.removed = false)
    (stands : Stands container made state.container) (alive : state.container ≠ none) :
    RemovalContract engine container.name made state := by
  have final : ∀ more, afterUses engine (drop engine state).2 more = (drop engine state).2 :=
    afterUses_of_gone rfl
  generalize held_eq : state.container = held at stands
  cases stands with
  | gone retried => exact absurd held_eq alive
  | @removed failed last attempts_eq pending removes =>
    have removed : Removed container.name made := ⟨last, by simp [attempts_eq], removes⟩
    have cleanup_eq : cleanup engine state = (⟨[], none⟩, state) := cleanup_of_removed held_eq rfl
    refine ⟨fun _ => ⟨cleanup_eq, ?_⟩, absurd removed, ?_, ?_, final⟩
    · rw [drop_eq, cleanup_eq]
    · simp [cleanup_eq]
    · intro _ more held
      rw [cleanup_eq]
      exact cleanup_of_removed (container_of_removed held_eq rfl held) rfl
  | present pending =>
    have unremoved : ¬ Removed container.name made := by
      rintro ⟨call, held, removes⟩
      exact pending call held removes
    obtain ⟨answer, called, answer_iff, succeeds, fails⟩ := cleanup_made engine held_eq new
    refine ⟨fun removed => absurd removed unremoved, ?_, ?_, ?_, final⟩
    · intro _
      exact ⟨answer, called.calls_eq, called.calls_eq, answer_iff⟩
    · intro failed
      have alive' := fails (mt answer_iff.mpr failed)
      obtain ⟨again, called', -⟩ := cleanup_made engine alive' new
      exact ⟨alive'.trans held_eq.symm, again, called'.calls_eq, called'.calls_eq⟩
    · intro ended more held
      have removed := succeeds (answer_iff.mp ended)
      exact cleanup_of_removed (container_of_removed removed rfl held) rfl

/-- A container that has been started is removed at most once, and every attempt before that has
failed. As long as it has not been let go of, the next clean-up and the end keep to the contract;
after that nothing happens. -/
theorem removal_of_uses
    (started : (create engine command name session state).1.answer = .started)
    (uses : List ContainerUse) :
    ∃ made writes,
      Made engine command (create engine command name session state).2 made writes
        (afterUses engine (create engine command name session state).2 uses) ∧
      IsRetried (attempts name made) ∧
      (.drop ∉ uses → RemovalContract engine name made
        (afterUses engine (create engine command name session state).2 uses)) ∧
      (.drop ∈ uses → ∀ more,
        afterUses engine (afterUses engine (create engine command name session state).2 uses) more =
          afterUses engine (create engine command name session state).2 uses) := by
  have alive := create_container started
  have new : Stands ⟨command, name, session, false⟩ []
      (create engine command name session state).2.container := by
    rw [alive]
    exact .present (by simp [attempts])
  obtain ⟨made, writes, called, stands⟩ := afterUses_stands engine new uses
  have none_iff := container_afterUses_eq_none_iff engine
    (create engine command name session state).2 uses
  rw [alive] at none_iff
  refine ⟨made, writes, called, stands.isRetried, ?_, ?_⟩
  · intro held
    exact stands.contract rfl (by simpa [none_iff] using held)
  · intro held
    exact afterUses_of_gone (none_iff.mpr (.inr held))

end ContainerState

namespace Sample

/-- An engine whose second call fails, and no other. -/
def hesitant : Engine Nat where
  call _ _ state := (⟨[], .exited (some (if state = 1 then 1 else 0)) [] []⟩, state + 1)

/-- A session without mounts. -/
def hut : Session := ⟨"rust", [], .ofPath ⟨"/workspace"⟩, [], 60⟩

/-- The start of a container for the session. -/
def hutStart : Reply Launch × ContainerState Nat :=
  ContainerState.create hesitant "docker" "hut" hut (.initial 0)

theorem runArgs_hut : Container.runArgs "hut" hut =
    ["run", "--detach", "--rm", "--name", "hut", "--workdir", "/workspace", "--entrypoint", "sleep",
      "rust", "60"] := by
  rw [Container.runArgs, hut, OsPath.display_ofPath]
  rfl

/-- Two attempts to remove the container, with a step in between. -/
def hutUses : List ContainerUse := [.cleanup, .run ⟨"make", []⟩, .cleanup]

end Sample

/-- A container whose first clean-up fails is removed by the second one. -/
theorem ContainerState.removal_by_second_attempt :
    Sample.hutStart.1.answer = .started ∧ .drop ∉ Sample.hutUses ∧
    ∃ made writes,
      Made Sample.hesitant "docker" Sample.hutStart.2 made writes
        (afterUses Sample.hesitant Sample.hutStart.2 Sample.hutUses) ∧
      (attempts "hut" made).map (·.answer) = [.exited (some 1) [] [], .exited (some 0) [] []] ∧
      RemovalContract Sample.hesitant "hut" made
        (afterUses Sample.hesitant Sample.hutStart.2 Sample.hutUses) := by
  have started : Sample.hutStart.1.answer = .started := by
    rw [Sample.hutStart, create, Sample.runArgs_hut]
    rfl
  have first : Sample.hutStart.2.calls.length = 1 := by
    rw [Sample.hutStart, create, Sample.runArgs_hut]
    rfl
  have held : .drop ∉ Sample.hutUses := by simp [Sample.hutUses]
  obtain ⟨made, writes, called, -, contract, -⟩ := removal_of_uses started Sample.hutUses
  refine ⟨started, held, made, writes, called, ?_, contract held⟩
  have made_eq : (afterUses Sample.hesitant Sample.hutStart.2 Sample.hutUses).calls.drop 1 =
      made := by
    exact called.calls_eq ▸ List.drop_left' first
  rw [← made_eq]
  decide +kernel

end SealedBuild
