import Mathlib.Data.List.Forall2
import SealedBuild.Container
import SealedBuild.Proofs.Sandbox.Conversation

/-!
# The calls of a container's life

Every request to a container is one call of the engine, except that letting go of a container calls
it only if the container has not been removed. The calls are a dialogue with the engine, which
decides every answer and everything that is written. The log of calls tells the life of a container:
it is started, steps are executed in it, and it is removed.

Main statements: `create_made`, `stateAfter_made` and `removals_made`, the calls that are made while
a container is started, used and removed.
-/

namespace SealedBuild

variable {ε : Type} {engine : Engine ε} {command name : String} {session : Session}

namespace Engine

/-- A command that is called a number of times, from one state of the engine to another, with all
that the engine writes. -/
inductive Dialogue (engine : Engine ε) (command : String) :
    ε → List EngineCall → List Write → ε → Prop
  | nil (state : ε) : Dialogue engine command state [] [] state
  | cons {state last : ε} {calls : List EngineCall} {writes : List Write} (args : List String)
      (more : Dialogue engine command (engine.invoke command args state).2 calls writes last) :
      Dialogue engine command state
        (⟨args, (engine.invoke command args state).1.answer⟩ :: calls)
        ((engine.invoke command args state).1.writes ++ writes) last

namespace Dialogue

variable {state middle last : ε} {calls more : List EngineCall} {writes others : List Write}

theorem single (args : List String) :
    Dialogue engine command state [⟨args, (engine.invoke command args state).1.answer⟩]
      (engine.invoke command args state).1.writes (engine.invoke command args state).2 := by
  simpa using Dialogue.cons args (.nil (engine.invoke command args state).2)

theorem append (first : Dialogue engine command state calls writes middle)
    (second : Dialogue engine command middle more others last) :
    Dialogue engine command state (calls ++ more) (writes ++ others) last := by
  induction first with
  | nil => exact second
  | cons args rest ih =>
      rw [List.cons_append, List.append_assoc]
      exact .cons args (ih second)

/-- Without a call nothing is written. -/
theorem writes_of_nil (dialogue : Dialogue engine command state [] writes last) : writes = [] := by
  cases dialogue
  rfl

/-- Every call has been answered by the engine. -/
theorem answered (dialogue : Dialogue engine command state calls writes last) {call : EngineCall}
    (held : call ∈ calls) :
    ∃ at_, call.answer = (engine.invoke command call.args at_).1.answer := by
  induction dialogue with
  | nil => cases held
  | @cons state last calls writes args rest ih =>
      rcases List.mem_cons.mp held with rfl | later
      · exact ⟨state, rfl⟩
      · exact ih later

end Dialogue

/-- A call is started only if a command line can hold its arguments. -/
theorem args_of_isStarted {state : ε} {call : EngineCall}
    (answered : call.answer = (engine.invoke command call.args state).1.answer)
    (started : call.isStarted = true) : ∀ arg ∈ call.args, hasZero arg = false := by
  unfold invoke at answered
  split at answered
  · rw [EngineCall.isStarted, answered] at started
    cases started
  · rename_i clean
    intro arg held
    rw [Bool.not_eq_true, List.any_eq_false] at clean
    exact Bool.eq_false_iff.mpr (clean arg (List.mem_cons_of_mem _ held))

end Engine

namespace ContainerState

variable {state before middle after : ContainerState ε} {container : Container}
  {made more : List EngineCall} {writes others : List Write}

/-- Calls have been made between two states, with all that the engine has written. -/
structure Made (engine : Engine ε) (command : String) (before : ContainerState ε)
    (made : List EngineCall) (writes : List Write) (after : ContainerState ε) : Prop where
  calls_eq : after.calls = before.calls ++ made
  dialogue : engine.Dialogue command before.engine made writes after.engine

namespace Made

theorem refl (state : ContainerState ε) : Made engine command state [] [] state :=
  ⟨(List.append_nil _).symm, .nil _⟩

theorem trans (first : Made engine command before made writes middle)
    (second : Made engine command middle more others after) :
    Made engine command before (made ++ more) (writes ++ others) after :=
  ⟨by rw [second.calls_eq, first.calls_eq, List.append_assoc],
    first.dialogue.append second.dialogue⟩

/-- The container itself does not count among the calls. -/
theorem withContainer (first : Made engine command before made writes after)
    (container? : Option Container) :
    Made engine command before made writes { after with container := container? } :=
  ⟨first.calls_eq, first.dialogue⟩

end Made

theorem invoke_made (engine : Engine ε) (command : String) (state : ContainerState ε)
    (args : List String) :
    Made engine command state [⟨args, (state.invoke engine command args).1.answer⟩]
      (state.invoke engine command args).1.writes (state.invoke engine command args).2 :=
  ⟨rfl, .single args⟩

/-- A container starts if the call that starts it ends with zero. -/
theorem launch_eq_started_iff {answer : EngineAnswer} :
    launch command session answer = .started ↔
      ∃ stdout stderr, answer = .exited (some 0) stdout stderr := by
  cases answer with
  | notStarted error => simp [launch]
  | exited code stdout stderr =>
      by_cases succeeded : code = some 0 <;> simp [launch, succeeded]

/-- The start of a container comes to an end. -/
theorem launch_ne_hung (answer : EngineAnswer) : launch command session answer ≠ .hung := by
  cases answer with
  | notStarted error => simp [launch]
  | exited code stdout stderr =>
      by_cases succeeded : code = some 0 <;> simp [launch, succeeded]

/-- Starting a container is one call. -/
theorem create_made (engine : Engine ε) (command name : String) (session : Session)
    (state : ContainerState ε) :
    ∃ answer, launch command session answer =
        (create engine command name session state).1.answer ∧
      Made engine command state [⟨Container.runArgs name session, answer⟩]
        (create engine command name session state).1.writes
        (create engine command name session state).2 := by
  refine ⟨(state.invoke engine command (Container.runArgs name session)).1.answer, ?_⟩
  have called := invoke_made engine command state (Container.runArgs name session)
  unfold create
  rcases invoked : state.invoke engine command (Container.runArgs name session) with ⟨reply, next⟩
  rw [invoked] at called
  cases launched : launch command session reply.answer with
  | hung => exact ⟨by simp [launched], by simpa [launched] using called⟩
  | failed failure => exact ⟨by simp [launched], by simpa [launched] using called⟩
  | started => exact ⟨by simp [launched], by simpa [launched] using called.withContainer _⟩

/-- A container that has been started is alive. -/
theorem create_container
    (started : (create engine command name session state).1.answer = .started) :
    (create engine command name session state).2.container =
      some ⟨command, name, session, false⟩ := by
  unfold create at started ⊢
  rcases invoked : state.invoke engine command (Container.runArgs name session) with ⟨reply, next⟩
  rw [invoked] at started
  cases launched : launch command session reply.answer with
  | hung => simp [launched] at started
  | failed failure => simp [launched] at started
  | started => simp [launched]

/-- The start of a container is not given up. -/
theorem create_ne_hung (session : Session) :
    (create engine command name session state).1.answer ≠ .hung := by
  obtain ⟨answer, answer_eq, -⟩ := create_made engine command name session state
  rw [← answer_eq]
  exact launch_ne_hung answer

/-- Executing a step in a container is one call, and leaves the container as it is. -/
theorem run_made (engine : Engine ε) (alive : state.container = some container) (step : Step) :
    (run engine step state).2.container = some container ∧
      ∃ answer, (run engine step state).1.answer = stepResponse container.command answer ∧
        Made engine container.command state
          [⟨Container.execArgs container.name container.session step, answer⟩]
          (run engine step state).1.writes (run engine step state).2 := by
  unfold run
  rw [alive]
  exact ⟨alive, _, rfl, invoke_made engine container.command state _⟩

/-- A step in a container comes to an end. -/
theorem run_ne_hung (step : Step) : (run engine step state).1.answer ≠ .hung := by
  unfold run
  split
  · simp
  · unfold stepResponse
    dsimp only
    split <;> simp

/-- Executing steps in a container is one call for each of them, and leaves the container as it
is. -/
theorem stateAfter_made (engine : Engine ε) (command name : String)
    (alive : state.container = some container) (steps : List Step) :
    ((provider engine command name).stateAfter steps state).container = some container ∧
      ∃ made, made.map (·.args) =
          steps.map (Container.execArgs container.name container.session) ∧
        List.Forall₂ (fun call reply => reply.answer = stepResponse container.command call.answer)
          made ((provider engine command name).replies steps state) ∧
        Made engine container.command state made
          ((provider engine command name).writesOf steps state)
          ((provider engine command name).stateAfter steps state) := by
  induction steps generalizing state with
  | nil => exact ⟨alive, [], rfl, .nil, .refl state⟩
  | cons step rest ih =>
      obtain ⟨alive', answer, answer_eq, called⟩ := run_made engine alive step
      obtain ⟨alive'', made, args_eq, answers_eq, called'⟩ := ih alive'
      refine ⟨alive'', ⟨Container.execArgs container.name container.session step, answer⟩ :: made,
        ?_, .cons answer_eq answers_eq, ?_⟩
      · rw [List.map_cons, List.map_cons, args_eq]
      · exact called.trans called'

/-- Removing a container is one call, and marks it unless that fails. -/
theorem cleanup_of_present (alive : state.container = some container)
    (present : container.removed = false) {reply : Reply EngineAnswer}
    {next : ContainerState ε} (invoked : state.invoke engine container.command
      (Container.removeArgs container.name) = (reply, next)) :
    cleanup engine state = (⟨reply.writes, removeFailure? container.name reply.answer⟩,
      { next with container := some { container with
          removed := (removeFailure? container.name reply.answer).isNone } }) := by
  have kept : next.container = some container := by
    have same : (state.invoke engine container.command
        (Container.removeArgs container.name)).2.container = state.container := rfl
    rw [invoked, alive] at same
    exact same
  unfold cleanup
  rw [alive]
  simp only [present, invoked]
  cases failed : removeFailure? container.name reply.answer with
  | none => rfl
  | some failure =>
      obtain ⟨engine, calls, held⟩ := next
      obtain rfl : held = some container := kept
      obtain ⟨command, name, session, removed⟩ := container
      obtain rfl : removed = false := present
      rfl

/-- A container that has been removed is not called for again. -/
theorem cleanup_of_removed (alive : state.container = some container)
    (removed : container.removed = true) : cleanup engine state = (⟨[], none⟩, state) := by
  unfold cleanup
  rw [alive]
  exact if_pos removed

end ContainerState

namespace Container

open ContainerState (removeFailure?)

/-- The attempts to remove a container, one after another. A second one is made if the first one
fails and the engine does not say that the container is missing. -/
inductive Removals (name : String) : List EngineCall → Prop
  | once {answer : EngineAnswer} (gone : removeFailure? name answer = none) :
      Removals name [⟨removeArgs name, answer⟩]
  | twice {first second : EngineAnswer} {failure : Failure}
      (left : removeFailure? name first = some failure) :
      Removals name [⟨removeArgs name, first⟩, ⟨removeArgs name, second⟩]

theorem Removals.args_of_mem {calls : List EngineCall} (removes : Removals name calls)
    {call : EngineCall} (held : call ∈ calls) : call.args = removeArgs name := by
  cases removes with
  | once gone =>
      obtain rfl := List.mem_singleton.mp held
      rfl
  | twice left =>
      rcases List.mem_cons.mp held with rfl | held
      · rfl
      · obtain rfl := List.mem_singleton.mp held
        rfl

end Container

namespace ContainerState

variable {state : ContainerState ε} {container : Container}

/-- A container that is torn down and then let go of is removed, with a second attempt when it is
let go of if the first one has failed. -/
theorem removals_made (engine : Engine ε) (alive : state.container = some container)
    (present : container.removed = false) :
    ∃ answer again,
      Container.Removals container.name (⟨Container.removeArgs container.name, answer⟩ :: again) ∧
      Made engine container.command state [⟨Container.removeArgs container.name, answer⟩]
        (cleanup engine state).1.writes (cleanup engine state).2 ∧
      Made engine container.command (cleanup engine state).2 again
        (drop engine (cleanup engine state).2).1.writes
        (drop engine (cleanup engine state).2).2 := by
  rcases invoked : state.invoke engine container.command (Container.removeArgs container.name) with
    ⟨reply, next⟩
  have called := invoke_made engine container.command state (Container.removeArgs container.name)
  rw [invoked] at called
  rw [cleanup_of_present alive present invoked]
  generalize after_eq : ({ next with container := some { container with
    removed := (removeFailure? container.name reply.answer).isNone } } : ContainerState ε) = after
  have first_made : Made engine container.command state
      [⟨Container.removeArgs container.name, reply.answer⟩] reply.writes after := by
    rw [← after_eq]
    exact called.withContainer _
  have alive' : after.container = some { container with
      removed := (removeFailure? container.name reply.answer).isNone } := by
    rw [← after_eq]
  cases failed : removeFailure? container.name reply.answer with
  | none =>
      rw [failed] at alive'
      refine ⟨reply.answer, [], .once failed, first_made, ?_⟩
      unfold drop
      rw [cleanup_of_removed alive' rfl]
      exact (Made.refl after).withContainer none
  | some failure =>
      rw [failed] at alive'
      rcases invoked' : after.invoke engine container.command
        (Container.removeArgs container.name) with ⟨reply', next'⟩
      have called' := invoke_made engine container.command after
        (Container.removeArgs container.name)
      rw [invoked'] at called'
      refine ⟨reply.answer, [⟨Container.removeArgs container.name, reply'.answer⟩], .twice failed,
        first_made, ?_⟩
      unfold drop
      rw [cleanup_of_present alive' rfl invoked']
      exact called'.withContainer none

end ContainerState

end SealedBuild
