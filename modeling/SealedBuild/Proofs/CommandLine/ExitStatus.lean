import SealedBuild.Proofs.CommandLine.Task
import SealedBuild.Proofs.Pipeline.Attribution

/-!
# Exit statuses of the program

A parent process sees one byte of an exit status. An engine answers with bytes too, so the exit
status of a failure can be seen as it is, and is never taken for a success.

Main statements: `status_of_failure`, and `Account.hasByte` and `Task.isEarly_of_error`, by which
it applies to every failure of the program.
-/

namespace SealedBuild

variable {ε : Type} {engine : Engine ε} {command name : String} {failure : Failure}

namespace Failure

/-- The exit status that a failure brings with it, if it brings one, is a byte. -/
def HasByte (failure : Failure) : Prop :=
  ∀ code, failure.innerCode = some code → 0 ≤ code ∧ code ≤ 255

theorem hasByte_of_none (none : failure.innerCode = none) : failure.HasByte := by
  intro code inner
  rw [none] at inner
  cases inner

/-- A failure of a kind that is met before a sandbox is asked for. -/
def IsEarly : Failure → Prop
  | usage _ | path _ _ | config _ | toolchainManifest _ _ | io _ => True
  | _ => False

/-- An early failure brings no exit status with it. -/
theorem IsEarly.innerCode (early : failure.IsEarly) : failure.innerCode = none := by
  unfold IsEarly at early
  split at early
  · rfl
  · rfl
  · rfl
  · rfl
  · rfl
  · exact early.elim

/-- After an early failure the process exits with one. -/
theorem IsEarly.exitCode (early : failure.IsEarly) : failure.exitCode = 1 := by
  unfold IsEarly at early
  split at early
  · rfl
  · rfl
  · rfl
  · rfl
  · rfl
  · exact early.elim

/-- The exit status of the process is a byte as well, and not zero. -/
theorem exitCode_of_hasByte (byte : failure.HasByte) :
    1 ≤ failure.exitCode ∧ failure.exitCode ≤ 255 := by
  unfold exitCode
  split
  · decide
  · decide
  · cases inner : failure.innerCode with
    | none => decide
    | some code =>
        have bounds := byte code inner
        dsimp only
        split <;> omega

end Failure

/-- An engine exits with bytes. -/
def Engine.ExitsWithBytes (engine : Engine ε) : Prop :=
  ∀ command args state code stdout stderr,
    (engine.call command args state).1.answer = .exited (some code) stdout stderr →
      0 ≤ code ∧ code ≤ 255

theorem Engine.ExitsWithBytes.invoke (bytes : engine.ExitsWithBytes) {args : List String}
    {state : ε} {code : Int} {stdout stderr : Bytes}
    (exited : (engine.invoke command args state).1.answer = .exited (some code) stdout stderr) :
    0 ≤ code ∧ code ≤ 255 := by
  unfold Engine.invoke at exited
  split at exited
  · cases exited
  · exact bytes _ _ _ _ _ _ exited

namespace ContainerState

variable {state : ContainerState ε} {session : Session} {step : Step}

/-- A container that does not start brings the exit status of the engine with it. -/
theorem create_hasByte (bytes : engine.ExitsWithBytes)
    (refused : (create engine command name session state).1.answer = .failed failure) :
    failure.HasByte := by
  obtain ⟨answer, answer_eq, made⟩ := create_made engine command name session state
  obtain ⟨at_, answered⟩ := made.dialogue.answered List.mem_cons_self
  rw [refused] at answer_eq
  cases answer with
  | notStarted error =>
      obtain rfl := Launch.failed.inj answer_eq
      exact Failure.hasByte_of_none rfl
  | exited code stdout stderr =>
      by_cases succeeded : code = some 0
      · rw [launch, if_pos succeeded] at answer_eq
        cases answer_eq
      · rw [launch, if_neg succeeded] at answer_eq
        obtain rfl := Launch.failed.inj answer_eq
        rintro code' rfl
        exact bytes.invoke answered.symm

/-- A step that cannot be run brings no exit status with it. -/
theorem run_innerCode (failed : (run engine step state).1.answer = .failed failure) :
    failure.innerCode = none := by
  unfold run at failed
  split at failed
  · obtain rfl := Response.failed.inj failed
    rfl
  · unfold stepResponse at failed
    dsimp only at failed
    split at failed
    · obtain rfl := Response.failed.inj failed
      rfl
    · cases failed

/-- A step that has run ends with the exit status of the engine. -/
theorem run_code (bytes : engine.ExitsWithBytes) {output : StepOutput}
    (finished : (run engine step state).1.answer = .finished output) {code : Int}
    (ended : output.code = some code) : 0 ≤ code ∧ code ≤ 255 := by
  unfold run at finished
  split at finished
  · cases finished
  · rename_i container alive
    have answered : (state.invoke engine container.command
        (Container.execArgs container.name container.session step)).1.answer =
        (engine.invoke container.command
          (Container.execArgs container.name container.session step) state.engine).1.answer := rfl
    unfold stepResponse at finished
    dsimp only at finished
    split at finished
    · cases finished
    · rename_i exited
      obtain rfl := Response.finished.inj finished
      obtain rfl : _ = some code := ended
      exact bytes.invoke (answered.symm.trans exited)

end ContainerState

/-- A call whose sandboxes are containers fails with a byte. -/
theorem Account.hasByte (bytes : engine.ExitsWithBytes) {world : World (ContainerState ε)}
    {call : Call} {executed : List Step} {left : FileSystem × ContainerState ε}
    (told : Account (ContainerState.provider engine command name) world call executed
      (.failed failure) left) : failure.HasByte := by
  have blame := told.blame
  generalize failure.exitCode = status at blame
  cases blame with
  | finished ended => exact Failure.hasByte_of_none rfl
  | unloaded running refused => exact Failure.hasByte_of_none rfl
  | unstarted running loaded refused own => exact ContainerState.create_hasByte bytes refused
  | unrun comes => exact Failure.hasByte_of_none (ContainerState.run_innerCode comes.answered)
  | unprovisioned comes unsuccessful =>
      exact fun code inner => ContainerState.run_code bytes comes.answered inner
  | unbuilt comes unsuccessful =>
      exact fun code inner => ContainerState.run_code bytes comes.answered inner
  | unclear comes refused unsuccessful =>
      exact fun code inner => ContainerState.run_code bytes comes.answered inner
  | uncompiled running ready verifies refused passed => exact Failure.hasByte_of_none rfl
  | violated running ready enforces passed reports violated => exact Failure.hasByte_of_none rfl
  | uninstalled running ready course refused => exact Failure.hasByte_of_none rfl

namespace Request

variable {files : FileSystem} {path program : Path} {given? : Option Path}

theorem requireTarget_isEarly (refused : requireTarget given? = .error failure) :
    failure.IsEarly := by
  unfold requireTarget at refused
  split at refused
  · cases refused
  · obtain rfl := Except.error.inj refused
    trivial

theorem existingDirectory_isEarly (refused : existingDirectory files path = .error failure) :
    failure.IsEarly := by
  unfold existingDirectory at refused
  split at refused
  · obtain rfl := Except.error.inj refused
    trivial
  · split at refused
    · cases refused
    · obtain rfl := Except.error.inj refused
      trivial
  · obtain rfl := Except.error.inj refused
    trivial

theorem make_isEarly (refused : make files given? path = .error failure) :
    failure.IsEarly := by
  rcases error_of_bind refused with refused | ⟨target, -, refused⟩
  · exact requireTarget_isEarly refused
  · rcases error_of_bind refused with refused | ⟨sourceRoot, -, refused⟩
    · exact existingDirectory_isEarly refused
    · rcases error_of_bind refused with refused | ⟨targetRoot, -, refused⟩
      · exact existingDirectory_isEarly refused
      · cases refused

theorem resolveSourceRoot_isEarly
    (refused : resolveSourceRoot files given? program = .error failure) :
    failure.IsEarly := by
  unfold resolveSourceRoot at refused
  split at refused
  · cases refused
  · unfold sourceRootOfProgram at refused
    split at refused
    · obtain rfl := Except.error.inj refused
      trivial
    · split at refused
      · cases refused
      · obtain rfl := Except.error.inj refused
        trivial

end Request

namespace Config

variable {files : FileSystem} {path? : Option Path}

theorem checked_isEarly {config : Config} (refused : config.checked = .error failure) :
    failure.IsEarly := by
  unfold checked Validation.result at refused
  split at refused
  · cases refused
  · obtain rfl := Except.error.inj refused
    trivial

theorem load_isEarly (refused : load files path? = .error failure) :
    failure.IsEarly := by
  unfold load at refused
  split at refused
  · exact checked_isEarly refused
  · split at refused
    · rename_i other unread
      obtain rfl := Except.error.inj refused
      unfold read at unread
      split at unread
      · obtain rfl := Except.error.inj unread
        trivial
      · split at unread
        · obtain rfl := Except.error.inj unread
          trivial
        · cases unread
    · exact checked_isEarly refused

end Config

namespace CommandLine

variable {arguments : Arguments} {files : FileSystem} {program : Path}

/-- Arguments that stand for no task are an early failure. -/
theorem Task.isEarly_of_error
    (refused : Task.ofArguments arguments files program = .error failure) :
    failure.IsEarly := by
  rcases error_of_bind refused with refused | ⟨target, -, refused⟩
  · exact Request.requireTarget_isEarly refused
  · rcases error_of_bind refused with refused | ⟨sourceRoot, -, refused⟩
    · exact Request.resolveSourceRoot_isEarly refused
    · rcases error_of_bind refused with refused | ⟨request, -, refused⟩
      · exact Request.make_isEarly refused
      · rcases error_of_bind refused with refused | ⟨config, -, refused⟩
        · exact Config.load_isEarly refused
        · cases refused

/-- A parent process does not take a failure for a success. -/
theorem status_of_failure (byte : failure.HasByte) (stdout : String) :
    (Output.failure stdout failure).status ≠ 0 := by
  have bounds := Failure.exitCode_of_hasByte byte
  change (failure.exitCode % 256).toNat ≠ 0
  omega

end CommandLine

end SealedBuild
