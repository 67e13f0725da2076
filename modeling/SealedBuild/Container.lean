import SealedBuild.Engine
import SealedBuild.Text.Blank

/-!
# Containers

A container is a sandbox that an engine runs. It is started detached, with a sleep that bounds its
life, and removes itself when it stops; steps are executed in it, and removing it by force ends
it. A removal that fails is tried once more when the container is let go of.
-/

namespace SealedBuild

open Text

/-- A container that was started. -/
structure Container where
  /-- The command of the engine that runs it. -/
  command : String
  name : String
  session : Session
  removed : Bool

namespace Container

/-- The number of hexadecimal digits that tell containers apart. -/
def nameDigits : Nat := 12

/-- The name of the container with a number. -/
def nameOf (number : Nat) : String :=
  let digits := Nat.toDigits 16 number
  "codex-build-" ++ String.ofList (List.replicate (nameDigits - digits.length) '0' ++ digits)

/-- The arguments that start a container. -/
def runArgs (name : String) (session : Session) : List String :=
  ["run", "--detach", "--rm", "--name", name] ++
    session.mounts.flatMap (fun mount => ["--volume", mount.volumeArg]) ++
    ["--workdir", session.workingDirectory.display, "--entrypoint", "sleep", session.image,
      toString session.maxLifetimeSecs]

/-- The arguments that execute a step in a container. -/
def execArgs (name : String) (session : Session) (step : Step) : List String :=
  ["exec", "--workdir", session.workingDirectory.display] ++
    session.environment.flatMap (fun entry => ["--env", entry.1 ++ "=" ++ entry.2]) ++
    name :: step.program :: step.args

/-- The arguments that remove a container. -/
def removeArgs (name : String) : List String := ["rm", "--force", name]

end Container

/-- The state of an engine, the calls made so far, and the container that is alive. -/
structure ContainerState (ε : Type) where
  engine : ε
  calls : List EngineCall
  container : Option Container

namespace ContainerState

variable {ε : Type}

/-- The state before any call. -/
def initial (engine : ε) : ContainerState ε := ⟨engine, [], none⟩

/-- Calls the engine and notes the call. -/
def invoke (state : ContainerState ε) (engine : Engine ε) (command : String)
    (args : List String) : Reply EngineAnswer × ContainerState ε :=
  match engine.invoke command args state.engine with
  | (reply, next) =>
    (reply, { state with engine := next, calls := state.calls ++ [⟨args, reply.answer⟩] })

/-- What the answer to the start of a container says. -/
def launch (command : String) (session : Session) : EngineAnswer → Launch
  | .notStarted error =>
    .failed (.sandbox ("container engine `" ++ command ++ "` is not available: " ++ error.message)
      none)
  | .exited code _ stderr =>
    if code = some 0 then .started
    else .failed (.sandbox
      ("failed to start " ++ session.image ++ ": " ++ trimmed stderr.lenientText) code)

/-- Starts a container under a name. -/
def create (engine : Engine ε) (command name : String) (session : Session)
    (state : ContainerState ε) : Reply Launch × ContainerState ε :=
  match state.invoke engine command (Container.runArgs name session) with
  | (reply, state) =>
    match launch command session reply.answer with
    | .started =>
      (⟨reply.writes, .started⟩, { state with container := some ⟨command, name, session, false⟩ })
    | launch => (⟨reply.writes, launch⟩, state)

/-- What the answer to the execution of a step says. -/
def stepResponse (command : String) : EngineAnswer → Response
  | .notStarted error =>
    .failed (.sandbox ("failed to run " ++ command ++ " exec: " ++ error.message) none)
  | .exited code stdout stderr => .finished ⟨code, captured stdout, captured stderr⟩

/-- Executes a step in the container. -/
def run (engine : Engine ε) (step : Step) (state : ContainerState ε) :
    Reply Response × ContainerState ε :=
  match state.container with
  | none => (⟨[], .failed (.sandbox "no container is running" none)⟩, state)
  | some container =>
    match state.invoke engine container.command
        (Container.execArgs container.name container.session step) with
    | (reply, state) => (⟨reply.writes, stepResponse container.command reply.answer⟩, state)

/-- Whether an engine says that a container does not exist. -/
def saysMissing (text : String) : Bool :=
  contains text "No such container" || contains text "no such container"

/-- Why a container was not removed, if it was not. A container that is gone already counts as
removed. -/
def removeFailure? (name : String) : EngineAnswer → Option Failure
  | .notStarted error => some (.io error.message)
  | .exited code _ stderr =>
    let text := stderr.lenientText
    if code = some 0 ∨ saysMissing text then none
    else some (.sandbox ("failed to remove container " ++ name ++ ": " ++ trimmed text) code)

/-- Removes the container, unless it has been removed before. -/
def cleanup (engine : Engine ε) (state : ContainerState ε) :
    Reply (Option Failure) × ContainerState ε :=
  match state.container with
  | none => (⟨[], none⟩, state)
  | some container =>
    if container.removed then (⟨[], none⟩, state)
    else match state.invoke engine container.command (Container.removeArgs container.name) with
      | (reply, state) =>
        match removeFailure? container.name reply.answer with
        | some failure => (⟨reply.writes, some failure⟩, state)
        | none =>
          let removed := { container with removed := true }
          (⟨reply.writes, none⟩, { state with container := some removed })

/-- Lets go of the container, after one more attempt to remove it if that has not been done. -/
def drop (engine : Engine ε) (state : ContainerState ε) : Reply Unit × ContainerState ε :=
  match state.cleanup engine with
  | (reply, state) => (⟨reply.writes, ()⟩, { state with container := none })

/-- The provider of containers that are run by a command under a name. -/
def provider (engine : Engine ε) (command name : String) : Provider (ContainerState ε) where
  create := create engine command name
  run := run engine
  cleanup := cleanup engine
  drop := drop engine

end ContainerState

end SealedBuild
