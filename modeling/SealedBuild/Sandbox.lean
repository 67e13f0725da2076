import SealedBuild.FileSystem.Write
import SealedBuild.Session
import SealedBuild.Step

/-!
# Sandboxes

A provider starts a sandbox for a session, runs steps in it one at a time, and tears it down. What
it answers, and what it writes to the mounted trees while it works, is up to the provider; it is
described by a state of its own and a reply to each request.
-/

namespace SealedBuild

/-- An answer, with everything that was written before it was given. -/
structure Reply (α : Type) where
  writes : List Write
  answer : α

/-- How the start of a sandbox ends, if it ends. -/
inductive Launch
  /-- The start never ends. -/
  | hung
  /-- The sandbox does not start. -/
  | failed (failure : Failure)
  | started
  deriving DecidableEq

/-- How a step ends, if it ends. -/
inductive Response
  /-- The step never ends. -/
  | hung
  /-- The step could not be run. -/
  | failed (failure : Failure)
  | finished (output : StepOutput)
  deriving DecidableEq

/-- A provider of sandboxes with a state. At most one of its sandboxes is alive at a time. -/
structure Provider (σ : Type) where
  /-- Starts a sandbox. -/
  create : Session → σ → Reply Launch × σ
  /-- Runs one step. -/
  run : Step → σ → Reply Response × σ
  /-- Tears the sandbox down, or says why it could not. -/
  cleanup : σ → Reply (Option Failure) × σ
  /-- Lets go of the sandbox, whether it has been torn down or not. -/
  drop : σ → Reply Unit × σ

/-- What happens to sandboxes, as seen from outside. -/
inductive Event
  | created (session : Session)
  /-- No sandbox was started: there is no failure if the start was given up. -/
  | createFailed (session : Session) (failure? : Option Failure)
  | step (step : Step)
  | cleanup
  /-- The sandbox was let go of without having been torn down before. -/
  | dropped
  deriving DecidableEq

end SealedBuild
