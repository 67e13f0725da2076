import SealedBuild.Path

/-!
# Failures

Every way in which a run can fail, the sentence that reports it, and the exit status of the process.
A failure of a step inside the sandbox passes the step's own exit status on, so that a caller sees
why the build stopped; a failure never exits with zero.
-/

namespace SealedBuild

/-- Why a run failed. The exit status of a step is missing when a signal ended it. -/
inductive Failure
  /-- Arguments are missing or malformed. -/
  | usage (text : String)
  /-- A root is not an existing directory. -/
  | path (place : Path) (reason : String)
  /-- The configuration is invalid. -/
  | config (text : String)
  /-- The toolchain manifest cannot be read or understood. -/
  | toolchainManifest (place : Path) (reason : String)
  /-- The sandbox did not start, or a step could not be run in it. -/
  | sandbox (message : String) (code : Option Int)
  /-- A provisioning step did not succeed. -/
  | toolchainInstall (step : String) (code : Option Int)
  /-- The release build did not succeed. -/
  | build (package : String) (code : Option Int)
  /-- The artifact could not be put in place. -/
  | copy (source destination : Path) (reason : String)
  /-- A disallowed package or token was found. -/
  | constraintViolation (text : String)
  /-- The run was interrupted. -/
  | interrupted
  /-- The run was asked to terminate. -/
  | terminated
  /-- An input or output operation outside of any stage failed. -/
  | io (text : String)
  deriving DecidableEq

namespace Failure

/-- How an exit status is written. -/
def codeText : Option Int → String
  | some code => toString code
  | none => "none, terminated by signal"

/-- The sentence that reports a failure. -/
def message : Failure → String
  | usage text => "usage error: " ++ text
  | path place reason => "path error: " ++ place.text ++ ": " ++ reason
  | config text => "configuration error: " ++ text
  | toolchainManifest place reason => "toolchain manifest " ++ place.text ++ ": " ++ reason
  | sandbox message _ => "sandbox error: " ++ message
  | toolchainInstall step code =>
    "toolchain install failed at `" ++ step ++ "` (exit code " ++ codeText code ++ ")"
  | build package code =>
    "build of `" ++ package ++ "` failed (exit code " ++ codeText code ++ ")"
  | copy source destination reason =>
    "failed to install " ++ source.text ++ " to " ++ destination.text ++ ": " ++ reason
  | constraintViolation text => "dependency constraints violated: " ++ text
  | interrupted => "interrupted"
  | terminated => "terminated"
  | io text => "IO error: " ++ text

/-- The exit status that a failure brings with it from inside the sandbox. -/
def innerCode : Failure → Option Int
  | sandbox _ code | toolchainInstall _ code | build _ code => code
  | _ => none

/-- The exit status of the process: that of the failed step unless it is zero or missing, the usual
ones for a signal, and one for all else. -/
def exitCode (failure : Failure) : Int :=
  match failure with
  | interrupted => 130
  | terminated => 143
  | _ =>
    match failure.innerCode with
    | some code => if code = 0 then 1 else code
    | none => 1

end Failure

end SealedBuild
