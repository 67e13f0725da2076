
/-!
# Steps

A step is one command that runs inside the sandbox, and its output is what the command left behind.
-/

namespace SealedBuild

/-- A command with its arguments. -/
structure Step where
  program : String
  args : List String
  deriving DecidableEq

/-- The command line as one text. -/
def Step.display (step : Step) : String := " ".intercalate (step.program :: step.args)

/-- What a step that ran to its end left behind. The exit status is missing when a signal ended the
step. -/
structure StepOutput where
  code : Option Int
  stdout : String
  stderr : String
  deriving DecidableEq

/-- Whether a step ended with exit status zero. -/
def StepOutput.success (output : StepOutput) : Bool := output.code == some 0

theorem StepOutput.success_iff {output : StepOutput} :
    output.success = true ↔ output.code = some 0 := beq_iff_eq

end SealedBuild
