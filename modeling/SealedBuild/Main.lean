import SealedBuild.CommandLine

/-!
# The program

The outermost layer: it passes the arguments and the environment on and prints what the call leaves
behind. The program has no host of its own, so it sees the directories down to the working directory
and nothing else, and no engine can be started; a host that has files and engines passes them to
`CommandLine.runWithContainers`.
-/

namespace SealedBuild

/-- The engine of a host on which nothing can be started. -/
def absentEngine : Engine Unit where
  call _ _ state := (⟨[], .notStarted .notFound⟩, state)

end SealedBuild

open SealedBuild

/-- Runs the program. -/
def main (args : List String) : IO UInt32 := do
  let given ← CommandLine.ValueOption.all.mapM fun option => do
    return (option.variableName, ← IO.getEnv option.variableName)
  let environment := fun name => ((given.find? (·.1 == name)).map (·.2)).getD none
  let directory := Path.steps ⟨(← IO.getEnv "PWD").getD "/"⟩
  let name := Container.nameOf (← IO.rand 0 (Nat.pow 16 12 - 1))
  let (output, _) := CommandLine.runWithContainers absentEngine name args environment ⟨""⟩
    (FileSystem.bare directory) ()
  IO.print output.stdout
  IO.eprint output.stderr
  return output.status.toUInt32
