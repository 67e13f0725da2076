import SealedBuild.FileSystem.OsError
import SealedBuild.Sandbox
import SealedBuild.Text.Lines

/-!
# Container engines

A container engine is driven by its command line: each call has a list of arguments and leaves an
exit status and two streams of bytes. Streams are read line by line; a line that is not text ends
the reading of its stream.
-/

namespace SealedBuild

open Text

/-- What a call of an engine leaves behind. -/
inductive EngineAnswer
  | notStarted (error : OsError)
  /-- The exit status is missing when a signal ended the call. -/
  | exited (code : Option Int) (stdout stderr : Bytes)
  deriving DecidableEq

/-- An engine with a state: what a command with its arguments answers. -/
structure Engine (ε : Type) where
  call : String → List String → ε → Reply EngineAnswer × ε

/-- A call that was made: its arguments and its answer. -/
structure EngineCall where
  args : List String
  answer : EngineAnswer

/-- Whether a call was started at all. -/
def EngineCall.isStarted (call : EngineCall) : Bool :=
  match call.answer with
  | .notStarted _ => false
  | .exited .. => true

/-- Whether a text holds a zero character, which no command line can. -/
def hasZero (text : String) : Bool := text.toList.contains (Char.ofNat 0)

/-- Calls an engine. -/
def Engine.invoke {ε : Type} (engine : Engine ε) (command : String) (args : List String)
    (state : ε) : Reply EngineAnswer × ε :=
  if (command :: args).any hasZero then (⟨[], .notStarted .zeroInArguments⟩, state)
  else engine.call command args state

/-- The lines of a stream up to the first one that is not text. -/
def textLines : List Bytes → List String
  | [] => []
  | line :: rest =>
    match line.text? with
    | some text => text :: textLines rest
    | none => []

/-- The text that is captured from a stream: every line with a line feed after it. -/
def captured (stream : Bytes) : String :=
  String.join ((textLines (splitLines 10 13 stream)).map fun line => line ++ "\n")

end SealedBuild
