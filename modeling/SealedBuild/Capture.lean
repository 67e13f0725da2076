import SealedBuild.Engine
import SealedBuild.Step

/-!
# Reading the two streams of a call

While a call of an engine runs, its two streams are read line by line, side by side. Each turn
belongs to one of the streams that are still open; which one it is depends on what the engine has
written by then, and on the system. A turn takes one byte over, or meets the end of its stream. The
bytes of a line that is not complete are kept, so that the other stream can come in between. A
stream is closed at its end and also at a line that is not text, and the call is over when both
streams are closed.

Whatever the order of the turns, what has been read in the end is `captured` of each stream.
-/

namespace SealedBuild

open Text

/-- The two streams of a call. -/
inductive Side
  | stdout
  | stderr
  deriving DecidableEq

/-- A stream that is read line by line. -/
structure Channel where
  /-- The bytes that have not been read yet. -/
  coming : Bytes
  /-- The bytes that have been read of a line that is not complete. -/
  begun : Bytes
  /-- The lines so far, each with a line feed after it. -/
  text : String
  isOpen : Bool

namespace Channel

/-- A stream of which nothing has been read. -/
def ofBytes (stream : Bytes) : Channel := ⟨stream, [], "", true⟩

/-- Takes a complete line over, or closes the stream if the line is not text. -/
def takeLine (channel : Channel) (line : Bytes) : Channel :=
  match line.text? with
  | some text => { channel with begun := [], text := channel.text ++ (text ++ "\n") }
  | none => { channel with begun := [], isOpen := false }

/-- One turn: the next byte, or the end of the stream. A line that the end cuts off is a line; a
carriage return at its end belongs to it. -/
def turn (channel : Channel) : Channel :=
  match channel.coming with
  | b :: rest =>
    if b = 10 then { channel with coming := rest }.takeLine (dropReturn 13 channel.begun)
    else { channel with coming := rest, begun := channel.begun ++ [b] }
  | [] =>
    if channel.begun = [] then { channel with isOpen := false }
    else channel.takeLine channel.begun

end Channel

/-- A call whose streams are being read. -/
structure Capture where
  stdout : Channel
  stderr : Channel

namespace Capture

/-- A call of whose streams nothing has been read. -/
def ofStreams (stdout stderr : Bytes) : Capture := ⟨.ofBytes stdout, .ofBytes stderr⟩

def channel (capture : Capture) : Side → Channel
  | .stdout => capture.stdout
  | .stderr => capture.stderr

/-- The turn of one stream. The other one stays as it is. -/
def turn (capture : Capture) : Side → Capture
  | .stdout => { capture with stdout := capture.stdout.turn }
  | .stderr => { capture with stderr := capture.stderr.turn }

/-- Both streams are closed. -/
def IsOver (capture : Capture) : Prop := ∀ side, (capture.channel side).isOpen = false

/-- What a step leaves behind whose call has ended with an exit status. -/
def output (capture : Capture) (code : Option Int) : StepOutput :=
  ⟨code, capture.stdout.text, capture.stderr.text⟩

/-- Turns that are taken one after another, each by a stream that is open then. -/
inductive Turns : Capture → List Side → Capture → Prop
  | nil (capture : Capture) : Turns capture [] capture
  | cons {capture last : Capture} {side : Side} {schedule : List Side}
      (isOpen : (capture.channel side).isOpen = true)
      (more : Turns (capture.turn side) schedule last) : Turns capture (side :: schedule) last

end Capture

end SealedBuild
