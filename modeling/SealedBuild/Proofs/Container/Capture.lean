import SealedBuild.Capture
import SealedBuild.Container
import SealedBuild.Proofs.OsPath
import SealedBuild.Proofs.Text.Lines

/-!
# What is captured of a call

The two streams of a call are read in turns, and nothing but the engine and the system decides which
stream is next. No order of the turns makes a difference: every turn keeps the text that its stream
will have come to in the end, and leaves the other stream alone. Since every turn also takes
something away from what is left to be read, each way of reading comes to an end.

Main statement: `output_of_turns`, what a step in a container leaves behind if both streams of its
call are text.
-/

namespace SealedBuild

open Text

variable {line stream : Bytes}

theorem captured_nil : captured [] = "" := rfl

/-- A complete line is captured before the rest of the stream, if it is text. -/
theorem captured_append_cons (clean : 10 ∉ line) (rest : Bytes) :
    captured (line ++ 10 :: rest) =
      (Bytes.text? (dropReturn 13 line)).elim "" fun text => text ++ "\n" ++ captured rest := by
  rw [captured, splitLines_append_cons clean, textLines]
  cases Bytes.text? (dropReturn 13 line) with
  | some text => simp [captured]
  | none => rfl

/-- A line without an end is captured whole, if it is text. -/
theorem captured_of_not_mem (clean : 10 ∉ line) (written : line ≠ []) :
    captured line = line.text?.elim "" fun text => text ++ "\n" ++ captured [] := by
  rw [captured, splitLines_of_not_mem clean written, textLines]
  cases line.text? with
  | some text => simp [textLines, captured_nil]
  | none => rfl

/-- All lines of bytes that are the bytes of texts are text. -/
theorem textLines_map_ofString (lines : List String) :
    textLines (lines.map Bytes.ofString) = lines := by
  induction lines with
  | nil => rfl
  | cons line lines ih =>
    rw [List.map_cons, textLines, Bytes.text?_eq_some_iff.mpr rfl]
    exact congrArg (line :: ·) ih

/-- Of a stream that is text all lines are captured. -/
theorem captured_of_text {text : String} (isText : stream.text? = some text) :
    captured stream = withFeeds (linesOf text) := by
  rw [captured, Bytes.text?_eq_some_iff.mp isText, Bytes.splitLines_ofString,
    textLines_map_ofString, withFeeds]

namespace Channel

variable {channel : Channel} {final : String}

/-- The text that a channel will have come to in the end. -/
def outcome (channel : Channel) : String :=
  channel.text ++ if channel.isOpen then captured (channel.begun ++ channel.coming) else ""

/-- A channel is on the way to a text, and the line that it has begun is not complete. -/
structure LeadsTo (channel : Channel) (final : String) : Prop where
  clean : 10 ∉ channel.begun
  outcome_eq : channel.outcome = final

theorem leadsTo_ofBytes (stream : Bytes) : (ofBytes stream).LeadsTo (captured stream) :=
  ⟨List.not_mem_nil, by simp [outcome, ofBytes]⟩

/-- A closed channel has come to its text. -/
theorem LeadsTo.text_eq (leads : channel.LeadsTo final) (closed : channel.isOpen = false) :
    channel.text = final := by
  rw [← leads.outcome_eq, outcome, closed]
  simp

/-- A line is taken over as it is captured. -/
theorem leadsTo_takeLine (isOpen : channel.isOpen = true) :
    (channel.takeLine line).LeadsTo (channel.text ++
      line.text?.elim "" fun text => text ++ "\n" ++ captured channel.coming) := by
  unfold takeLine
  cases line.text? with
  | some text => exact ⟨List.not_mem_nil, by simp [outcome, isOpen, String.append_assoc]⟩
  | none => exact ⟨List.not_mem_nil, by simp [outcome]⟩

/-- A turn changes nothing about the text that a channel is on the way to. -/
theorem LeadsTo.turn (leads : channel.LeadsTo final) (isOpen : channel.isOpen = true) :
    channel.turn.LeadsTo final := by
  obtain ⟨coming, begun, text, opened⟩ := channel
  obtain ⟨clean, outcome_eq⟩ := leads
  obtain rfl : opened = true := isOpen
  rw [outcome, if_pos rfl] at outcome_eq
  subst outcome_eq
  unfold Channel.turn
  cases coming with
  | nil =>
    by_cases empty : begun = []
    · subst empty
      exact ⟨List.not_mem_nil, by simp [outcome, captured_nil]⟩
    · simp only [if_neg empty, List.append_nil, captured_of_not_mem clean empty]
      exact leadsTo_takeLine rfl
  | cons b rest =>
    by_cases isFeed : b = 10
    · subst isFeed
      simp only [if_pos, captured_append_cons clean]
      exact leadsTo_takeLine rfl
    · simp only [if_neg isFeed]
      refine ⟨?_, by simp [outcome]⟩
      simp [clean, Ne.symm isFeed]

/-- What is left to be done: a turn for each byte, one for a line without an end, and one for the
end of the stream. -/
def left (channel : Channel) : Nat :=
  if channel.isOpen then
    channel.coming.length + (if channel.begun = [] ∧ channel.coming = [] then 0 else 1) + 1
  else 0

/-- A turn takes something away from what is left. -/
theorem left_turn_lt (isOpen : channel.isOpen = true) : channel.turn.left < channel.left := by
  obtain ⟨coming, begun, text, opened⟩ := channel
  obtain rfl : opened = true := isOpen
  unfold Channel.turn
  cases coming with
  | nil =>
    by_cases empty : begun = []
    · simp [left, empty]
    · simp only [if_neg empty, takeLine]
      cases begun.text? <;> simp [left, empty]
  | cons b rest =>
    by_cases isFeed : b = 10
    · simp only [if_pos isFeed, takeLine]
      cases Bytes.text? (dropReturn 13 begun) with
      | some text => simp [left]; split <;> omega
      | none => simp [left]
    · simp [left, isFeed]

theorem left_ofBytes_le (stream : Bytes) : (ofBytes stream).left ≤ stream.length + 2 := by
  have isOpen : (ofBytes stream).isOpen = true := rfl
  rw [left, if_pos isOpen]
  simp only [ofBytes]
  split <;> omega

end Channel

namespace Capture

variable {capture last : Capture} {side : Side} {schedule more : List Side} {out err : String}

/-- The text that a call will have left behind on one side. -/
def wanted (out err : String) : Side → String
  | .stdout => out
  | .stderr => err

/-- Both channels of a call are on the way to a text. -/
def LeadsTo (capture : Capture) (out err : String) : Prop :=
  ∀ side, (capture.channel side).LeadsTo (wanted out err side)

/-- What is left to be done on both sides. -/
def left (capture : Capture) : Nat := capture.stdout.left + capture.stderr.left

theorem channel_turn (capture : Capture) (side : Side) :
    (capture.turn side).channel side = (capture.channel side).turn := by
  cases side <;> rfl

/-- The turn of one side leaves the other side alone. -/
theorem channel_turn_of_ne {other : Side} (different : other ≠ side) :
    (capture.turn side).channel other = capture.channel other := by
  cases side <;> cases other
  case stdout.stdout => exact absurd rfl different
  case stderr.stderr => exact absurd rfl different
  all_goals rfl

theorem leadsTo_ofStreams (stdout stderr : Bytes) :
    (ofStreams stdout stderr).LeadsTo (captured stdout) (captured stderr)
  | .stdout => Channel.leadsTo_ofBytes stdout
  | .stderr => Channel.leadsTo_ofBytes stderr

theorem LeadsTo.turn (leads : capture.LeadsTo out err)
    (isOpen : (capture.channel side).isOpen = true) : (capture.turn side).LeadsTo out err := by
  intro other
  by_cases same : other = side
  · subst same
    rw [channel_turn]
    exact (leads other).turn isOpen
  · rw [channel_turn_of_ne same]
    exact leads other

theorem left_turn_lt (isOpen : (capture.channel side).isOpen = true) :
    (capture.turn side).left < capture.left := by
  cases side with
  | stdout => exact Nat.add_lt_add_right (Channel.left_turn_lt isOpen) _
  | stderr => exact Nat.add_lt_add_left (Channel.left_turn_lt isOpen) _

namespace Turns

/-- However many turns are taken, each side is on the way to the same text. -/
theorem leadsTo (turns : Turns capture schedule last) (leads : capture.LeadsTo out err) :
    last.LeadsTo out err := by
  induction turns with
  | nil => exact leads
  | cons isOpen more ih => exact ih (leads.turn isOpen)

/-- There are no more turns than what is left to be done. -/
theorem length_add_left_le (turns : Turns capture schedule last) :
    schedule.length + last.left ≤ capture.left := by
  induction turns with
  | nil => simp
  | cons isOpen more ih =>
    have less := left_turn_lt isOpen
    rw [List.length_cons]
    omega

end Turns

/-- A call that is over has come to the text on each side. -/
theorem LeadsTo.output_eq (leads : capture.LeadsTo out err) (ended : capture.IsOver)
    (code : Option Int) : capture.output code = ⟨code, out, err⟩ := by
  have out_eq : capture.stdout.text = out := (leads .stdout).text_eq (ended .stdout)
  have err_eq : capture.stderr.text = err := (leads .stderr).text_eq (ended .stderr)
  rw [output, out_eq, err_eq]

/-- From anywhere, turns lead to where the call is over. -/
theorem exists_turns_isOver (capture : Capture) :
    ∃ schedule last, Turns capture schedule last ∧ last.IsOver := by
  by_cases ended : capture.IsOver
  · exact ⟨[], capture, .nil capture, ended⟩
  · obtain ⟨side, still⟩ := Classical.not_forall.mp ended
    have isOpen : (capture.channel side).isOpen = true := eq_true_of_ne_false still
    obtain ⟨schedule, last, turns, ended⟩ := exists_turns_isOver (capture.turn side)
    exact ⟨side :: schedule, last, .cons isOpen turns, ended⟩
termination_by capture.left
decreasing_by exact left_turn_lt isOpen

end Capture

namespace ContainerState

variable {ε : Type} {engine : Engine ε} {state : ContainerState ε} {container : Container}
  {step : Step} {code : Option Int} {stdout stderr : Bytes} {out err : String}

/-- A step whose call has been answered leaves behind what is captured of both streams. -/
theorem run_of_exited (alive : state.container = some container)
    (answered : (state.invoke engine container.command
      (Container.execArgs container.name container.session step)).1.answer =
        .exited code stdout stderr) :
    (run engine step state).1.answer = .finished ⟨code, captured stdout, captured stderr⟩ := by
  unfold run
  rw [alive]
  simp only [answered, stepResponse]

/-- What a step leaves behind does not depend on the order in which the streams of its call are
read: every order of turns can be carried on to an end, none goes on for ever, and at every end the
same has been captured. Of a stream that is text, whatever the other one is, these are all lines
with a line feed after each of them. -/
theorem output_of_turns (alive : state.container = some container)
    (answered : (state.invoke engine container.command
      (Container.execArgs container.name container.session step)).1.answer =
        .exited code stdout stderr) :
    ∃ output : StepOutput, (run engine step state).1.answer = .finished output ∧
      output.code = code ∧
      (∀ text, stdout.text? = some text → output.stdout = withFeeds (linesOf text)) ∧
      (∀ text, stderr.text? = some text → output.stderr = withFeeds (linesOf text)) ∧
      ∀ schedule capture, (Capture.ofStreams stdout stderr).Turns schedule capture →
        schedule.length ≤ stdout.length + stderr.length + 4 ∧
        (∃ more last, capture.Turns more last ∧ last.IsOver) ∧
        (capture.IsOver → capture.output code = output) := by
  refine ⟨⟨code, captured stdout, captured stderr⟩, run_of_exited alive answered, rfl,
    fun text => captured_of_text, fun text => captured_of_text, fun schedule capture turns => ?_⟩
  refine ⟨?_, capture.exists_turns_isOver, fun ended => ?_⟩
  · have bound := turns.length_add_left_le
    have first := Channel.left_ofBytes_le stdout
    have second := Channel.left_ofBytes_le stderr
    have total : (Capture.ofStreams stdout stderr).left =
      (Channel.ofBytes stdout).left + (Channel.ofBytes stderr).left := rfl
    omega
  · have leads := turns.leadsTo (Capture.leadsTo_ofStreams stdout stderr)
    exact leads.output_eq ended code

end ContainerState

namespace Sample

/-- An engine whose calls print on both streams and are ended by a signal. -/
def chatty : Engine Unit where
  call _ _ state :=
    (⟨[], .exited none (Bytes.ofString "one\r\n\ntwo") (Bytes.ofString "careful\n")⟩, state)

/-- A container without mounts. -/
def box : Container := ⟨"docker", "box", ⟨"rust", [], .ofPath ⟨"/workspace"⟩, [], 60⟩, false⟩

/-- The state of an engine that runs the container. -/
def inBox : ContainerState Unit := ⟨(), [], some box⟩

end Sample

/-- Every order of turns captures the lines of both streams. -/
theorem output_of_chatty_call :
    (Sample.inBox.container = some Sample.box ∧
      (Sample.inBox.invoke Sample.chatty Sample.box.command
        (Container.execArgs Sample.box.name Sample.box.session ⟨"make", []⟩)).1.answer =
          .exited none (Bytes.ofString "one\r\n\ntwo") (Bytes.ofString "careful\n")) ∧
    (ContainerState.run Sample.chatty ⟨"make", []⟩ Sample.inBox).1.answer =
      .finished ⟨none, "one\n\ntwo\n", "careful\n"⟩ ∧
    ∀ schedule capture, (Capture.ofStreams (Bytes.ofString "one\r\n\ntwo")
        (Bytes.ofString "careful\n")).Turns schedule capture →
      capture.IsOver → capture.output none = ⟨none, "one\n\ntwo\n", "careful\n"⟩ := by
  have alive : Sample.inBox.container = some Sample.box := rfl
  have answered : (Sample.inBox.invoke Sample.chatty Sample.box.command
      (Container.execArgs Sample.box.name Sample.box.session ⟨"make", []⟩)).1.answer =
      .exited none (Bytes.ofString "one\r\n\ntwo") (Bytes.ofString "careful\n") := by
    have args : Container.execArgs Sample.box.name Sample.box.session ⟨"make", []⟩ =
        ["exec", "--workdir", "/workspace", "box", "make"] := by
      simp [Container.execArgs, Sample.box]
    rw [args]
    rfl
  have lines : withFeeds (linesOf "one\r\n\ntwo") = "one\n\ntwo\n" ∧
      withFeeds (linesOf "careful\n") = "careful\n" := by decide
  obtain ⟨⟨code, out, err⟩, ran, code_eq, out_eq, err_eq, always⟩ :=
    ContainerState.output_of_turns alive answered
  obtain rfl : code = none := code_eq
  obtain rfl : out = "one\n\ntwo\n" := (out_eq _ (Bytes.text?_eq_some_iff.mpr rfl)).trans lines.1
  obtain rfl : err = "careful\n" := (err_eq _ (Bytes.text?_eq_some_iff.mpr rfl)).trans lines.2
  exact ⟨⟨alive, answered⟩, ran, fun schedule capture turns => (always schedule capture turns).2.2⟩

end SealedBuild
