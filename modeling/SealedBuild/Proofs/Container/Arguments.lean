import SealedBuild.Container
import SealedBuild.Proofs.OsPath

/-!
# Arguments of engine calls

The arguments that start a container and those that execute a step in it are flat lists, with
options that may be given any number of times and with values of every kind. They can be read back
all the same. What stands after an option is its value, whatever it looks like, and the first
argument after the options of one kind is never such an option itself: a name that was made up for a
container is none, and neither is the option of the working directory a volume.

Arguments are text. A working directory is given to the engine as it is shown, so one that is not
text is lost.

Main statements: `arguments_read_back`, for the arguments of every session with a working directory
in text and every step, and `working_directory_lost`.
-/

namespace SealedBuild

/-! ### Options and variables -/

/-- The values of an option that stands any number of times at the front of a list of arguments, and
the arguments after these. -/
def takeValues (option : String) : List String → List String × List String
  | arg :: value :: rest =>
    if arg = option then (value :: (takeValues option rest).1, (takeValues option rest).2)
    else ([], arg :: value :: rest)
  | args => ([], args)

variable {option name value key : String} {rest : List String}

theorem takeValues_of_head_ne (other : rest.head? ≠ some option) :
    takeValues option rest = ([], rest) := by
  match rest with
  | [] => rfl
  | [arg] => rfl
  | arg :: next :: more =>
      have differs : arg ≠ option := by simpa using other
      rw [takeValues, if_neg differs]

/-- Values of an option are found again in front of anything but the option. -/
theorem takeValues_flatMap {α : Type} (text : α → String) (entries : List α)
    (other : rest.head? ≠ some option) :
    takeValues option (entries.flatMap (fun entry => [option, text entry]) ++ rest) =
      (entries.map text, rest) := by
  induction entries with
  | nil => exact takeValues_of_head_ne other
  | cons entry more ih =>
      rw [List.flatMap_cons, List.append_assoc, List.cons_append, List.singleton_append, takeValues,
        if_pos rfl, ih, List.map_cons]

/-- The text of a variable: its name, an equals sign, and its value. -/
def variableText (entry : String × String) : String := entry.1 ++ "=" ++ entry.2

/-- Reads a variable: its name ends at the first equals sign. -/
def variableOf (text : String) : String × String :=
  (String.ofList (text.toList.takeWhile (· ≠ '=')),
    String.ofList ((text.toList.dropWhile (· ≠ '=')).drop 1))

theorem variableOf_variableText (clean : '=' ∉ key.toList) :
    variableOf (variableText (key, value)) = (key, value) := by
  have passes : ∀ c ∈ key.toList, decide (c ≠ '=') = true := by
    rintro c held
    rw [decide_eq_true_iff]
    rintro rfl
    exact clean held
  have text_eq : (variableText (key, value)).toList = key.toList ++ '=' :: value.toList := by
    simp [variableText, String.toList_append]
  rw [variableOf, text_eq, List.takeWhile_append_of_pos passes, List.dropWhile_append_of_pos passes]
  simp

theorem map_variableOf {environment : Environment}
    (keys : ∀ entry ∈ environment, '=' ∉ entry.1.toList) :
    (environment.map variableText).map variableOf = environment := by
  rw [List.map_map]
  conv => rhs; rw [← List.map_id environment]
  exact List.map_congr_left fun entry held => variableOf_variableText (keys entry held)

/-! ### Starting a container -/

/-- What an engine is told when a container is started. -/
structure StartOrder where
  name : String
  volumes : List String
  workingDirectory : OsPath
  image : String
  maxLifetimeSecs : Nat
  deriving DecidableEq

/-- Reads the arguments that start a container. -/
def StartOrder.ofArgs? : List String → Option StartOrder
  | "run" :: "--detach" :: "--rm" :: "--name" :: name :: rest =>
    match takeValues "--volume" rest with
    | (volumes, ["--workdir", directory, "--entrypoint", "sleep", image, seconds]) =>
      some ⟨name, volumes, .ofPath ⟨directory⟩, image, Nat.ofDigitChars 10 seconds.toList 0⟩
    | _ => none
  | _ => none

theorem StartOrder.ofArgs?_runArgs (name : String) {session : Session}
    (isText : session.workingDirectory.IsText) :
    ofArgs? (Container.runArgs name session) = some
      ⟨name, session.mounts.map (·.volumeArg), session.workingDirectory, session.image,
        session.maxLifetimeSecs⟩ := by
  have other : ["--workdir", session.workingDirectory.display, "--entrypoint", "sleep",
      session.image, toString session.maxLifetimeSecs].head? ≠ some "--volume" := by simp
  have taken := takeValues_flatMap (·.volumeArg) session.mounts other
  have lifetime : Nat.ofDigitChars 10 (toString session.maxLifetimeSecs).toList 0 =
      session.maxLifetimeSecs := by
    rw [Nat.toString_eq_ofList_toDigits, String.toList_ofList, Nat.ofDigitChars_ten_toDigits]
  rw [Container.runArgs, List.append_assoc]
  simp only [List.cons_append, List.nil_append, ofArgs?, taken, lifetime, isText.ofPath_display]

/-! ### Executing a step -/

/-- What an engine is told when a step is executed. -/
structure StepOrder where
  name : String
  workingDirectory : OsPath
  environment : Environment
  step : Step
  deriving DecidableEq

/-- Reads the arguments that execute a step. -/
def StepOrder.ofArgs? : List String → Option StepOrder
  | "exec" :: "--workdir" :: directory :: rest =>
    match takeValues "--env" rest with
    | (settings, name :: program :: args) =>
      some ⟨name, .ofPath ⟨directory⟩, settings.map variableOf, ⟨program, args⟩⟩
    | _ => none
  | _ => none

theorem StepOrder.ofArgs?_execArgs {session : Session} (other : name ≠ "--env")
    (isText : session.workingDirectory.IsText)
    (keys : ∀ entry ∈ session.environment, '=' ∉ entry.1.toList) (step : Step) :
    ofArgs? (Container.execArgs name session step) =
      some ⟨name, session.workingDirectory, session.environment, step⟩ := by
  have other' : (name :: step.program :: step.args).head? ≠ some "--env" := by simpa using other
  have taken := takeValues_flatMap variableText session.environment other'
  have options : session.environment.flatMap (fun entry => ["--env", entry.1 ++ "=" ++ entry.2]) =
      session.environment.flatMap fun entry => ["--env", variableText entry] := rfl
  rw [Container.execArgs, List.append_assoc, options]
  simp only [List.cons_append, List.nil_append, ofArgs?, taken, map_variableOf keys,
    isText.ofPath_display]

/-- A name that was made up for a container is not an option. -/
theorem Container.nameOf_ne_option (number : Nat) : nameOf number ≠ "--env" := by
  intro same
  have starts : (nameOf number).toList.head? = some 'c' := by
    simp [nameOf, String.toList_append]
  rw [same] at starts
  exact absurd starts (by decide)

/-- All that a container is started with, and all that a step is executed with, is read back from
the arguments, whatever the values look like, if the working directory is text. The command of a
step stands at the end as it is. -/
theorem arguments_read_back (number : Nat) {session : Session}
    (isText : session.workingDirectory.IsText)
    (keys : ∀ entry ∈ session.environment, '=' ∉ entry.1.toList) (step : Step) :
    StepOrder.ofArgs? (Container.execArgs (Container.nameOf number) session step) =
      some ⟨Container.nameOf number, session.workingDirectory, session.environment, step⟩ ∧
    Container.nameOf number :: step.program :: step.args <:+
      Container.execArgs (Container.nameOf number) session step ∧
    StartOrder.ofArgs? (Container.runArgs (Container.nameOf number) session) =
      some ⟨Container.nameOf number, session.mounts.map (·.volumeArg), session.workingDirectory,
        session.image, session.maxLifetimeSecs⟩ :=
  ⟨StepOrder.ofArgs?_execArgs (Container.nameOf_ne_option number) isText keys step,
    List.suffix_append _ _, StartOrder.ofArgs?_runArgs _ isText⟩

namespace Sample

/-- A session whose values look like options. -/
def misleading : Session where
  image := "--entrypoint"
  mounts := [⟨.ofPath ⟨"--volume"⟩, .ofPath ⟨"/a"⟩, .readWrite⟩,
    ⟨.ofPath ⟨"/b"⟩, .ofPath ⟨"--workdir"⟩, .readOnly⟩]
  workingDirectory := .ofPath ⟨"--env"⟩
  environment := [("", "--env"), ("--env", "A=B")]
  maxLifetimeSecs := 60

/-- A session that works below a directory of one byte. -/
def belowByte (byte : UInt8) : Session where
  image := "rust"
  mounts := []
  workingDirectory := (OsPath.ofPath ⟨"/w"⟩).join ⟨[byte]⟩
  environment := []
  maxLifetimeSecs := 60

end Sample

theorem arguments_of_misleading_values :
    StepOrder.ofArgs? ["exec", "--workdir", "--env", "--env", "=--env", "--env", "--env=A=B",
        "codex-build-0000000000ff", "codex-build-0000000000ff", "--env", "A=B"] =
      some ⟨"codex-build-0000000000ff", .ofPath ⟨"--env"⟩, [("", "--env"), ("--env", "A=B")],
        ⟨"codex-build-0000000000ff", ["--env", "A=B"]⟩⟩ ∧
    StartOrder.ofArgs? ["run", "--detach", "--rm", "--name", "codex-build-0000000000ff",
        "--volume", "--volume:/a:rw", "--volume", "/b:--workdir:ro", "--workdir", "--env",
        "--entrypoint", "sleep", "--entrypoint", "60"] =
      some ⟨"codex-build-0000000000ff", ["--volume:/a:rw", "/b:--workdir:ro"],
        .ofPath ⟨"--env"⟩, "--entrypoint", 60⟩ := by
  have keys : ∀ entry ∈ Sample.misleading.environment, '=' ∉ entry.1.toList := by decide
  obtain ⟨step, -, start⟩ :=
    arguments_read_back 255 (OsPath.isText_ofPath _) keys
      ⟨"codex-build-0000000000ff", ["--env", "A=B"]⟩
  simp only [Container.execArgs, Container.runArgs, Sample.misleading, List.flatMap_cons,
    List.map_cons, Mount.volumeArg, OsPath.display_ofPath] at step start
  exact ⟨step, start⟩

/-- Two directories that are not text are shown alike, and nothing in the arguments tells the
sessions that work in them apart. -/
theorem working_directory_lost :
    (Sample.belowByte 0xff).workingDirectory ≠ (Sample.belowByte 0xfe).workingDirectory ∧
    (∀ entry ∈ (Sample.belowByte 0xff).environment, '=' ∉ entry.1.toList) ∧
    (∀ entry ∈ (Sample.belowByte 0xfe).environment, '=' ∉ entry.1.toList) ∧
    ∀ number step,
      Container.execArgs (Container.nameOf number) (Sample.belowByte 0xff) step =
        Container.execArgs (Container.nameOf number) (Sample.belowByte 0xfe) step ∧
      Container.runArgs (Container.nameOf number) (Sample.belowByte 0xff) =
        Container.runArgs (Container.nameOf number) (Sample.belowByte 0xfe) := by
  have alike : (Sample.belowByte 0xff).workingDirectory.display =
      (Sample.belowByte 0xfe).workingDirectory.display := by decide +kernel
  refine ⟨by decide, by decide, by decide, fun number step => ?_⟩
  rw [Container.execArgs, Container.execArgs, Container.runArgs, Container.runArgs, alike]
  exact ⟨rfl, rfl⟩

end SealedBuild
