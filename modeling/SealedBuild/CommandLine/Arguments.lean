import SealedBuild.Path

/-!
# Arguments

The arguments of the program, read from left to right: options with a value, switches, and one
positional argument. A value may follow its option after an equals sign or as the next argument, and
after two dashes everything is positional. An option that is not given may have its value from the
environment. The first fault that is met ends the reading, as does a request for help or for the
version.
-/

namespace SealedBuild.CommandLine

/-- An option that takes a value. -/
inductive ValueOption
  | sourceRoot
  | config
  | engine
  deriving DecidableEq

namespace ValueOption

/-- All options that take a value. -/
def all : List ValueOption := [sourceRoot, config, engine]

/-- The name of an option, without its dashes. -/
def name : ValueOption → String
  | sourceRoot => "source-root"
  | config => "config"
  | engine => "engine"

/-- What the value of an option is called. -/
def valueName : ValueOption → String
  | sourceRoot => "DIR"
  | config => "FILE"
  | engine => "BIN"

/-- The variable of the environment that may hold the value of an option. -/
def variableName : ValueOption → String
  | sourceRoot => "CODEX_BUILDER_SOURCE_ROOT"
  | config => "CODEX_BUILDER_CONFIG"
  | engine => "CODEX_BUILDER_ENGINE"

end ValueOption

/-- An option without a value. -/
inductive Switch
  | skipVerify
  | verifyOnly
  | json
  deriving DecidableEq

namespace Switch

/-- All switches. -/
def all : List Switch := [skipVerify, verifyOnly, json]

/-- The name of a switch, without its dashes. -/
def name : Switch → String
  | skipVerify => "skip-verify"
  | verifyOnly => "verify-only"
  | json => "json"

/-- A switch as it is written. -/
def label (switch : Switch) : String := "--" ++ switch.name

end Switch

/-- A place that takes a value. -/
inductive Slot
  | target
  | option (option : ValueOption)
  deriving DecidableEq

namespace Slot

/-- A place for a value, as it is shown in messages. -/
def label : Slot → String
  | .target => "[TARGET_ROOT]"
  | .option named => "--" ++ named.name ++ " <" ++ named.valueName ++ ">"

/-- Whether a place refuses an empty value: all do that take a path. -/
def refusesEmpty : Slot → Bool
  | option .engine => false
  | _ => true

end Slot

/-- What is wrong with arguments. -/
inductive UsageError
  | unexpectedArgument (text : String)
  | valueRequired (slot : Slot)
  | usedTwice (label : String)
  | unexpectedValue (value label : String)
  | conflict (first second : Switch)
  /-- One switch needs another one that is not given. -/
  | missingSwitch (switch : Switch)
  deriving DecidableEq

/-- The sentence that reports what is wrong with arguments. -/
def UsageError.message : UsageError → String
  | unexpectedArgument text => "unexpected argument '" ++ text ++ "' found"
  | valueRequired slot =>
    "a value is required for '" ++ slot.label ++ "' but none was supplied"
  | usedTwice label => "the argument '" ++ label ++ "' cannot be used multiple times"
  | unexpectedValue value label =>
    "unexpected value '" ++ value ++ "' for '" ++ label ++ "' found; no more were expected"
  | conflict first second =>
    "the argument '" ++ first.label ++ "' cannot be used with '" ++ second.label ++ "'"
  | missingSwitch switch =>
    "the following required arguments were not provided:\n  " ++ switch.label

/-- Why reading the arguments ends before a run begins. -/
inductive Stop
  | help
  | version
  | refused (error : UsageError)
  deriving DecidableEq

/-- What the arguments and the environment ask for. -/
structure Arguments where
  target : Option Path
  sourceRoot : Option Path
  config : Option Path
  engine : Option String
  skipVerify : Bool
  verifyOnly : Bool
  json : Bool
  deriving DecidableEq

/-- How far the arguments have been read. A value that is not complete, or has not been looked at
yet, is pending. -/
structure Reading where
  values : List (Slot × String)
  switches : List Switch
  pending : Option (Slot × Option String)
  /-- Whether the next argument is the value of the pending option. -/
  awaiting : Bool
  /-- Whether the positional argument has been met. -/
  positional : Bool
  /-- Whether two dashes have been met. -/
  trailing : Bool

namespace Reading

/-- Nothing read yet. -/
def initial : Reading := ⟨[], [], none, false, false, false⟩

/-- The value that a place was given. -/
def value? (reading : Reading) (slot : Slot) : Option String :=
  (reading.values.find? fun entry => decide (entry.1 = slot)).map (·.2)

/-- Gives a value to a place that has none yet. -/
def store (reading : Reading) (slot : Slot) (value : String) : Except Stop Reading :=
  if (reading.value? slot).isSome then .error (.refused (.usedTwice slot.label))
  else if value = "" ∧ slot.refusesEmpty then .error (.refused (.valueRequired slot))
  else .ok { reading with values := reading.values ++ [(slot, value)] }

/-- Looks at the pending value. -/
def settle (reading : Reading) : Except Stop Reading :=
  match reading.pending with
  | none => .ok reading
  | some (slot, none) => .error (.refused (.valueRequired slot))
  | some (slot, some value) => ({ reading with pending := none } : Reading).store slot value

/-- Turns a switch on. -/
def turnOn (reading : Reading) (switch : Switch) : Except Stop Reading := do
  let reading ← reading.settle
  if reading.switches.contains switch then .error (.refused (.usedTwice switch.label))
  else return { reading with switches := reading.switches ++ [switch], awaiting := false }

/-- Reads an option that takes a value. -/
def readOption (reading : Reading) (option : ValueOption) (attached : Option String) :
    Except Stop Reading := do
  let reading ← reading.settle
  match attached with
  | some value => ({ reading with awaiting := false } : Reading).store (.option option) value
  | none => return { reading with pending := some (.option option, none), awaiting := true }

/-- Ends the reading, once the pending value has been looked at. -/
def stop (reading : Reading) (why : Stop) : Except Stop Reading := do
  let _ ← reading.settle
  .error why

/-- Reads something without a value that is written with two dashes. -/
def bare (label : String) (attached : Option String) (next : Except Stop Reading) :
    Except Stop Reading :=
  match attached with
  | some value => .error (.refused (.unexpectedValue value label))
  | none => next

/-- Reads an argument that starts with two dashes, given its name and the value attached to it. -/
def readLong (reading : Reading) (name : String) (attached : Option String) :
    Except Stop Reading :=
  match ValueOption.all.find? fun option => option.name == name with
  | some option => reading.readOption option attached
  | none =>
    match Switch.all.find? fun switch => switch.name == name with
    | some switch => bare switch.label attached (reading.turnOn switch)
    | none =>
      if name = "help" then bare "--help" attached (reading.stop .help)
      else if name = "version" then bare "--version" attached (reading.stop .version)
      else .error (.refused (.unexpectedArgument ("--" ++ name)))

/-- Reads an argument that starts with one dash, given the first letter after it. -/
def readShort (reading : Reading) (letter : Char) : Except Stop Reading :=
  if letter = 'h' then reading.stop .help
  else if letter = 'V' then reading.stop .version
  else .error (.refused (.unexpectedArgument (String.ofList ['-', letter])))

/-- Reads a positional argument. -/
def readPositional (reading : Reading) (arg : String) : Except Stop Reading := do
  if reading.positional then .error (.refused (.unexpectedArgument arg))
  else
    let reading ← reading.settle
    return { reading with
      pending := some (.target, some arg), positional := true, awaiting := false }

/-- Reads an argument that is neither an option nor a switch. -/
def readPlain (reading : Reading) (arg : String) : Except Stop Reading :=
  match reading.awaiting, reading.pending with
  | true, some (slot, _) =>
    .ok { reading with pending := some (slot, some arg), awaiting := false }
  | _, _ => reading.readPositional arg

/-- Reads one argument. -/
def readArgument (reading : Reading) (arg : String) : Except Stop Reading :=
  if reading.trailing then reading.readPositional arg
  else match arg.toList with
    | ['-', '-'] => .ok { reading with trailing := true }
    | '-' :: '-' :: rest =>
      let name := String.ofList (rest.takeWhile (· != '='))
      match rest.dropWhile (· != '=') with
      | [] => reading.readLong name none
      | _ :: value => reading.readLong name (some (String.ofList value))
    | '-' :: letter :: _ => reading.readShort letter
    | _ => reading.readPlain arg

/-- Takes the values of options that were not given from the environment. -/
def fillFrom (environment : String → Option String) :
    List ValueOption → Reading → Except Stop Reading
  | [], reading => .ok reading
  | option :: rest, reading =>
    match reading.value? (.option option), environment option.variableName with
    | none, some value =>
      match reading.store (.option option) value with
      | .ok reading => fillFrom environment rest reading
      | .error stop => .error stop
    | _, _ => fillFrom environment rest reading

/-- The first of two switches that exclude each other, in the order in which they were given. -/
def conflict? (reading : Reading) : Option UsageError :=
  match reading.switches.filter fun switch => decide (switch ≠ .json) with
  | first :: second :: _ => some (.conflict first second)
  | _ => none

/-- What is wrong with arguments that are all well formed. -/
def combinationError? (reading : Reading) : Option UsageError :=
  match reading.conflict? with
  | some error => some error
  | none => if reading.switches = [.json] then some (.missingSwitch .verifyOnly) else none

/-- What has been read. -/
def toArguments (reading : Reading) : Arguments where
  target := (reading.value? .target).map fun text => ⟨text⟩
  sourceRoot := (reading.value? (.option .sourceRoot)).map fun text => ⟨text⟩
  config := (reading.value? (.option .config)).map fun text => ⟨text⟩
  engine := reading.value? (.option .engine)
  skipVerify := reading.switches.contains .skipVerify
  verifyOnly := reading.switches.contains .verifyOnly
  json := reading.switches.contains .json

end Reading

/-- Reads the arguments of the program. -/
def Arguments.parse (args : List String) (environment : String → Option String) :
    Except Stop Arguments := do
  let reading ← args.foldlM Reading.readArgument Reading.initial
  let reading ← reading.settle
  let reading ← Reading.fillFrom environment ValueOption.all reading
  match reading.combinationError? with
  | some error => .error (.refused error)
  | none => return reading.toArguments

end SealedBuild.CommandLine
