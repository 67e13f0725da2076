import SealedBuild.Config
import SealedBuild.Json.Decode
import SealedBuild.Request

/-!
# Sessions

Everything that is needed to start one sandbox: the image, the directories that are mounted, the
directory in which steps run, their environment, and the longest time that the sandbox may live.
-/

namespace SealedBuild

/-- What a sandbox may do with a mounted directory. -/
inductive MountMode
  | readWrite
  | readOnly
  deriving DecidableEq

/-- The short name of a mode. -/
def MountMode.flag : MountMode → String
  | readWrite => "rw"
  | readOnly => "ro"

/-- A directory that is made available inside a sandbox. -/
structure Mount where
  hostPath : OsPath
  containerPath : OsPath
  mode : MountMode
  deriving DecidableEq

/-- The two paths as they are shown and the mode, separated by colons. -/
def Mount.volumeArg (mount : Mount) : String :=
  mount.hostPath.display ++ ":" ++ mount.containerPath.display ++ ":" ++ mount.mode.flag

/-- The variables of an environment, in the order of their names. -/
abbrev Environment := List (String × String)

/-- The environment with a variable set. -/
def Environment.set : Environment → String → String → Environment
  | [], name, value => [(name, value)]
  | (key, old) :: rest, name, value =>
    if name = key then (name, value) :: rest
    else if name < key then (name, value) :: (key, old) :: rest
    else (key, old) :: Environment.set rest name value

/-- The environment of entries in any order. Of several values of one name the last one counts. -/
def Environment.ofList (entries : List (String × String)) : Environment :=
  entries.foldl (fun environment entry => environment.set entry.1 entry.2) []

/-- What is needed to start a sandbox. -/
structure Session where
  image : String
  mounts : List Mount
  workingDirectory : OsPath
  environment : Environment
  maxLifetimeSecs : Nat
  deriving DecidableEq

namespace Session

/-- The session of a request. Both trees are mounted for reading and writing. -/
def forRequest (request : Request) (config : Config) : Session where
  image := config.sandbox.image
  mounts := [⟨.ofPath request.sourceRoot, .ofPath config.sandbox.sourceMount, .readWrite⟩,
    ⟨.ofPath request.targetRoot, .ofPath config.sandbox.targetMount, .readWrite⟩]
  workingDirectory := .ofPath config.buildDirectory
  environment := [("DEBIAN_FRONTEND", "noninteractive")]
  maxLifetimeSecs := config.sandbox.maxLifetimeSecs

end Session

/-- A mount as a document, if its paths are text. -/
def Mount.toJson? (mount : Mount) : Option Json := do
  let hostPath ← mount.hostPath.toJson?
  let containerPath ← mount.containerPath.toJson?
  return .object [("host_path", hostPath), ("container_path", containerPath),
    ("mode", .string mount.mode.flag)]

/-- A session as a document, if its paths are text. -/
def Session.toJson? (session : Session) : Option Json := do
  let mounts ← session.mounts.mapM Mount.toJson?
  let workingDirectory ← session.workingDirectory.toJson?
  return .object [("image", .string session.image), ("mounts", .array mounts),
    ("working_dir", workingDirectory),
    ("env", .object (session.environment.map fun entry => (entry.1, .string entry.2))),
    ("max_lifetime_secs", .number session.maxLifetimeSecs)]

/-- The mode with a short name. -/
def MountMode.ofFlag? (flag : String) : Option MountMode :=
  if flag = "rw" then some .readWrite
  else if flag = "ro" then some .readOnly
  else none

/-- Reads a mode: its short name, or an object that has that name for its only key and nothing for
its value. -/
def MountMode.ofJson? : Json → Option MountMode
  | .string flag => ofFlag? flag
  | .object [(flag, .null)] => ofFlag? flag
  | _ => none

/-- Reads a mount. -/
def Mount.ofJson? (document : Json) : Option Mount := do
  let fields ← Json.Fields.ofJson? 3 document
  return {
    hostPath := ← fields.required 0 "host_path" Json.osPath?
    containerPath := ← fields.required 1 "container_path" Json.osPath?
    mode := ← fields.required 2 "mode" MountMode.ofJson? }

/-- Reads an environment. -/
def Environment.ofJson? : Json → Option Environment
  | .object members =>
    (members.mapM fun entry => (Json.string? entry.2).map fun text => (entry.1, text)).map ofList
  | _ => none

/-- Reads a session. -/
def Session.ofJson? (document : Json) : Option Session := do
  let fields ← Json.Fields.ofJson? 5 document
  return {
    image := ← fields.required 0 "image" Json.string?
    mounts := ← fields.required 1 "mounts" (Json.list? Mount.ofJson?)
    workingDirectory := ← fields.required 2 "working_dir" Json.osPath?
    environment := ← fields.required 3 "env" Environment.ofJson?
    maxLifetimeSecs := ← fields.required 4 "max_lifetime_secs" Json.natural? }

end SealedBuild
