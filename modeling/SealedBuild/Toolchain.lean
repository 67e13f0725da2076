import SealedBuild.Json.Decode
import SealedBuild.Text.Blank
import SealedBuild.Text.Lines
import SealedBuild.Toml.Decode
import SealedBuild.Toml.Document

/-!
# Toolchains

The source tree pins its toolchain in a manifest: a TOML document with a table for the toolchain,
or a single line that is the channel itself. A text that is no such document is taken for a
channel only if it is one line, and a channel never contains blanks.
-/

namespace SealedBuild

open Text
open Toml (Value Fields)

/-- A pinned toolchain. -/
structure Toolchain where
  /-- The release channel or the exact version. -/
  channel : String
  profile : Option String
  components : List String
  targets : List String
  deriving DecidableEq

namespace Toolchain

/-- The profile to install: the smallest one if none is named. -/
def effectiveProfile (toolchain : Toolchain) : String := toolchain.profile.getD "minimal"

/-- The argument by which a command uses the toolchain. -/
def argument (toolchain : Toolchain) : String := "+" ++ toolchain.channel

/-- The toolchain with a channel and nothing else. -/
def ofChannel (channel : String) : Toolchain := ⟨channel, none, [], []⟩

/-- Why a text is not a manifest. -/
inductive ManifestError
  | missingTable
  /-- The text is neither a document nor a single line. -/
  | notManifest (error : Toml.Error)
  | invalidChannel (channel : String)
  deriving DecidableEq

/-- The sentence that reports an error. -/
def ManifestError.message : ManifestError → String
  | missingTable => "missing [toolchain] table"
  | notManifest error => "not a toolchain manifest: " ++ error.message
  | invalidChannel channel => "invalid channel '" ++ channel ++ "'"

/-- Reads a toolchain. Its channel is required. -/
def ofToml (value : Value) : Except Toml.Error Toolchain := do
  let fields ← Fields.ofValue value
  return {
    channel := ← fields.required 0 "channel" Value.asString
    profile := ← fields.optional 1 "profile" (fun value => value.asString.map some) none
    components := ← fields.optional 2 "components" (Value.asList Value.asString) []
    targets := ← fields.optional 3 "targets" (Value.asList Value.asString) [] }

/-- Reads the toolchain that a manifest holds, if it holds one. -/
def ofManifest (value : Value) : Except Toml.Error (Option Toolchain) := do
  let fields ← Fields.ofValue value
  fields.optional 0 "toolchain" (fun value => (ofToml value).map some) none

/-- The toolchain, if its channel is neither empty nor contains a blank. -/
def checked (toolchain : Toolchain) : Except ManifestError Toolchain :=
  if toolchain.channel = "" ∨ toolchain.channel.toList.any isBlank then
    .error (.invalidChannel toolchain.channel)
  else .ok toolchain

/-- Reads a manifest. -/
def parse (content : String) : Except ManifestError Toolchain :=
  match Toml.parse content >>= ofManifest with
  | .ok (some toolchain) => checked toolchain
  | .ok none => .error .missingTable
  | .error error =>
    let line := trimmed content
    if (linesOf line).length = 1 then checked (ofChannel line) else .error (.notManifest error)

/-- Reads a toolchain from a JSON document. -/
def ofJson? (document : Json) : Option Toolchain := do
  let fields ← Json.Fields.ofJson? 4 document
  return {
    channel := ← fields.required 0 "channel" Json.string?
    profile := ← fields.optional 1 "profile" (Json.nullable? Json.string?) none
    components := ← fields.optional 2 "components" Json.strings? []
    targets := ← fields.optional 3 "targets" Json.strings? [] }

end Toolchain

end SealedBuild
