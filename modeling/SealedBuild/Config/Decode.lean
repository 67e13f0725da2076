import SealedBuild.Config
import SealedBuild.Toml.Decode
import SealedBuild.Toml.Document

/-!
# Reading configurations

A configuration is a TOML document with one table per group of settings. Each field that is absent
keeps its built-in value, whatever else is present, and keys that no field asks for are ignored.
-/

namespace SealedBuild

open Toml (Value Fields Error)

/-- Reads a constraint. Its package is required. -/
def Constraint.ofToml (value : Value) : Except Error Constraint := do
  let fields ← Fields.ofValue value
  return {
    package := ← fields.required 0 "package" Value.asString
    disallowed := ← fields.optional 1 "disallowed" Value.asBool true
    rationale := ← fields.optional 2 "rationale" Value.asString "" }

/-- Reads a token. Its pattern is required. -/
def Token.ofToml (value : Value) : Except Error Token := do
  let fields ← Fields.ofValue value
  return {
    pattern := ← fields.required 0 "pattern" Value.asString
    rationale := ← fields.optional 1 "rationale" Value.asString "" }

/-- Reads the settings of the sandbox. -/
def SandboxSettings.ofToml (value : Value) : Except Error SandboxSettings := do
  let fields ← Fields.ofValue value
  let builtIn : SandboxSettings := {}
  return {
    engine := ← fields.optional 0 "engine" Value.asString builtIn.engine
    image := ← fields.optional 1 "image" Value.asString builtIn.image
    sourceMount := ← fields.optional 2 "source_mount" Value.asPath builtIn.sourceMount
    targetMount := ← fields.optional 3 "target_mount" Value.asPath builtIn.targetMount
    buildSubdir := ← fields.optional 4 "build_subdir" Value.asPath builtIn.buildSubdir
    maxLifetimeSecs :=
      ← fields.optional 5 "max_lifetime_secs" Value.asNatural builtIn.maxLifetimeSecs }

/-- Reads the settings of the toolchain. -/
def ToolchainSettings.ofToml (value : Value) : Except Error ToolchainSettings := do
  let fields ← Fields.ofValue value
  let builtIn : ToolchainSettings := {}
  return {
    manifest := ← fields.optional 0 "manifest" Value.asPath builtIn.manifest
    osPackages := ← fields.optional 1 "os_packages" (Value.asList Value.asString)
      builtIn.osPackages }

/-- Reads the settings of the build. -/
def BuildSettings.ofToml (value : Value) : Except Error BuildSettings := do
  let fields ← Fields.ofValue value
  let builtIn : BuildSettings := {}
  return {
    package := ← fields.optional 0 "package" Value.asString builtIn.package
    binary := ← fields.optional 1 "binary" Value.asString builtIn.binary }

/-- Reads the settings of the installation. -/
def InstallSettings.ofToml (value : Value) : Except Error InstallSettings := do
  let fields ← Fields.ofValue value
  let builtIn : InstallSettings := {}
  return { destination := ← fields.optional 0 "destination" Value.asPath builtIn.destination }

/-- Reads the settings of the verification. -/
def VerifySettings.ofToml (value : Value) : Except Error VerifySettings := do
  let fields ← Fields.ofValue value
  let builtIn : VerifySettings := {}
  return {
    enforce := ← fields.optional 0 "enforce" Value.asBool builtIn.enforce
    constraints := ← fields.optional 1 "constraints" (Value.asList Constraint.ofToml)
      builtIn.constraints
    tokens := ← fields.optional 2 "tokens" (Value.asList Token.ofToml) builtIn.tokens
    allowedPaths := ← fields.optional 3 "allowed_paths" (Value.asList Value.asString)
      builtIn.allowedPaths
    skipDirs := ← fields.optional 4 "skip_dirs" (Value.asList Value.asString) builtIn.skipDirs }

namespace Config

/-- Reads a configuration. -/
def ofToml (value : Value) : Except Error Config := do
  let fields ← Fields.ofValue value
  return {
    sandbox := ← fields.optional 0 "sandbox" SandboxSettings.ofToml {}
    toolchain := ← fields.optional 1 "toolchain" ToolchainSettings.ofToml {}
    build := ← fields.optional 2 "build" BuildSettings.ofToml {}
    install := ← fields.optional 3 "install" InstallSettings.ofToml {}
    verify := ← fields.optional 4 "verify" VerifySettings.ofToml {} }

/-- Reads a configuration from the text of a document. It is not checked. -/
def parse (text : String) : Except Error Config := Toml.parse text >>= ofToml

end Config

end SealedBuild
