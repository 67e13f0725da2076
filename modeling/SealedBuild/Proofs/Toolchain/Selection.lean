import SealedBuild.Proofs.Path.Containment
import SealedBuild.Proofs.Pipeline.Attribution
import SealedBuild.Proofs.Text.Lines

/-!
# Which manifest is read

Of a source tree one file is read for the toolchain: the configured one, or the older one in its
place if the configured path leads nowhere. What that file holds decides on the toolchain, and
nothing else in the tree does. So a manifest that exists is never put aside for the older file, be
it malformed or a directory, and it does not matter whether the older file is there or what it says.
The one way in which the older file counts all the same is a configured path that leads through it,
as a link to it does.

Main statement: `selection_of_manifest`, for every file system and all paths.
-/

namespace SealedBuild

namespace FileSystem

variable {files : FileSystem} {path : Path}

theorem pathExists_iff : files.pathExists path = true ↔
    ∃ entry, files.entryAt path = .ok entry := by
  unfold pathExists
  cases files.entryAt path with
  | ok entry => simp
  | error error => simp

/-- The text of a file is what its bytes are the encoding of. -/
theorem readText_ok_iff {text : String} : files.readText path = .ok text ↔
    ∃ place mode, files.resolve path = .ok place ∧
      files.lookup place = some (.file mode (Bytes.ofString text)) ∧
      files.access.mayRead place.raw mode = true := by
  rw [← readBytes_ok_iff, readText]
  cases files.readBytes path with
  | error error => simp
  | ok content =>
    rw [Except.ok.injEq, ← Bytes.text?_eq_some_iff]
    dsimp only
    cases content.text? <;> simp

end FileSystem

namespace Toolchain

variable {files other : FileSystem} {sourceRoot manifest : Path}

/-- A toolchain is loaded exactly if the chosen file is text and the text is a manifest of it. -/
theorem load_ok_iff {toolchain : Toolchain} : load files sourceRoot manifest = .ok toolchain ↔
    ∃ place mode text, files.resolve (manifestFile files sourceRoot manifest) = .ok place ∧
      files.lookup place = some (.file mode (Bytes.ofString text)) ∧
      files.access.mayRead place.raw mode = true ∧ parse text = .ok toolchain := by
  have exists_read : load files sourceRoot manifest = .ok toolchain ↔
      ∃ text, files.readText (manifestFile files sourceRoot manifest) = .ok text ∧
        parse text = .ok toolchain := by
    unfold load
    dsimp only
    cases read : files.readText (manifestFile files sourceRoot manifest) with
    | error error => simp
    | ok text => cases parsed : parse text <;> simp [parsed]
  rw [exists_read]
  constructor
  · rintro ⟨text, read, parsed⟩
    obtain ⟨place, mode, found, held, may⟩ := FileSystem.readText_ok_iff.mp read
    exact ⟨place, mode, text, found, held, may, parsed⟩
  · rintro ⟨place, mode, text, found, held, may, parsed⟩
    exact ⟨text, FileSystem.readText_ok_iff.mpr ⟨place, mode, found, held, may⟩, parsed⟩

/-- Nothing but the text of the chosen file counts. -/
theorem load_congr
    (file : manifestFile other sourceRoot manifest = manifestFile files sourceRoot manifest)
    (text : other.readText (manifestFile files sourceRoot manifest) =
      files.readText (manifestFile files sourceRoot manifest)) :
    load other sourceRoot manifest = load files sourceRoot manifest := by
  unfold load
  dsimp only
  rw [file, text]

/-- The configured file is chosen if its path leads to anything. -/
theorem manifestFile_of_pathExists (found : files.pathExists (sourceRoot.join manifest) = true) :
    manifestFile files sourceRoot manifest = sourceRoot.join manifest := by
  apply manifestFile_of_not_fallsBack
  intro falls
  rw [falls.missing] at found
  cases found

/-- If the configured path leads to anything, nothing counts but what is read there. -/
theorem load_eq_of_readText_eq (found : files.pathExists (sourceRoot.join manifest) = true)
    (found' : other.pathExists (sourceRoot.join manifest) = true)
    (same : other.readText (sourceRoot.join manifest) =
      files.readText (sourceRoot.join manifest)) :
    load other sourceRoot manifest = load files sourceRoot manifest := by
  have chosen := manifestFile_of_pathExists found
  apply load_congr
  · rw [manifestFile_of_pathExists found', chosen]
  · rw [chosen, same]

end Toolchain

open Toolchain

/-- The configured file is read, unless its path leads nowhere and ends in `.toml` and there is a
regular file with its path without that ending: then that one is read. A toolchain comes of it
exactly if the file may be read and is text that is a manifest of the toolchain, and any failure
names that file. Nothing else in the tree counts. If the configured path leads somewhere, only what
is read there counts; and if it leads there without an entry at some place, such as that of the
older file, it makes no difference whether anything is at that place, or what. -/
theorem selection_of_manifest (files : FileSystem) (sourceRoot manifest : Path) :
    (FallsBack files sourceRoot manifest →
      manifestFile files sourceRoot manifest = (sourceRoot.join manifest).withoutExtension) ∧
    (¬ FallsBack files sourceRoot manifest →
      manifestFile files sourceRoot manifest = sourceRoot.join manifest) ∧
    (∀ toolchain, load files sourceRoot manifest = .ok toolchain ↔
      ∃ place mode text, files.resolve (manifestFile files sourceRoot manifest) = .ok place ∧
        files.lookup place = some (.file mode (Bytes.ofString text)) ∧
        files.access.mayRead place.raw mode = true ∧ parse text = .ok toolchain) ∧
    (∀ failure, load files sourceRoot manifest = .error failure →
      ∃ reason, failure =
        .toolchainManifest (manifestFile files sourceRoot manifest) reason) ∧
    (∀ other : FileSystem,
      manifestFile other sourceRoot manifest = manifestFile files sourceRoot manifest →
      other.readText (manifestFile files sourceRoot manifest) =
        files.readText (manifestFile files sourceRoot manifest) →
      load other sourceRoot manifest = load files sourceRoot manifest) ∧
    (∀ other : FileSystem, files.pathExists (sourceRoot.join manifest) = true →
      other.pathExists (sourceRoot.join manifest) = true →
      other.readText (sourceRoot.join manifest) = files.readText (sourceRoot.join manifest) →
      load other sourceRoot manifest = load files sourceRoot manifest) ∧
    ∀ place, (files.erase place).pathExists (sourceRoot.join manifest) = true →
      ∀ entry, load (files.put place entry) sourceRoot manifest =
        load (files.erase place) sourceRoot manifest := by
  refine ⟨manifestFile_of_fallsBack, manifestFile_of_not_fallsBack, fun _ => load_ok_iff,
    fun _ => load_error, fun _ => load_congr, fun _ => load_eq_of_readText_eq, ?_⟩
  intro place found entry
  have more := FileSystem.extends_put files place entry
  obtain ⟨held, leads⟩ := FileSystem.pathExists_iff.mp found
  apply load_eq_of_readText_eq found
  · exact FileSystem.pathExists_iff.mpr ⟨held, more.entryAt_ok leads⟩
  · rw [FileSystem.readText, FileSystem.readText, more.readBytes_eq leads]

namespace Sample

/-- Where the older manifest is in a source tree. -/
def olderManifest : Location := ["source", "codex-rs", "rust-toolchain"]

/-- A source tree with an entry for the newer manifest next to the older one. -/
def twice (newer : Entry) (older : String) : FileSystem where
  entries := [(olderManifest, .file 0o644 (Bytes.ofString older)),
    (["source"], .directory), (["source", "codex-rs"], .directory),
    (["source", "codex-rs", "rust-toolchain.toml"], newer)]
  workingDirectory := []

/-- A manifest in TOML. -/
def newer : Entry := .file 0o644 (Bytes.ofString "[toolchain]\nchannel = \"1.90.0\"\n")

end Sample

theorem selection_of_pinned_trees :
    load Sample.pinned ⟨"/source"⟩ ⟨"codex-rs/rust-toolchain.toml"⟩ = .ok (.ofChannel "1.90.0") ∧
    load ((Sample.twice Sample.newer "1.88.0").put Sample.olderManifest .directory) ⟨"/source"⟩
      ⟨"codex-rs/rust-toolchain.toml"⟩ = .ok (.ofChannel "1.90.0") := by
  constructor
  · have falls : FallsBack Sample.pinned ⟨"/source"⟩ ⟨"codex-rs/rust-toolchain.toml"⟩ :=
      ⟨by decide +kernel, by decide +kernel, by decide +kernel⟩
    have bare : (Path.join ⟨"/source"⟩ ⟨"codex-rs/rust-toolchain.toml"⟩).withoutExtension =
        ⟨"/source/codex-rs/rust-toolchain"⟩ := by decide +kernel
    have leads : Sample.pinned.resolve ⟨"/source/codex-rs/rust-toolchain"⟩ =
        .ok Sample.olderManifest := eq_ok_of_toOption (by decide +kernel)
    have parsed : parse "1.90.0\n" = .ok (.ofChannel "1.90.0") :=
      eq_ok_of_toOption (by decide +kernel)
    obtain ⟨older, -, loads, -⟩ :=
      selection_of_manifest Sample.pinned ⟨"/source"⟩ ⟨"codex-rs/rust-toolchain.toml"⟩
    refine (loads _).mpr
      ⟨Sample.olderManifest, 0o644, "1.90.0\n", ?_, by decide +kernel, rfl, parsed⟩
    rw [older falls, bare]
    exact leads
  · have found : ((Sample.twice Sample.newer "1.88.0").erase Sample.olderManifest).pathExists
        (Path.join ⟨"/source"⟩ ⟨"codex-rs/rust-toolchain.toml"⟩) = true := by decide +kernel
    obtain ⟨-, -, -, -, -, -, apart⟩ := selection_of_manifest (Sample.twice Sample.newer "1.88.0")
      ⟨"/source"⟩ ⟨"codex-rs/rust-toolchain.toml"⟩
    rw [apart Sample.olderManifest found .directory]
    exact eq_ok_of_toOption (by decide +kernel)

/-- A manifest that is a link to the older one exists, and says what the older one says. -/
theorem manifest_linked_to_older :
    (Sample.twice (.link "rust-toolchain") "1.90.0").pathExists
      (Path.join ⟨"/source"⟩ ⟨"codex-rs/rust-toolchain.toml"⟩) = true ∧
    (Sample.twice (.link "rust-toolchain") "1.91.0").pathExists
      (Path.join ⟨"/source"⟩ ⟨"codex-rs/rust-toolchain.toml"⟩) = true ∧
    Sample.twice (.link "rust-toolchain") "1.91.0" =
      (Sample.twice (.link "rust-toolchain") "1.90.0").put Sample.olderManifest
        (.file 0o644 (Bytes.ofString "1.91.0")) ∧
    load (Sample.twice (.link "rust-toolchain") "1.90.0") ⟨"/source"⟩
      ⟨"codex-rs/rust-toolchain.toml"⟩ = .ok (.ofChannel "1.90.0") ∧
    load (Sample.twice (.link "rust-toolchain") "1.91.0") ⟨"/source"⟩
      ⟨"codex-rs/rust-toolchain.toml"⟩ = .ok (.ofChannel "1.91.0") := by
  refine ⟨by decide +kernel, by decide +kernel, by decide +kernel, ?_, ?_⟩
  · exact eq_ok_of_toOption (by decide +kernel)
  · exact eq_ok_of_toOption (by decide +kernel)

end SealedBuild
