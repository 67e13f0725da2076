import SealedBuild.Proofs.Config.Problems
import SealedBuild.Proofs.Install.Transaction
import SealedBuild.Proofs.Path.Components
import SealedBuild.Proofs.Path.Location
import SealedBuild.Proofs.Scan.Occurrences
import SealedBuild.Toolchain.Load

/-!
# Paths that stay within their roots

The paths of a configuration that is valid are contained, so what they are joined to is not left by
the joined path, as it is written. This holds of the directory that is built in, of the manifest of
the toolchain, and of the place where the binary is installed.

The file that takes the place of a missing manifest has the path of the manifest without its
extension. That is within the source tree too, unless the manifest has no name of its own: then it
is the source root whose extension is taken off. The two dots that a name such as `...toml` leaves
do no harm, since no path to a regular file ends with them.

Main statement: `containment_of_paths`, for every valid configuration and all absolute roots.
-/

namespace SealedBuild

namespace FileSystem

variable {files : FileSystem} {path : Path} {name : String}

/-- An absolute path to a regular file ends with an ordinary name. -/
theorem not_isDots_of_isFile (absolute : path.isAbsolute = true) (file : files.isFile path = true)
    (last : path.steps.getLast? = some name) : ¬ IsDots name := by
  intro dots
  obtain ⟨mode, content, found⟩ := isFile_iff.mp file
  obtain ⟨-, place, walked, held⟩ := entryAt_ok_iff.mp found
  rw [startOf, if_pos absolute] at walked
  have inside := walked.isDirectoryAt_of_dots (rooted_nil files) last dots
  rw [isDirectoryAt_iff, held] at inside
  cases inside

end FileSystem

namespace Path

variable {files : FileSystem} {path : Path}

/-- The last step along a path is its last piece, unless that is empty. -/
theorem getLast?_steps {before : List (List Char)} {piece : List Char}
    (cut : path.pieces = before ++ [piece]) (written : piece ≠ []) :
    path.steps.getLast? = some (String.ofList piece) := by
  have open_ : path.pieces.getLast? ≠ some [] := by
    rw [cut, List.getLast?_concat]
    exact mt Option.some.inj written
  rw [steps, if_neg fun both => open_ both.2, cut, List.filter_append, List.map_append,
    List.filter_cons_of_pos (by simpa using written)]
  exact List.getLast?_concat

/-- If the path without its extension leads to a regular file, only the last name has changed. -/
theorem components_withoutExtension (absolute : path.isAbsolute = true) {ending : String}
    (extended : path.extension? = some ending)
    (file : files.isFile path.withoutExtension = true) :
    ∃ init name stem, path.components = init ++ [.name name] ∧
      path.withoutExtension.components = init ++ [.name stem] ∧ stem ≠ name := by
  obtain ⟨before, name, stem, trail_eq, written, name_eq, absolute', cut⟩ :=
    exists_withoutExtension absolute extended
  have last := getLast?_steps cut written
  have plain := FileSystem.not_isDots_of_isFile absolute' file last
  have busy : isIdle stem = false := by
    rw [← Bool.not_eq_true, isIdle, Bool.or_eq_true, beq_iff_eq, beq_iff_eq]
    rintro (rfl | rfl)
    · exact written rfl
    · exact plain (.inl rfl)
  have notDots : stem ≠ ['.', '.'] := by
    rintro rfl
    exact plain (.inr rfl)
  have stands : component? stem = some (.name (String.ofList stem)) :=
    component?_eq_name_iff.mpr ⟨String.toList_ofList.symm, busy, notDots⟩
  refine ⟨.root :: before.filterMap component?, name, String.ofList stem, ?_, ?_, ?_⟩
  · rw [components_of_isAbsolute absolute, trail_eq, List.cons_append]
  · rw [components_of_isAbsolute absolute', trail, cut, List.filterMap_append, List.filterMap_cons,
      List.filterMap_cons, stands]
    rfl
  · rintro rfl
    have longer := congrArg List.length name_eq
    simp at longer

/-- If the last name of a path that continues another one is changed, the path still continues it,
unless that was the last name of the other one. -/
theorem within_iff_of_last_changed {base : Path} {more init : List Component} {name stem : String}
    (named : ∀ c ∈ more, ∃ name, c = .name name)
    (before : base.components ++ more = init ++ [.name name])
    (after : path.components = init ++ [.name stem]) (changed : stem ≠ name) :
    path.Within base ↔ more ≠ [] := by
  rw [within_iff, after]
  rcases List.eq_nil_or_concat more with rfl | ⟨rest, last, rfl⟩
  · rw [List.append_nil] at before
    constructor
    · rintro ⟨others, continues, -⟩
      rw [before, List.append_assoc] at continues
      have same := (List.cons.inj (List.append_cancel_left continues)).1
      exact absurd (Component.name.inj same) changed
    · exact fun something => absurd rfl something
  · rw [List.concat_eq_append, ← List.append_assoc] at before
    obtain ⟨rfl, -⟩ := List.append_inj' before rfl
    rw [List.concat_eq_append, List.forall_mem_append] at named
    constructor
    · intro _
      simp
    · intro _
      refine ⟨rest ++ [.name stem], List.append_assoc .., ?_⟩
      rw [List.forall_mem_append]
      exact ⟨named.1, List.forall_mem_singleton.mpr ⟨stem, rfl⟩⟩

/-- The file that a manifest without its extension would be is within the source root if and only if
the manifest has a name. -/
theorem within_withoutExtension_iff {base relative : Path} (absolute : base.isAbsolute = true)
    (contained : relative.isContained = true) {ending : String}
    (extended : (base.join relative).extension? = some ending)
    (file : files.isFile (base.join relative).withoutExtension = true) :
    (base.join relative).withoutExtension.Within base ↔ relative.trail ≠ [] := by
  obtain ⟨init, name, stem, whole, bare, changed⟩ :=
    components_withoutExtension (join_isAbsolute absolute) extended file
  rw [components_join absolute (not_isAbsolute_of_isContained contained)] at whole
  exact within_iff_of_last_changed (forall_mem_trail_of_isContained contained) whole bare changed

end Path

/-- The paths of a valid configuration that have to be absolute or contained are so. -/
structure Config.WellPlaced (config : Config) : Prop where
  sourceMount : config.sandbox.sourceMount.isAbsolute = true
  buildSubdir : config.sandbox.buildSubdir.isContained = true
  manifest : config.toolchain.manifest.isContained = true
  destination : config.install.destination.isContained = true

theorem Config.wellPlaced_of_isValid {config : Config} (valid : config.validate.isValid = true) :
    config.WellPlaced := by
  simp only [isValid_iff_problems_eq_nil, problems, problemsIn, SandboxSettings.problems,
    List.append_eq_nil_iff, toList_problemIf_eq_nil_iff, Bool.not_eq_false'] at valid
  obtain ⟨⟨⟨⟨⟨⟨⟨⟨⟨⟨⟨-, -⟩, sourceMount⟩, -⟩, -⟩, buildSubdir⟩, -⟩, manifest⟩, -⟩, -⟩, destination⟩,
    -⟩ := valid
  exact ⟨sourceMount, buildSubdir, manifest, destination⟩

namespace Toolchain

variable {files : FileSystem} {sourceRoot manifest : Path}

/-- A manifest in TOML is missing, and there is a regular file with its path without the
extension. -/
structure FallsBack (files : FileSystem) (sourceRoot manifest : Path) : Prop where
  missing : files.pathExists (sourceRoot.join manifest) = false
  extended : (sourceRoot.join manifest).extension? = some "toml"
  file : files.isFile (sourceRoot.join manifest).withoutExtension = true

theorem manifestFile_of_fallsBack (falls : FallsBack files sourceRoot manifest) :
    manifestFile files sourceRoot manifest = (sourceRoot.join manifest).withoutExtension := by
  obtain ⟨missing, extended, file⟩ := falls
  exact if_pos ⟨by simp [missing], extended, file⟩

theorem manifestFile_of_not_fallsBack (stays : ¬ FallsBack files sourceRoot manifest) :
    manifestFile files sourceRoot manifest = sourceRoot.join manifest := by
  apply if_neg
  rintro ⟨missing, extended, file⟩
  exact stays ⟨by simpa using missing, extended, file⟩

end Toolchain

/-- The paths that a valid configuration leads to lie within the paths that they start from,
whatever absolute paths the roots are. So does the file that the toolchain is read from, unless it
is taken in place of a missing manifest that has no name of its own. -/
theorem containment_of_paths {config : Config} (valid : config.validate.isValid = true)
    {sourceRoot targetRoot : Path} (source : sourceRoot.isAbsolute = true)
    (target : targetRoot.isAbsolute = true) :
    config.buildDirectory.Within config.sandbox.sourceMount ∧
    (sourceRoot.join config.toolchain.manifest).Within sourceRoot ∧
    (config.artifactDestination targetRoot).Within targetRoot ∧
    ∀ files, (Toolchain.manifestFile files sourceRoot config.toolchain.manifest).Within sourceRoot ↔
      (Toolchain.FallsBack files sourceRoot config.toolchain.manifest →
        ∃ name, .name name ∈ config.toolchain.manifest.components) := by
  obtain ⟨sourceMount, buildSubdir, manifest, destination⟩ := Config.wellPlaced_of_isValid valid
  have plain := Path.within_join source manifest
  refine ⟨Path.within_join sourceMount buildSubdir, plain, Path.within_join target destination, ?_⟩
  intro files
  rw [Path.exists_name_iff manifest]
  by_cases falls : Toolchain.FallsBack files sourceRoot config.toolchain.manifest
  · rw [Toolchain.manifestFile_of_fallsBack falls,
      Path.within_withoutExtension_iff source manifest falls.extended falls.file]
    exact ⟨fun something _ => something, fun something => something falls⟩
  · rw [Toolchain.manifestFile_of_not_fallsBack falls]
    exact ⟨fun _ falls' => absurd falls' falls, fun _ => plain⟩

namespace Sample

/-- A source tree that pins a toolchain in the older form, next to where the newer one is looked
for. -/
def pinned : FileSystem where
  entries := [(["source"], .directory), (["source", "codex-rs"], .directory),
    (["source", "codex-rs", "rust-toolchain"], .file 0o644 (Bytes.ofString "1.90.0\n"))]
  workingDirectory := []

end Sample

theorem containment_of_pinned_tree :
    Toolchain.manifestFile Sample.pinned ⟨"/source"⟩ ({} : Config).toolchain.manifest =
      ⟨"/source/codex-rs/rust-toolchain"⟩ ∧
    Path.Within ⟨"/source/codex-rs/rust-toolchain"⟩ ⟨"/source"⟩ := by
  have file : Toolchain.manifestFile Sample.pinned ⟨"/source"⟩ ({} : Config).toolchain.manifest =
      ⟨"/source/codex-rs/rust-toolchain"⟩ := by decide +kernel
  have valid : ({} : Config).validate.isValid = true := by decide +kernel
  have source : Path.isAbsolute ⟨"/source"⟩ = true := by decide
  have target : Path.isAbsolute ⟨"/target"⟩ = true := by decide
  obtain ⟨-, -, -, reads⟩ := containment_of_paths valid source target
  rw [← file]
  exact ⟨rfl, (reads Sample.pinned).mpr fun _ => ⟨"codex-rs", by decide⟩⟩

/-! ### A manifest of dots

A manifest may consist of dots only. It is missing if its path is too long for the system, and what
is looked for in its place is a file next to the source tree. -/

namespace Path

open Text

/-- Names without a slash are the pieces of the path along them. -/
theorem pieces_pathOf {names : List String} (whole : ∀ name ∈ names, '/' ∉ name.toList)
    (written : names ≠ []) : (pathOf names).pieces = names.map String.toList :=
  pieces_intercalate whole written

/-- A path that starts with a dot and goes along nothing is contained. -/
theorem isContained_of_idle {path : Path} (dot : path.startsAtDot = true) (idle : path.trail = []) :
    path.isContained = true := by
  have open_ : path.isAbsolute = false := by
    rw [← Bool.not_eq_true]
    intro absolute
    rw [startsAtDot, pieces_of_isAbsolute absolute] at dot
    cases dot
  have written : path.text ≠ "" := by
    intro empty
    rw [startsAtDot, pieces, empty] at dot
    cases dot
  have components_eq : path.components = [.current] := by
    rw [components_eq, idle, anchor, open_, dot]
    rfl
  rw [isContained, components_eq, bne_iff_ne.mpr written]
  rfl

end Path

namespace Sample

/-- A directory, and next to it a file that has its name without the extension. -/
def shadowed : FileSystem where
  entries := [(["src"], .file 0o644 (Bytes.ofString "1.90.0\n")), (["src.toml"], .directory)]
  workingDirectory := []

/-- A path of dots. -/
def dots (count : Nat) : Path := pathOf (List.replicate (count + 1) ".")

variable {count : Nat}

theorem pieces_dots : (dots count).pieces = List.replicate (count + 1) ['.'] := by
  rw [dots, Path.pieces_pathOf _ (by simp), List.map_replicate]
  · rfl
  · intro name held
    rw [List.eq_of_mem_replicate held]
    decide

theorem trail_dots : (dots count).trail = [] := by
  rw [Path.trail, List.filterMap_eq_nil_iff]
  intro piece held
  rw [pieces_dots] at held
  rw [List.eq_of_mem_replicate held]
  rfl

theorem isContained_dots : (dots count).isContained = true := by
  apply Path.isContained_of_idle _ trail_dots
  rw [Path.startsAtDot, pieces_dots]
  rfl

/-- No path that ends with too many dots leads to anything. -/
theorem pathExists_join_dots (files : FileSystem) (base : Path)
    (long : FileSystem.pathBytesLimit ≤ count) :
    files.pathExists (base.join (dots count)) = false := by
  rw [← Bool.not_eq_true]
  intro found
  have wellFormed : FileSystem.malformed? (base.join (dots count)) = none := by
    unfold FileSystem.pathExists at found
    split at found
    next entry found' => exact (FileSystem.entryAt_ok_iff.mp found').1
    next => cases found
  apply Nat.not_le_of_lt (FileSystem.malformed?_eq_none_iff.mp wellFormed).short
  calc
    FileSystem.pathBytesLimit ≤ count := long
    _ = count * ".".utf8ByteSize := (Nat.mul_one count).symm
    _ ≤ (dots count).text.utf8ByteSize := by
      rw [dots, pathOf, List.replicate_succ']
      exact le_utf8ByteSize_intercalate_replicate "/" "." "." count
    _ ≤ (base.join (dots count)).text.utf8ByteSize := le_utf8ByteSize_join base (dots count)

/-- The built-in configuration with a manifest of dots. -/
def dotted (count : Nat) : Config := { toolchain := { manifest := dots count } }

theorem dotted_isValid : (dotted count).validate.isValid = true := by
  have problems_eq : (dotted count).problems = ({} : Config).problems := by
    have contained : (dotted count).toolchain.manifest.isContained = true := isContained_dots
    have contained' : ({} : Config).toolchain.manifest.isContained = true := by decide
    rw [Config.problems, Config.problems, Config.problemsIn, Config.problemsIn, contained,
      contained']
    rfl
  have none_left : ({} : Config).problems = [] := by decide +kernel
  rw [Config.isValid_iff_problems_eq_nil, problems_eq, none_left]

theorem isAbsolute_shadowed : Path.isAbsolute ⟨"/src.toml"⟩ = true := by decide

theorem withoutExtension_join_dots (count : Nat) :
    (Path.join ⟨"/src.toml"⟩ (dots count)).extension? = some "toml" ∧
      (Path.join ⟨"/src.toml"⟩ (dots count)).withoutExtension = ⟨"/src"⟩ := by
  have open_ : (dots count).isAbsolute = false :=
    Path.not_isAbsolute_of_isContained isContained_dots
  have extended : Path.extension? ⟨"/src.toml"⟩ = some "toml" := by decide
  have bare : Path.withoutExtension ⟨"/src.toml"⟩ = ⟨"/src"⟩ := by decide
  rw [← bare]
  exact Path.withoutExtension_join isAbsolute_shadowed open_ trail_dots extended

theorem fallsBack_dots (long : FileSystem.pathBytesLimit ≤ count) :
    Toolchain.FallsBack shadowed ⟨"/src.toml"⟩ (dots count) := by
  obtain ⟨extended, bare⟩ := withoutExtension_join_dots count
  refine ⟨pathExists_join_dots shadowed _ long, extended, ?_⟩
  rw [bare]
  decide

theorem manifestFile_dots (long : FileSystem.pathBytesLimit ≤ count) :
    Toolchain.manifestFile shadowed ⟨"/src.toml"⟩ (dots count) = ⟨"/src"⟩ := by
  rw [Toolchain.manifestFile_of_fallsBack (fallsBack_dots long)]
  exact (withoutExtension_join_dots count).2

/-- A toolchain that is pinned next to the source tree is loaded for a manifest of too many dots. -/
theorem load_dots (long : FileSystem.pathBytesLimit ≤ count) :
    Toolchain.load shadowed ⟨"/src.toml"⟩ (dots count) = .ok (.ofChannel "1.90.0") := by
  have read : shadowed.readText ⟨"/src"⟩ = .ok "1.90.0\n" := by rfl
  have parsed : Toolchain.parse "1.90.0\n" = .ok (.ofChannel "1.90.0") := by rfl
  unfold Toolchain.load
  simp only [manifestFile_dots long, read, parsed]

theorem not_within_shadowed : ¬ Path.Within ⟨"/src"⟩ ⟨"/src.toml"⟩ := by
  rintro ⟨names, -, continues⟩
  have bare : Path.components ⟨"/src"⟩ = [.root, .name "src"] := by decide
  have whole : Path.components ⟨"/src.toml"⟩ = [.root, .name "src.toml"] := by decide
  rw [bare, whole, List.cons_append, List.cons_append] at continues
  exact absurd (List.cons.inj (List.cons.inj continues).2).1 (by decide)

end Sample

/-- The file in place of a manifest of dots is next to the source root, although that is a directory
which exists. -/
theorem manifest_next_to_source :
    (Sample.dotted FileSystem.pathBytesLimit).validate.isValid = true ∧
    Path.isAbsolute ⟨"/src.toml"⟩ = true ∧ Sample.shadowed.isDirectory ⟨"/src.toml"⟩ = true ∧
    Toolchain.FallsBack Sample.shadowed ⟨"/src.toml"⟩
      (Sample.dotted FileSystem.pathBytesLimit).toolchain.manifest ∧
    Toolchain.manifestFile Sample.shadowed ⟨"/src.toml"⟩
      (Sample.dotted FileSystem.pathBytesLimit).toolchain.manifest = ⟨"/src"⟩ ∧
    Toolchain.load Sample.shadowed ⟨"/src.toml"⟩
      (Sample.dotted FileSystem.pathBytesLimit).toolchain.manifest = .ok (.ofChannel "1.90.0") ∧
    ¬ Path.Within ⟨"/src"⟩ ⟨"/src.toml"⟩ := by
  have long := Nat.le_refl FileSystem.pathBytesLimit
  refine ⟨Sample.dotted_isValid, Sample.isAbsolute_shadowed, ?_, Sample.fallsBack_dots long,
    Sample.manifestFile_dots long, Sample.load_dots long, Sample.not_within_shadowed⟩
  decide

end SealedBuild
