import SealedBuild.Proofs.Path.Containment
import SealedBuild.Proofs.Path.Parent

/-!
# Where a binary comes from and where it goes

The binary that is installed should come from the directory in which the build leaves it, and it
should go below the target root, with its copy being made there too. Validation looks at the name of
the binary for blanks only, so the binary comes from elsewhere if its name is absolute, goes up, or
consists of dots. It also lets a destination through that consists of dots; the copy is then made
next to the target root, and the install is refused afterwards.

Main statements: `origin_of_artifact` and `destination_of_artifact`, which say for every valid
configuration exactly when the binary comes from where it should and goes to where it should.
-/

namespace SealedBuild

namespace Path

open Text

variable {path middle base other : Path}

theorem Within.trans (first : path.Within middle) (second : middle.Within base) :
    path.Within base := by
  rw [within_iff] at first second ⊢
  obtain ⟨more, continues, named⟩ := first
  obtain ⟨others, continues', named'⟩ := second
  refine ⟨others ++ more, ?_, List.forall_mem_append.mpr ⟨named', named⟩⟩
  rw [continues, continues', List.append_assoc]

/-- A path that lies within two others of one length is continued from the same components. -/
theorem Within.components_eq_of_length (first : path.Within base) (second : path.Within other)
    (lengths : base.components.length = other.components.length) :
    base.components = other.components := by
  obtain ⟨names, -, continues⟩ := first
  obtain ⟨names', -, continues'⟩ := second
  exact (List.append_inj (continues.symm.trans continues') lengths).1

/-- A relative path that is not empty starts with a piece that is not empty. -/
theorem exists_written_piece (written : path.text ≠ "") (open_ : path.isAbsolute = false) :
    ∃ piece ∈ path.pieces, piece ≠ [] := by
  rw [← Bool.not_eq_true, isAbsolute_iff] at open_
  cases text_eq : path.text.toList with
  | nil => exact absurd (String.toList_eq_nil_iff.mp text_eq) written
  | cons c rest =>
      have inside : c ≠ '/' := by
        rintro rfl
        exact open_ ⟨rest, text_eq⟩
      rw [pieces, text_eq, cutAt, if_neg inside]
      cases cutAt '/' rest with
      | nil => exact ⟨[c], by simp [consPiece]⟩
      | cons piece more => exact ⟨c :: piece, by simp [consPiece]⟩

/-- The last piece of a contained path without a name is a dot. -/
theorem getLast?_pieces_of_idle (contained : path.isContained = true) (idle : path.trail = []) :
    (path.pieces.filter (· ≠ [])).getLast? = some ['.'] := by
  have dots : ∀ piece ∈ path.pieces.filter (· ≠ []), piece = ['.'] := by
    intro piece held
    obtain ⟨cut, busy⟩ := List.mem_filter.mp held
    have stands := component?_eq_none_iff.mp (List.filterMap_eq_nil_iff.mp idle piece cut)
    simpa [isIdle, of_decide_eq_true busy] using stands
  have written : path.text ≠ "" := bne_iff_ne.mp (Bool.and_eq_true_iff.mp contained).1
  have open_ := not_isAbsolute_of_isContained contained
  obtain ⟨piece, cut, busy⟩ := exists_written_piece written open_
  have some_left : path.pieces.filter (· ≠ []) ≠ [] :=
    List.ne_nil_of_mem (List.mem_filter.mpr ⟨cut, by simpa using busy⟩)
  rw [List.getLast?_eq_some_getLast some_left, dots _ (List.getLast_mem some_left)]

/-- The way along a contained path without a name ends in a dot. -/
theorem directoryAndName_join_of_idle (absolute : base.isAbsolute = true)
    (contained : path.isContained = true) (idle : path.trail = []) :
    ∃ names, FileSystem.directoryAndName (base.join path) = some (names, ".") := by
  have open_ := not_isAbsolute_of_isContained contained
  obtain ⟨front, joined, -⟩ := text_join_toList absolute open_
  have pieces_eq : (base.join path).pieces = cutAt '/' front ++ path.pieces := by
    rw [pieces, joined, cutAt_append_cons]
    rfl
  have ends : (((base.join path).pieces.filter (· ≠ [])).map String.ofList).getLast? =
      some "." := by
    rw [List.getLast?_map, pieces_eq, List.filter_append, List.getLast?_append,
      getLast?_pieces_of_idle contained idle]
    rfl
  exact ⟨_, by rw [FileSystem.directoryAndName, ends, Option.map_some]⟩

end Path

/-! ### The origin of a binary -/

namespace Config

variable {config : Config} {sourceRoot : Path}

/-- The directory in which a build leaves its binary, as seen from outside of the sandbox. -/
def outputDirectory (config : Config) (sourceRoot : Path) : Path :=
  ((sourceRoot.join config.sandbox.buildSubdir).join ⟨"target"⟩).join ⟨"release"⟩

/-- The name of the binary, taken as a path. -/
def binaryPath (config : Config) : Path := ⟨config.build.binary⟩

theorem artifactSource_eq (config : Config) (sourceRoot : Path) :
    config.artifactSource sourceRoot =
      (config.outputDirectory sourceRoot).join config.binaryPath := rfl

theorem outputDirectory_isAbsolute (absolute : sourceRoot.isAbsolute = true) :
    (config.outputDirectory sourceRoot).isAbsolute = true :=
  Path.join_isAbsolute (Path.join_isAbsolute (Path.join_isAbsolute absolute))

theorem components_outputDirectory (contained : config.sandbox.buildSubdir.isContained = true)
    (absolute : sourceRoot.isAbsolute = true) :
    (config.outputDirectory sourceRoot).components =
      sourceRoot.components ++ config.sandbox.buildSubdir.trail ++
        [.name "target", .name "release"] := by
  have open_ := Path.not_isAbsolute_of_isContained contained
  have target : Path.trail ⟨"target"⟩ = [.name "target"] := by decide
  have release : Path.trail ⟨"release"⟩ = [.name "release"] := by decide
  rw [outputDirectory,
    Path.components_join (Path.join_isAbsolute (Path.join_isAbsolute absolute)) rfl,
    Path.components_join (Path.join_isAbsolute absolute) rfl, Path.components_join absolute open_,
    target, release, List.append_assoc]
  rfl

theorem outputDirectory_within (contained : config.sandbox.buildSubdir.isContained = true)
    (absolute : sourceRoot.isAbsolute = true) :
    (config.outputDirectory sourceRoot).Within sourceRoot := by
  refine Path.within_iff.mpr ⟨config.sandbox.buildSubdir.trail ++ [.name "target", .name "release"],
    ?_, List.forall_mem_append.mpr ⟨Path.forall_mem_trail_of_isContained contained, ?_⟩⟩
  · rw [components_outputDirectory contained absolute, List.append_assoc]
  · simp

/-- An absolute binary is taken as it is, whatever the source root is. -/
theorem artifactSource_of_isAbsolute (rooted : config.binaryPath.isAbsolute = true) :
    config.artifactSource sourceRoot = config.binaryPath := by
  rw [artifactSource_eq, Path.join, if_pos rooted]

/-- A binary whose name is relative comes from below the output directory if and only if its name
descends. -/
theorem artifactSource_below_iff (absolute : sourceRoot.isAbsolute = true)
    (open_ : config.binaryPath.isAbsolute = false) :
    (config.artifactSource sourceRoot).Below (config.outputDirectory sourceRoot) ↔
      config.binaryPath.Descends :=
  Path.below_join_iff (outputDirectory_isAbsolute absolute) open_

/-- No absolute binary is in the output directories of two source trees. -/
theorem not_below_of_isAbsolute (contained : config.sandbox.buildSubdir.isContained = true)
    (rooted : config.binaryPath.isAbsolute = true) :
    ¬ ∀ sourceRoot : Path, sourceRoot.isAbsolute = true →
      (config.artifactSource sourceRoot).Below (config.outputDirectory sourceRoot) := by
  intro everywhere
  have inside (sourceRoot : Path) (absolute : sourceRoot.isAbsolute = true) :
      config.binaryPath.Within sourceRoot := by
    have taken : config.artifactSource sourceRoot = config.binaryPath :=
      artifactSource_of_isAbsolute rooted
    rw [← taken]
    exact (everywhere sourceRoot absolute).within.trans (outputDirectory_within contained absolute)
  have same := (inside ⟨"/source"⟩ rfl).components_eq_of_length (inside ⟨"/other"⟩ rfl) (by decide)
  exact absurd same (by decide)

end Config

/-- The binary of a valid configuration comes from below the directory in which the build leaves it,
whatever the source root is, if and only if its name descends. An absolute name is not looked up
there at all, and any other one leads below it exactly if it descends. -/
theorem origin_of_artifact {config : Config} (valid : config.validate.isValid = true) :
    ((∀ sourceRoot : Path, sourceRoot.isAbsolute = true →
        (config.artifactSource sourceRoot).Below (config.outputDirectory sourceRoot)) ↔
      Path.Descends ⟨config.build.binary⟩) ∧
    ∀ sourceRoot : Path, sourceRoot.isAbsolute = true →
      (config.outputDirectory sourceRoot).Within sourceRoot ∧
      (Path.isAbsolute ⟨config.build.binary⟩ = true →
        config.artifactSource sourceRoot = ⟨config.build.binary⟩) ∧
      (Path.isAbsolute ⟨config.build.binary⟩ = false →
        ((config.artifactSource sourceRoot).Below (config.outputDirectory sourceRoot) ↔
          Path.Descends ⟨config.build.binary⟩)) := by
  obtain ⟨-, contained, -, -⟩ := Config.wellPlaced_of_isValid valid
  constructor
  · constructor
    · intro everywhere
      cases rooted : config.binaryPath.isAbsolute with
      | true => exact absurd everywhere (Config.not_below_of_isAbsolute contained rooted)
      | false => exact (Config.artifactSource_below_iff rfl rooted).mp (everywhere ⟨"/"⟩ rfl)
    · intro descends sourceRoot absolute
      have open_ := Path.not_isAbsolute_of_isContained descends.contained
      exact (Config.artifactSource_below_iff absolute open_).mpr descends
  · intro sourceRoot absolute
    exact ⟨Config.outputDirectory_within contained absolute, Config.artifactSource_of_isAbsolute,
      Config.artifactSource_below_iff absolute⟩

namespace Sample

/-- A configuration whose binary is in a directory of its own. -/
def nestedBinary : Config := { build := { binary := "./tools/codex" } }

end Sample

theorem origin_of_nested_binary :
    Sample.nestedBinary.validate.isValid = true ∧
    (Sample.nestedBinary.artifactSource ⟨"/source"⟩).Below
      (Sample.nestedBinary.outputDirectory ⟨"/source"⟩) := by
  have valid : Sample.nestedBinary.validate.isValid = true := by decide +kernel
  have descends : Path.Descends ⟨Sample.nestedBinary.build.binary⟩ :=
    ⟨by decide, "tools", by decide⟩
  exact ⟨valid, (origin_of_artifact valid).1.mpr descends ⟨"/source"⟩ rfl⟩

namespace Sample

/-- A configuration whose binary is looked up outside of the source tree. -/
def climbing : Config where
  build := { binary := "../../../../secret" }
  install := { destination := ⟨"codex"⟩ }

/-- A source tree that has been built, a target tree, and a file that belongs to neither. -/
def neighbours : FileSystem where
  entries := [(["source"], .directory), (["source", "codex-rs"], .directory),
    (["source", "codex-rs", "target"], .directory),
    (["source", "codex-rs", "target", "release"], .directory),
    (["source", "codex-rs", "target", "release", "codex"], .file 0o755 (Bytes.ofString "codex\n")),
    (["target"], .directory), (["secret"], .file 0o600 (Bytes.ofString "secret\n"))]
  workingDirectory := []

end Sample

/-- A valid configuration may have a file installed that no build has left: here one that is in
neither tree. -/
theorem artifact_from_elsewhere :
    Sample.climbing.validate.isValid = true ∧ Path.isAbsolute ⟨"/source"⟩ = true ∧
    Sample.climbing.artifactSource ⟨"/source"⟩ =
      ⟨"/source/codex-rs/target/release/../../../../secret"⟩ ∧
    ¬ (Sample.climbing.artifactSource ⟨"/source"⟩).Below
      (Sample.climbing.outputDirectory ⟨"/source"⟩) ∧
    (installArtifact Sample.neighbours (Sample.climbing.artifactSource ⟨"/source"⟩)
      (Sample.climbing.artifactDestination ⟨"/target"⟩)).2.lookup ["target", "codex"] =
        some (.file 0o755 (Bytes.ofString "secret\n")) := by
  refine ⟨by decide +kernel, rfl, by decide, ?_, by decide +kernel⟩
  rw [Config.artifactSource_below_iff rfl (by decide)]
  rintro ⟨contained, -⟩
  exact absurd contained (by decide)

/-! ### The destination of a binary -/

/-- The destination of a valid configuration lies below the target root, and its directory, in which
the copy is made, lies within the target root, if and only if the configured destination has a name.
Otherwise the destination is the target root itself, the copy is made next to it, and every install
is refused and leaves no file behind. -/
theorem destination_of_artifact {config : Config} (valid : config.validate.isValid = true)
    {targetRoot : Path} (absolute : targetRoot.isAbsolute = true) :
    ((config.artifactDestination targetRoot).Below targetRoot ↔
      ∃ name, .name name ∈ config.install.destination.components) ∧
    ((∃ directory, (config.artifactDestination targetRoot).parent? = some directory ∧
        directory.Within targetRoot) ↔
      ∃ name, .name name ∈ config.install.destination.components) ∧
    ((¬ ∃ name, .name name ∈ config.install.destination.components) →
      (config.artifactDestination targetRoot).components = targetRoot.components ∧
      ∀ directory, (config.artifactDestination targetRoot).parent? = some directory →
        ∃ last, targetRoot.components = directory.components ++ [last]) ∧
    ((¬ ∃ name, .name name ∈ config.install.destination.components) →
      ∀ (files : FileSystem) (source : Path), ∃ failure,
        installArtifact files source (config.artifactDestination targetRoot) =
          (.error failure, files)) := by
  obtain ⟨-, -, -, contained⟩ := Config.wellPlaced_of_isValid valid
  have open_ := Path.not_isAbsolute_of_isContained contained
  rw [Path.exists_name_iff contained, Classical.not_not]
  refine ⟨?_, ?_, Path.parent?_join_of_idle absolute open_, fun idle files source => ?_⟩
  · rw [Config.artifactDestination, Path.below_join_iff absolute open_,
      ← Path.exists_name_iff contained]
    exact ⟨Path.Descends.named, fun named => ⟨contained, named⟩⟩
  · rw [← Path.exists_name_iff contained]
    exact Path.exists_parent?_join_iff absolute contained
  · obtain ⟨names, split⟩ := Path.directoryAndName_join_of_idle absolute contained idle
    have unfit : Unfit files source (config.artifactDestination targetRoot) :=
      .onDots split (.inl rfl)
    exact installArtifact_of_not_installable unfit.not_installable

namespace Sample

/-- A configuration that installs into the target root itself. -/
def shallow : Config := { install := { destination := ⟨"./codex"⟩ } }

end Sample

theorem destination_of_shallow_install :
    Sample.shallow.validate.isValid = true ∧
    Sample.neighbours.canonical ⟨"/target"⟩ = .ok ⟨"/target"⟩ ∧
    (Sample.shallow.artifactDestination ⟨"/target"⟩).Below ⟨"/target"⟩ ∧
    ∃ directory, (Sample.shallow.artifactDestination ⟨"/target"⟩).parent? = some directory ∧
      directory.Within ⟨"/target"⟩ := by
  have valid : Sample.shallow.validate.isValid = true := by decide +kernel
  have named : ∃ name, .name name ∈ Sample.shallow.install.destination.components :=
    ⟨"codex", by decide⟩
  have rooted : Path.isAbsolute ⟨"/target"⟩ = true := rfl
  obtain ⟨below, staged, -⟩ := destination_of_artifact valid rooted
  exact ⟨valid, rfl, below.mpr named, staged.mpr named⟩

namespace Sample

/-- A configuration whose destination is a dot. -/
def unnamed : Config := { install := { destination := ⟨"."⟩ } }

end Sample

/-- For a destination without a name, the copy is made next to the target root. -/
theorem copy_next_to_target :
    Sample.unnamed.validate.isValid = true ∧
    Sample.neighbours.canonical ⟨"/target"⟩ = .ok ⟨"/target"⟩ ∧
    ¬ (Sample.unnamed.artifactDestination ⟨"/target"⟩).Below ⟨"/target"⟩ ∧
    (Sample.unnamed.artifactDestination ⟨"/target"⟩).parent? = some ⟨"/"⟩ ∧
    ¬ Path.Within ⟨"/"⟩ ⟨"/target"⟩ ∧
    (Sample.neighbours.stageCopy (Sample.unnamed.artifactSource ⟨"/source"⟩) ⟨"/"⟩).2.lookup
      [".codex-install-165535"] = some (.file 0o755 (Bytes.ofString "codex\n")) := by
  have contained : Sample.unnamed.install.destination.isContained = true := by decide
  have unnamed : ¬ ∃ name, .name name ∈ Sample.unnamed.install.destination.components := by
    rw [Path.exists_name_iff contained]
    decide
  refine ⟨by decide +kernel, rfl, ?_, by decide, ?_, by decide +kernel⟩
  · rintro below
    exact unnamed ((Path.below_join_iff rfl rfl).mp below).named
  · intro within
    exact unnamed ((Path.exists_parent?_join_iff rfl contained).mp ⟨_, rfl, within⟩)

end SealedBuild
