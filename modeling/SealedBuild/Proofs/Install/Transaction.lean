import SealedBuild.Install
import SealedBuild.Proofs.FileSystem.Change

/-!
# Installs are transactions

An install makes a copy under a free name, and either renames it or removes it. Until the rename it
may fail at every step, be it for want of something that it needs or because the system lets the
step fail. A removed copy leaves no trace, since nothing was under its name before; a renamed one
leaves exactly the entry at the destination.

Main statements: `installArtifact_cases`, the two outcomes of an install, and
`transaction_of_install`, which says which of the two it is and what has changed after it.
-/

namespace SealedBuild

open FileSystem

variable {files after : FileSystem} {source destination directory : Path} {copy : StagedCopy}

namespace FileSystem

/-! ### Copies -/

/-- A copy can be made: its path names the place of its file, and nothing is there. -/
abbrev Stages (files : FileSystem) (copy : StagedCopy) : Prop := Fresh files copy.path copy.place

theorem faultAt?_eq_none (flawless : files.fault? = none) (step : CopyStep) :
    files.faultAt? step = none := by
  rw [faultAt?, flawless]
  rfl

/-- If no step fails, there is no fault. -/
theorem fault?_eq_none (flawless : ∀ step, files.faultAt? step = none) : files.fault? = none := by
  cases fault : files.fault? with
  | none => rfl
  | some flaw =>
      have fails := flawless flaw.step
      simp [faultAt?, fault] at fails

/-- A step that succeeds is not the one that fails. -/
theorem attempt_ok_iff {α : Type} {step : CopyStep} {outcome : Except OsError α} {value : α} :
    files.attempt step outcome = .ok value ↔ files.faultAt? step = none ∧ outcome = .ok value := by
  unfold attempt
  cases files.faultAt? step <;> simp

/-- A copy that has been created is a new empty file under a path of its own. -/
theorem stages_of_createCopy {attempts : Nat} {created : FileSystem}
    (made : files.createCopy directory attempts = .ok (copy, created)) :
    files.faultAt? .create = none ∧ Stages files copy ∧
      created = files.put copy.place (.file stagingMode []) ∧
      ∃ number, copy.path = files.pathWithin directory (stagingName number) := by
  induction attempts with
  | zero => simp [createCopy] at made
  | succ attempts ih =>
      rw [createCopy] at made
      split at made
      next place created' succeeded =>
        obtain ⟨flawless, new⟩ := attempt_ok_iff.mp succeeded
        obtain ⟨fresh, rfl⟩ := createFile_ok_iff.mp new
        obtain ⟨rfl, rfl⟩ : _ = copy ∧ _ = created := by simpa using made
        exact ⟨flawless, fresh, rfl, attempts, rfl⟩
      next => exact ih made
      next => cases made

theorem faultAt?_put (place : Location) (entry : Entry) (step : CopyStep) :
    (files.put place entry).faultAt? step = files.faultAt? step := rfl

/-- If the original can be read and no step fails, the copy becomes a complete executable one. -/
theorem completeCopy_of_flawless {mode : Nat} {content : Bytes}
    (original : files.entryAt source = .ok (.file mode content)) (stages : Stages files copy)
    (read : files.readBytes source = .ok content) (flawless : files.fault? = none) :
    (files.put copy.place (.file stagingMode [])).completeCopy source copy =
      (none, files.put copy.place (.file artifactMode content)) := by
  have kept := ((stages.extends_put stagingMode []).readBytes_eq original).trans read
  simp only [completeCopy, attempt, faultAt?_put, faultAt?_eq_none flawless, kept,
    stages.append_put, stages.setMode_put, List.nil_append]

/-- Wherever the completion of a copy stops, there is one regular file more than before. If it does
not stop, that file is a complete executable copy. -/
theorem completeCopy_cases {mode : Nat} {content : Bytes}
    (original : files.entryAt source = .ok (.file mode content)) (stages : Stages files copy) :
    (∃ error mode' written,
      (files.put copy.place (.file stagingMode [])).completeCopy source copy =
        (some error, files.put copy.place (.file mode' written))) ∨
    (files.readBytes source = .ok content ∧
      (∀ step, files.faultAt? step = none ∨ step = .create ∨ step = .rename) ∧
      (files.put copy.place (.file stagingMode [])).completeCopy source copy =
        (none, files.put copy.place (.file artifactMode content))) := by
  have kept := (stages.extends_put stagingMode []).readBytes_eq original
  rw [completeCopy, attempt, faultAt?_put, kept]
  cases opening : files.faultAt? .openSource with
  | some fault => exact Or.inl ⟨_, _, _, rfl⟩
  | none =>
  rcases readBytes_of_entryAt original with read | refused
  · rw [read]
    simp only [faultAt?_put, stages.append_put, stages.setMode_put, attempt, List.nil_append]
    cases copying : files.faultAt? .copy with
    | some fault => exact Or.inl ⟨_, _, _, rfl⟩
    | none =>
    cases syncing : files.faultAt? .sync with
    | some fault => exact Or.inl ⟨_, _, _, rfl⟩
    | none =>
    cases setting : files.faultAt? .setMode with
    | some fault => exact Or.inl ⟨_, _, _, rfl⟩
    | none =>
        refine Or.inr ⟨trivial, fun step => ?_, rfl⟩
        cases step <;> simp [opening, copying, syncing, setting]
  · rw [refused]
    exact Or.inl ⟨_, _, _, rfl⟩

/-- A copy that is removed leaves no trace. -/
theorem discard_put (stages : Stages files copy) (mode : Nat) (content : Bytes) :
    (files.put copy.place (.file mode content)).discard copy = files := by
  rw [discard, stages.unlink_put]

theorem isFile_iff {path : Path} : files.isFile path = true ↔
    ∃ mode content, files.entryAt path = .ok (.file mode content) := by
  unfold isFile
  split
  · rename_i mode content found
    exact ⟨fun _ => ⟨mode, content, found⟩, fun _ => rfl⟩
  · rename_i other
    exact ⟨fun h => by simp at h, fun ⟨mode, content, found⟩ => absurd found (other mode content)⟩

end FileSystem

/-- The location of the entry that a path names, if the directory that it lies in can be found. -/
def FileSystem.entryNamed? (files : FileSystem) (path : Path) : Option Location :=
  match files.resolveParent path with
  | .ok (directory, name) => some (directory ++ [name])
  | .error _ => none

theorem FileSystem.entryNamed?_eq_some_iff {path : Path} {place : Location} :
    files.entryNamed? path = some place ↔
      ∃ parent name, files.resolveParent path = .ok (parent, name) ∧ place = parent ++ [name] := by
  unfold entryNamed?
  cases resolved : files.resolveParent path with
  | error error => simp
  | ok parts =>
      constructor
      · intro named
        exact ⟨parts.1, parts.2, rfl, (Option.some.inj named).symm⟩
      · rintro ⟨parent, name, same, rfl⟩
        obtain rfl := Except.ok.inj same
        rfl

/-- Everything that an install needs: a regular file that may be read, a directory in which a copy
can be made, a path that can receive it, and a system that lets no step fail. -/
structure Installable (files : FileSystem) (source destination : Path) : Prop where
  regular : ∃ content, files.isFile source = true ∧ files.readBytes source = .ok content
  staged : ∃ directory made, destination.parent? = some directory ∧
    files.isDirectory directory = true ∧ files.createCopy directory stagingAttempts = .ok made
  receives : ∃ parent name, Receives files destination parent name
  flawless : files.fault? = none

/-- An install that lacks something leaves the file system as it was. -/
theorem installArtifact_of_not_installable (lacks : ¬ Installable files source destination) :
    ∃ failure, installArtifact files source destination = (.error failure, files) := by
  unfold installArtifact
  cases regular : files.isFile source with
  | false => exact ⟨_, rfl⟩
  | true =>
  obtain ⟨mode, content, original⟩ := isFile_iff.mp regular
  cases parent : destination.parent? with
  | none => exact ⟨_, rfl⟩
  | some directory =>
  cases inner : files.isDirectory directory with
  | false => exact ⟨_, by simp only [inner]; rfl⟩
  | true =>
  simp only [inner, Bool.not_true, Bool.false_eq_true, if_false, stageCopy]
  cases made : files.createCopy directory stagingAttempts with
  | error reason => exact ⟨_, rfl⟩
  | ok copied =>
  obtain ⟨copy, created⟩ := copied
  obtain ⟨onCreate, stages, rfl, -⟩ := stages_of_createCopy made
  dsimp only
  rcases completeCopy_cases original stages with
    ⟨error, mode', written, stopped⟩ | ⟨read, flawless, completed⟩
  · rw [stopped]
    dsimp only
    rw [discard_put stages]
    exact ⟨_, rfl⟩
  · rw [completed]
    dsimp only
    cases moved : (files.put copy.place (.file artifactMode content)).attempt .rename
        ((files.put copy.place (.file artifactMode content)).rename copy.path destination) with
    | error error => exact ⟨_, by rw [discard_put stages]⟩
    | ok after =>
        obtain ⟨onRename, renamed⟩ := attempt_ok_iff.mp moved
        obtain ⟨place, name, placed⟩ := stages.rename_put_ok_iff.mp renamed
        apply absurd _ lacks
        refine ⟨⟨content, regular, read⟩, ⟨directory, _, parent, inner, made⟩,
          ⟨place, name, placed.toReceives⟩, fault?_eq_none fun step => ?_⟩
        rcases flawless step with none | rfl | rfl
        · exact none
        · exact onCreate
        · exact onRename

/-- An install that lacks nothing places an executable file with the content of the source at the
destination. -/
theorem installArtifact_of_installable (ready : Installable files source destination) :
    ∃ after mode content directory name,
      installArtifact files source destination =
        (.ok ⟨source, destination, artifactMode⟩, after) ∧
      files.entryAt source = .ok (.file mode content) ∧
      Placed files after destination artifactMode content directory name := by
  obtain ⟨⟨content, regular, read⟩, ⟨directory, ⟨copy, created⟩, parent, inner, made⟩,
    ⟨place, name, receives⟩, flawless⟩ := ready
  obtain ⟨mode, content', original⟩ := isFile_iff.mp regular
  obtain rfl : content = content' := eq_of_readBytes original read
  obtain ⟨-, stages, rfl, -⟩ := stages_of_createCopy made
  have placed : Placed files (files.put (place ++ [name]) (.file artifactMode content))
      destination artifactMode content place name := ⟨receives, rfl⟩
  have moved := stages.rename_put_ok_iff.mpr ⟨place, name, placed⟩
  refine ⟨_, mode, content, place, name, ?_, original, placed⟩
  simp [installArtifact, regular, parent, inner, stageCopy, made,
    completeCopy_of_flawless original stages read flawless, attempt,
    faultAt?_put, faultAt?_eq_none flawless, moved]

/-- An install that fails leaves the file system as it was, and one that succeeds places an
executable file with the content of the source at the destination. -/
theorem installArtifact_cases (files : FileSystem) (source destination : Path) :
    (∃ failure, installArtifact files source destination = (.error failure, files)) ∨
      ∃ after mode content directory name,
        installArtifact files source destination =
          (.ok ⟨source, destination, artifactMode⟩, after) ∧
        files.entryAt source = .ok (.file mode content) ∧
        Placed files after destination artifactMode content directory name := by
  by_cases ready : Installable files source destination
  · exact Or.inr (installArtifact_of_installable ready)
  · exact Or.inl (installArtifact_of_not_installable ready)

/-- What makes an install impossible from the start. -/
inductive Unfit (files : FileSystem) (source destination : Path) : Prop
  | noSource (notRegular : files.isFile source = false)
  | noDirectory (missing : ∀ directory, destination.parent? = some directory →
      files.isDirectory directory = false)
  | onDirectory {place : Location} (named : files.entryNamed? destination = some place)
      (inner : files.isDirectoryAt place = true)
  | onDots {names : List String} {name : String}
      (split : directoryAndName destination = some (names, name)) (dots : name = "." ∨ name = "..")
  | onSlash (slash : endsInSlash destination = true)
  | unreadable {error : OsError} (refused : files.readBytes source = .error error)
  /-- The system lets a step fail: the creation of the copy, or a later one. -/
  | faulty {fault : Fault} (fails : files.fault? = some fault)

theorem Unfit.not_installable (unfit : Unfit files source destination) :
    ¬ Installable files source destination := by
  rintro ⟨⟨content, regular, read⟩, ⟨directory, made, parent, inner, -⟩, ⟨place, name, receives⟩,
    flawless⟩
  cases unfit with
  | noSource notRegular => simp [regular] at notRegular
  | noDirectory missing => simp [missing directory parent] at inner
  | onDirectory named inner =>
      obtain ⟨other, last, resolved, rfl⟩ := entryNamed?_eq_some_iff.mp named
      obtain ⟨rfl, rfl⟩ : other = place ∧ last = name := by
        simpa using resolved.symm.trans receives.resolved
      simp [receives.notDirectory] at inner
  | onDots split dots =>
      obtain ⟨-, names, split', -, -⟩ := resolveParent_ok_iff.mp receives.resolved
      obtain ⟨-, rfl⟩ : _ ∧ _ = name := by simpa using split.symm.trans split'
      exact receives.plain dots
  | onSlash slash => simp [receives.noSlash] at slash
  | unreadable refused => simp [read] at refused
  | faulty fails => simp [flawless] at fails

/-- An install happens as a whole or not at all. -/
structure Transaction (files : FileSystem) (source destination : Path) : Prop where
  /-- It fails exactly if it lacks something that it needs. -/
  succeeds_iff : (∃ artifact after, installArtifact files source destination =
    (.ok artifact, after)) ↔ Installable files source destination
  /-- A failure leaves the file system exactly as it was. -/
  failed : ∀ failure after, installArtifact files source destination = (.error failure, after) →
    after = files
  unfit : Unfit files source destination →
    ∃ failure, installArtifact files source destination = (.error failure, files)
  /-- A success changes the one entry that the destination names, even if that was a link, and
  leaves every other one alone, what the link led to among them. -/
  installed : ∀ artifact after, installArtifact files source destination = (.ok artifact, after) →
    artifact = ⟨source, destination, 0o755⟩ ∧ ∃ place mode content,
      files.entryNamed? destination = some place ∧
      files.entryAt source = .ok (.file mode content) ∧
      after = files.put place (.file 0o755 content) ∧
      after.lookup place = some (.file 0o755 content) ∧
      ∀ other, other ≠ place → after.lookup other = files.lookup other

/-- Every install is a transaction. -/
theorem transaction_of_install (files : FileSystem) (source destination : Path) :
    Transaction files source destination := by
  constructor
  · constructor
    · rintro ⟨artifact, after, done⟩
      refine Classical.byContradiction fun lacks => ?_
      obtain ⟨failure, refused⟩ := installArtifact_of_not_installable lacks
      simp [refused] at done
    · intro ready
      obtain ⟨after, -, -, -, -, done, -⟩ := installArtifact_of_installable ready
      exact ⟨_, after, done⟩
  · intro failure after refused
    rcases installArtifact_cases files source destination with
      ⟨other, unchanged⟩ | ⟨after', -, -, -, -, done, -⟩
    · exact (Prod.ext_iff.mp (refused.symm.trans unchanged)).2
    · simp [done] at refused
  · exact fun unfit => installArtifact_of_not_installable unfit.not_installable
  · intro artifact after done
    rcases installArtifact_cases files source destination with
      ⟨failure, refused⟩ | ⟨after', mode, content, parent, name, done', original, placed⟩
    · simp [refused] at done
    · obtain ⟨rfl, rfl⟩ : artifact = ⟨source, destination, artifactMode⟩ ∧ after = after' := by
        simpa using done.symm.trans done'
      have named : files.entryNamed? destination = some (parent ++ [name]) :=
        entryNamed?_eq_some_iff.mpr ⟨parent, name, placed.resolved, rfl⟩
      exact ⟨rfl, parent ++ [name], mode, content, named, original, placed.placed,
        placed.lookup_self, fun other => placed.lookup_of_ne⟩

namespace Sample

/-- A disk that is full as soon as one byte has been copied. -/
def full : FileSystem where
  entries := [(["bin"], .directory), (["tool"], .file 0o644 [1, 2])]
  workingDirectory := []
  fault? := some { step := .copy, error := .other "No space left on device" 28, copied := 1 }

end Sample

/-- The copy has been begun when the disk is full, and it is removed again. -/
example :
    ((Sample.full.createCopy ⟨"/bin"⟩ 1).toOption.map fun made =>
      (made.2.completeCopy ⟨"/tool"⟩ made.1).2.lookup made.1.place) =
        some (some (.file 0o600 [1])) ∧
    (installArtifact Sample.full ⟨"/tool"⟩ ⟨"/bin/tool"⟩).2 = Sample.full := by
  decide +kernel

end SealedBuild
