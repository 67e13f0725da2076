import Mathlib.Data.List.Forall2
import Mathlib.Logic.Relation
import SealedBuild.Proofs.Install.Transaction
import SealedBuild.Proofs.Path.Location

/-!
# Interleaved installs

Several installs at one destination take turns. Each of them acts on the file system step by step:
it creates a copy under a name that is free and not that of the destination, reads the original,
writes it to the copy piece by piece, makes the copy executable and renames it. Up to the rename any
step may fail instead; the copy is then removed. Nothing is assumed of the order of the steps, and
the checks that an install begins with are left out, since they only keep it from starting.

A copy is written through the open file, but it is made executable, renamed and removed by its path.
That path was found when the copy was created. It cannot come to lead to anything else, since no
directory and no link appears; it may lead nowhere, however, once another install has replaced a
link that it goes through, and then the copy stays.

A copy belongs to one install, and only complete and executable copies are renamed. That is what
every step preserves.

Main statements: `interleaved_installs`, for every scene that an interleaving leads to, from
`Installs.kept_of_reached`, and `stranded_copy`, an interleaving that leaves a copy behind.
-/

namespace SealedBuild

open FileSystem

/-- What the names of all copies start with. -/
def stagingPrefix : String := ".codex-install-"

/-- How far an install has come. -/
inductive Installer
  | waiting
  /-- There is a copy, which is still empty. -/
  | created (copy : StagedCopy)
  /-- The original is open, and these bytes of it are still to be written to the copy. -/
  | writing (copy : StagedCopy) (rest : Bytes)
  | executable (copy : StagedCopy)
  /-- The install has failed, and its copy is still to be removed. -/
  | broken (copy : StagedCopy)
  /-- The install has failed, and its copy could not be found any more by its path. -/
  | stranded (copy : StagedCopy)
  | installed
  | failed
  deriving DecidableEq

namespace Installer

/-- The copy that an install has made and neither renamed nor removed. -/
def copy? : Installer → Option StagedCopy
  | created copy | writing copy _ | executable copy | broken copy | stranded copy => some copy
  | waiting | installed | failed => none

/-- The copy of an install is not at a place. -/
def Spares (installer : Installer) (place : Location) : Prop :=
  ∀ copy, installer.copy? = some copy → copy.place ≠ place

/-- Whether an install has come to its end. -/
def HasEnded (installer : Installer) : Prop :=
  installer = installed ∨ installer = failed ∨ ∃ copy, installer = stranded copy

/-- Whether an install is under way, with a copy that it has made. -/
def IsWorkingOn (installer : Installer) (copy : StagedCopy) : Prop :=
  installer = created copy ∨ (∃ rest, installer = writing copy rest) ∨ installer = executable copy

/-- One step of an install. -/
inductive Moves (source destination : Path) :
    FileSystem → Installer → FileSystem → Installer → Prop
  | refuse {files : FileSystem} : Moves source destination files .waiting files .failed
  | create {files after : FileSystem} {directory : Path} {suffix : String} {place : Location}
      (parent : destination.parent? = some directory) (whole : '/' ∉ suffix.toList)
      (own : ∀ names name, directoryAndName destination = some (names, name) →
        stagingPrefix ++ suffix ≠ name)
      (made : files.createFile (files.pathWithin directory (stagingPrefix ++ suffix)) stagingMode =
        .ok (place, after)) :
      Moves source destination files .waiting after
        (.created ⟨files.pathWithin directory (stagingPrefix ++ suffix), place⟩)
  | read {files : FileSystem} {copy : StagedCopy} {content : Bytes}
      (opened : files.readBytes source = .ok content) :
      Moves source destination files (.created copy) files (.writing copy content)
  | write {files : FileSystem} {copy : StagedCopy} {chunk rest : Bytes} :
      Moves source destination files (.writing copy (chunk ++ rest))
        (files.append copy.place chunk) (.writing copy rest)
  | release {files after : FileSystem} {copy : StagedCopy}
      (released : files.setMode copy.path artifactMode = .ok after) :
      Moves source destination files (.writing copy []) after (.executable copy)
  | rename {files after : FileSystem} {copy : StagedCopy}
      (moved : files.rename copy.path destination = .ok after) :
      Moves source destination files (.executable copy) after .installed
  | fail {files : FileSystem} {now : Installer} {copy : StagedCopy}
      (working : now.IsWorkingOn copy) : Moves source destination files now files (.broken copy)
  | remove {files after : FileSystem} {copy : StagedCopy}
      (removed : files.unlink copy.path = .ok after) :
      Moves source destination files (.broken copy) after .failed
  | strand {files : FileSystem} {copy : StagedCopy} {error : OsError}
      (lost : files.unlink copy.path = .error error) :
      Moves source destination files (.broken copy) files (.stranded copy)

/-- What is under the name of a copy, given what the original was at the start. -/
def Sound (start files : FileSystem) (source : Path) : Installer → Prop
  | created copy => files.lookup copy.place = some (.file stagingMode [])
  | writing copy rest => ∃ written, start.readBytes source = .ok (written ++ rest) ∧
      files.lookup copy.place = some (.file stagingMode written)
  | executable copy => ∃ content, start.readBytes source = .ok content ∧
      files.lookup copy.place = some (.file artifactMode content)
  | broken copy | stranded copy =>
      ∃ mode content, files.lookup copy.place = some (.file mode content)
  | waiting | installed | failed => True

section Sound

variable {start files after : FileSystem} {source : Path} {installer : Installer}
  {copy : StagedCopy}

theorem IsWorkingOn.copy?_eq (working : installer.IsWorkingOn copy) :
    installer.copy? = some copy := by
  rcases working with rfl | ⟨rest, rfl⟩ | rfl
  · rfl
  · rfl
  · rfl

/-- Every copy is a regular file. -/
theorem Sound.held (sound : installer.Sound start files source)
    (made : installer.copy? = some copy) :
    ∃ mode content, files.lookup copy.place = some (.file mode content) := by
  cases installer with
  | created other =>
      obtain rfl := Option.some.inj made
      exact ⟨_, _, sound⟩
  | writing other rest =>
      obtain rfl := Option.some.inj made
      obtain ⟨written, -, held⟩ := sound
      exact ⟨_, _, held⟩
  | executable other =>
      obtain rfl := Option.some.inj made
      obtain ⟨content, -, held⟩ := sound
      exact ⟨_, _, held⟩
  | broken other =>
      obtain rfl := Option.some.inj made
      exact sound
  | stranded other =>
      obtain rfl := Option.some.inj made
      exact sound
  | waiting => cases made
  | installed => cases made
  | failed => cases made

/-- Only the copy itself matters. -/
theorem Sound.of_lookup_eq (sound : installer.Sound start files source)
    (agree : ∀ copy, installer.copy? = some copy →
      after.lookup copy.place = files.lookup copy.place) :
    installer.Sound start after source := by
  cases installer with
  | created copy => exact (agree copy rfl).trans sound
  | writing copy rest =>
      obtain ⟨written, original, held⟩ := sound
      exact ⟨written, original, (agree copy rfl).trans held⟩
  | executable copy =>
      obtain ⟨content, original, held⟩ := sound
      exact ⟨content, original, (agree copy rfl).trans held⟩
  | broken copy =>
      obtain ⟨mode, content, held⟩ := sound
      exact ⟨mode, content, (agree copy rfl).trans held⟩
  | stranded copy =>
      obtain ⟨mode, content, held⟩ := sound
      exact ⟨mode, content, (agree copy rfl).trans held⟩
  | waiting => trivial
  | installed => trivial
  | failed => trivial

end Sound

end Installer

/-- Installs at one destination. -/
structure Installs (ι : Type) where
  source : ι → Path
  destination : Path

/-- The file system and the installs that act on it. -/
structure Scene (ι : Type) where
  files : FileSystem
  installers : ι → Installer
  /-- The installs that have renamed their copies, the last one first. -/
  renamed : List ι

/-- A copy is one that an install at a destination makes: it is new, in the directory of the
destination, and not at the destination itself. -/
structure IsCopyFor (destination : Path) (files : FileSystem) (target : Option Location)
    (copy : StagedCopy) : Prop extends Fresh files copy.path copy.place where
  apart : target ≠ some copy.place
  inside : ∃ directory suffix, destination.parent? = some directory ∧
    copy.path = files.pathWithin directory (stagingPrefix ++ suffix)

namespace Installer

variable {start files after : FileSystem} {source destination : Path} {target : Option Location}
  {now next : Installer} {copy : StagedCopy} {place : Location}

/-- What one step of an install does: it may change the copy of that install, and a rename makes the
destination show the original, unless that is a directory. -/
structure Effect (start files after : FileSystem) (source destination : Path)
    (target : Option Location) (now next : Installer) : Prop where
  workingDirectory : after.workingDirectory = files.workingDirectory
  unfinished : now ≠ .installed
  sound : next.Sound start after source
  copy : ∀ copy, next.copy? = some copy →
    now.copy? = some copy ∨ IsCopyFor destination files target copy
  gone : ∀ copy, now.copy? = some copy → next.Spares copy.place → after.lookup copy.place = none
  frame : ∀ place, now.Spares place → next.Spares place → target ≠ some place →
    after.lookup place = files.lookup place
  shown : ∀ place, target = some place →
    if next = .installed then
      ∃ content, start.readBytes source = .ok content ∧
        after.lookup place = some (.file artifactMode content) ∧
        files.lookup place ≠ some .directory
    else after.lookup place = files.lookup place
  lost : ∀ copy, next = .stranded copy →
    now.copy? = some copy ∧ ∃ error, files.unlink copy.path = .error error

theorem ne_installed_of_copy? (made : now.copy? = some copy) : now ≠ .installed := by
  rintro rfl
  cases made

theorem not_spares (made : now.copy? = some copy) : ¬ now.Spares copy.place :=
  fun away => away copy made rfl

/-- A step that leaves the file system alone. -/
theorem Effect.idle (sound : next.Sound start files source) (same : next.copy? = now.copy?)
    (unfinished : now ≠ .installed) (onward : next ≠ .installed)
    (lost : ∀ copy, next = .stranded copy →
      now.copy? = some copy ∧ ∃ error, files.unlink copy.path = .error error) :
    Effect start files files source destination target now next where
  workingDirectory := rfl
  unfinished := unfinished
  sound := sound
  copy := fun _ made => Or.inl (same ▸ made)
  gone := fun _ made away => absurd away (not_spares (same ▸ made))
  frame := fun _ _ _ _ => rfl
  shown := fun _ _ => by rw [if_neg onward]
  lost := lost

/-- A step that puts a file in place of the copy, or in a free place. -/
theorem Effect.put {entry : Entry} (sound : next.Sound start (files.put copy.place entry) source)
    (there : copy.place ≠ []) (apart : target ≠ some copy.place) (made : next.copy? = some copy)
    (before : now.copy? = some copy ∨
      now = .waiting ∧ IsCopyFor destination files target copy)
    (onward : ∀ other, next ≠ .stranded other) :
    Effect start files (files.put copy.place entry) source destination target now next where
  workingDirectory := rfl
  unfinished := by
    rcases before with held | ⟨rfl, -⟩
    · exact ne_installed_of_copy? held
    · simp
  sound := sound
  copy := by
    intro other held
    obtain rfl := Option.some.inj (made.symm.trans held)
    exact before.imp_right And.right
  gone := by
    intro other held away
    rcases before with same | ⟨rfl, -⟩
    · obtain rfl := Option.some.inj (same.symm.trans held)
      exact absurd away (not_spares made)
    · cases held
  frame := by
    intro place _ away _
    rw [lookup_put files there, if_neg (Ne.symm (away copy made))]
  shown := by
    intro place named
    have ne : place ≠ copy.place := fun same => apart (same ▸ named)
    rw [if_neg (ne_installed_of_copy? made), lookup_put files there, if_neg ne]
  lost := fun other same => absurd same (onward other)

/-- The name of a new copy is not that of the destination. -/
theorem entryNamed?_ne_of_own {directory : Path} {name : String} (written : name ≠ "")
    (whole : '/' ∉ name.toList)
    (own : ∀ names last, directoryAndName destination = some (names, last) → name ≠ last)
    (named : files.namedPlace (files.pathWithin directory name) = .ok place) :
    start.entryNamed? destination ≠ some place := by
  intro target
  obtain ⟨parent, last, resolved, rfl⟩ := entryNamed?_eq_some_iff.mp target
  obtain ⟨-, names, split, -, -⟩ := resolveParent_ok_iff.mp resolved
  obtain ⟨above, name', resolved', -, -, same⟩ := namedPlace_ok_iff.mp named
  obtain ⟨-, names', split', -, -⟩ := resolveParent_ok_iff.mp resolved'
  have absolute : (files.absolute directory).isAbsolute = true :=
    Path.join_isAbsolute (Location.isAbsolute_toPath _)
  obtain ⟨names'', joined⟩ := Path.directoryAndName_join absolute written whole
  obtain ⟨-, rfl⟩ := Prod.mk.inj (Option.some.inj (joined.symm.trans split'))
  obtain ⟨-, tail⟩ := List.append_inj' same rfl
  exact own names last split (List.cons.inj tail).1.symm

theorem whole_staged {suffix : String} (whole : '/' ∉ suffix.toList) :
    stagingPrefix ++ suffix ≠ "" ∧ '/' ∉ (stagingPrefix ++ suffix).toList := by
  have clean : '/' ∉ stagingPrefix.toList := by decide
  constructor
  · intro empty
    have front := congrArg String.toList empty
    simp [stagingPrefix] at front
  · rw [String.toList_append, List.mem_append]
    exact not_or.mpr ⟨clean, whole⟩

/-- Every step has its effect. -/
theorem Moves.effect (keeps : KeepsTree files start) (sound : now.Sound start files source)
    (fresh : ∀ copy, now.copy? = some copy →
      IsCopyFor destination start (start.entryNamed? destination) copy)
    (steady : files.readBytes source = start.readBytes source)
    (moves : now.Moves source destination files after next) :
    Effect start files after source destination (start.entryNamed? destination) now next := by
  -- By its path a copy is found where it was made, if it is found at all.
  have found {copy : StagedCopy} (made : now.copy? = some copy) {place : Location}
      (named : files.namedPlace copy.path = .ok place) : place = copy.place :=
    Except.ok.inj ((keeps.namedPlace_ok named).symm.trans (fresh copy made).named)
  cases moves with
  | refuse => exact .idle trivial rfl (by simp) (by simp) (by simp)
  | @create _ directory suffix place parent whole own made =>
      obtain ⟨new, rfl⟩ := createFile_ok_iff.mp made
      obtain ⟨written, clean⟩ := whole_staged whole
      have apart : start.entryNamed? destination ≠ some place :=
        entryNamed?_ne_of_own written clean own new.named
      let copy : StagedCopy := ⟨files.pathWithin directory (stagingPrefix ++ suffix), place⟩
      have sound' : Sound start (files.put copy.place (.file stagingMode [])) source
          (.created copy) := lookup_put_self files new.ne_nil _
      exact .put sound' new.ne_nil apart rfl
        (Or.inr ⟨rfl, new, apart, directory, suffix, parent, rfl⟩) (by simp)
  | read opened =>
      exact .idle ⟨[], by rw [← steady, opened, List.nil_append], sound⟩ rfl (by simp) (by simp)
        (by simp)
  | @write copy chunk rest =>
      have own := fresh copy rfl
      obtain ⟨written, original, held⟩ := sound
      have appended : files.append copy.place chunk =
          files.put copy.place (.file stagingMode (written ++ chunk)) := by
        simp [append, held]
      rw [appended]
      refine .put ⟨written ++ chunk, ?_, lookup_put_self files own.ne_nil _⟩ own.ne_nil own.apart
        rfl (Or.inl rfl) (by simp)
      rw [original, List.append_assoc]
  | @release _ copy released =>
      have own := fresh copy rfl
      obtain ⟨content, original, held⟩ := sound
      have put : after = files.put copy.place (.file artifactMode content) := by
        unfold FileSystem.setMode at released
        cases resolved : files.resolve copy.path with
        | error error => simp [resolved] at released
        | ok place =>
            obtain rfl := eq_of_resolve_of_namedPlace keeps own.named own.noSlash held resolved
            simpa [resolved, held] using released.symm
      rw [put]
      refine .put ⟨content, ?_, lookup_put_self files own.ne_nil _⟩ own.ne_nil own.apart rfl
        (Or.inl rfl) (by simp)
      rw [original, List.append_nil]
  | @rename _ copy moved =>
      have own := fresh copy rfl
      obtain ⟨content, original, held⟩ := sound
      obtain ⟨old, entry, parent, name, movable, receives, rfl⟩ := rename_ok_iff.mp moved
      obtain rfl := found rfl movable.named
      obtain rfl := Option.some.inj (held.symm.trans movable.held)
      have target : start.entryNamed? destination = some (parent ++ [name]) :=
        entryNamed?_eq_some_iff.mpr ⟨parent, name, keeps.resolveParent_ok receives.resolved, rfl⟩
      have spot : parent ++ [name] ≠ [] := by simp
      constructor
      · rfl
      · simp
      · trivial
      · simp [Installer.copy?]
      · intro other made _
        obtain rfl := Option.some.inj made
        have ne : copy.place ≠ parent ++ [name] := fun same => own.apart (same ▸ target)
        rw [lookup_put _ spot, if_neg ne, lookup_erase files own.ne_nil, if_pos rfl]
      · intro place away _ elsewhere
        have ne : place ≠ parent ++ [name] := fun same => elsewhere (same ▸ target)
        rw [lookup_put _ spot, if_neg ne, lookup_erase files own.ne_nil,
          if_neg (Ne.symm (away copy rfl))]
      · intro place named
        obtain rfl := Option.some.inj (target.symm.trans named)
        rw [if_pos rfl]
        refine ⟨content, original, lookup_put_self _ spot _, fun inner => ?_⟩
        simpa [receives.notDirectory] using isDirectoryAt_iff.mpr inner
      · simp
  | @fail _ copy working =>
      have made := working.copy?_eq
      exact .idle (sound.held made) made.symm (ne_installed_of_copy? made) (by simp) (by simp)
  | @remove _ copy removed =>
      have own := fresh copy rfl
      have erased : after = files.erase copy.place := by
        obtain ⟨mode, content, held⟩ := sound
        unfold unlink at removed
        cases named : files.namedPlace copy.path with
        | error error => simp [named] at removed
        | ok place =>
            obtain rfl := found rfl named
            simpa [named, held, own.noSlash] using removed.symm
      rw [erased]
      constructor
      · rfl
      · simp
      · trivial
      · simp [Installer.copy?]
      · intro other made _
        obtain rfl := Option.some.inj made
        rw [lookup_erase files own.ne_nil, if_pos rfl]
      · intro place away _ _
        rw [lookup_erase files own.ne_nil, if_neg (Ne.symm (away copy rfl))]
      · intro place named
        have ne : place ≠ copy.place := fun same => own.apart (same ▸ named)
        rw [if_neg (by simp), lookup_erase files own.ne_nil, if_neg ne]
      · simp
  | @strand copy error lost =>
      refine .idle sound rfl (by simp) (by simp) ?_
      intro other same
      obtain rfl := Installer.stranded.inj same
      exact ⟨rfl, error, lost⟩

end Installer

namespace Installs

variable {ι : Type}

/-- What is at the destination after some renames, the last one first. -/
def Shows (calls : Installs ι) (start : FileSystem) (place : Location) (entry : Option Entry) :
    List ι → Prop
  | [] => entry = start.lookup place
  | i :: _ => ∃ content, start.readBytes (calls.source i) = .ok content ∧
      entry = some (.file artifactMode content)

/-- What every interleaving keeps. -/
structure Kept (calls : Installs ι) (start : FileSystem) (scene : Scene ι) : Prop where
  workingDirectory : scene.files.workingDirectory = start.workingDirectory
  sound : ∀ i, (scene.installers i).Sound start scene.files (calls.source i)
  apart : ∀ i j copy copy', (scene.installers i).copy? = some copy →
    (scene.installers j).copy? = some copy' → copy.place = copy'.place → i = j
  fresh : ∀ i copy, (scene.installers i).copy? = some copy →
    IsCopyFor calls.destination start (start.entryNamed? calls.destination) copy
  rest : ∀ place, (∀ i, (scene.installers i).Spares place) →
    start.entryNamed? calls.destination ≠ some place →
    scene.files.lookup place = start.lookup place
  shows : ∀ place, start.entryNamed? calls.destination = some place →
    calls.Shows start place (scene.files.lookup place) scene.renamed
  directory : ∀ place, start.entryNamed? calls.destination = some place →
    start.lookup place = some .directory → scene.files.lookup place = some .directory
  mem_renamed_iff : ∀ i, i ∈ scene.renamed ↔ scene.installers i = .installed

variable {calls : Installs ι} {start files : FileSystem} {scene : Scene ι} {next : Installer}

/-- No directory and no link appears in the course of installs. -/
theorem Kept.keepsTree (kept : Kept calls start scene) : KeepsTree scene.files start := by
  refine ⟨kept.workingDirectory.symm, @fun place entry held solid => ?_⟩
  by_cases spared : ∀ i, (scene.installers i).Spares place
  · by_cases named : start.entryNamed? calls.destination = some place
    · have shows := kept.shows place named
      cases renamed : scene.renamed with
      | nil =>
          rw [renamed] at shows
          exact shows.symm.trans held
      | cons i earlier =>
          rw [renamed] at shows
          obtain ⟨content, -, file⟩ := shows
          exact absurd (Option.some.inj (held.symm.trans file)) (solid _ content)
    · rw [← kept.rest place spared named, held]
  · obtain ⟨i, taken⟩ := not_forall.mp spared
    unfold Installer.Spares at taken
    push Not at taken
    obtain ⟨copy, made, rfl⟩ := taken
    obtain ⟨mode, content, file⟩ := (kept.sound i).held made
    exact absurd (Option.some.inj (held.symm.trans file)) (solid mode content)

/-- Copies are not where nothing is. -/
theorem Kept.spares (kept : Kept calls start scene) {place : Location}
    (free : scene.files.lookup place = none) (i : ι) : (scene.installers i).Spares place := by
  rintro copy made rfl
  obtain ⟨mode, content, held⟩ := (kept.sound i).held made
  rw [free] at held
  cases held

/-- A copy is new to the start. -/
theorem Kept.isCopyFor (kept : Kept calls start scene) {copy : StagedCopy}
    (new : IsCopyFor calls.destination scene.files (start.entryNamed? calls.destination) copy) :
    IsCopyFor calls.destination start (start.entryNamed? calls.destination) copy := by
  obtain ⟨⟨named, noSlash, free⟩, apart, directory, suffix, parent, path⟩ := new
  refine ⟨⟨kept.keepsTree.namedPlace_ok named, noSlash, ?_⟩, apart, directory, suffix, parent, ?_⟩
  · rw [← kept.rest copy.place (kept.spares free) apart, free]
  · rw [path, pathWithin, pathWithin, absolute, absolute, kept.workingDirectory]

theorem Kept.effect (kept : Kept calls start scene) {i : ι}
    (steady : scene.files.readBytes (calls.source i) = start.readBytes (calls.source i))
    (moves : (scene.installers i).Moves (calls.source i) calls.destination scene.files files next) :
    (scene.installers i).Effect start scene.files files (calls.source i) calls.destination
      (start.entryNamed? calls.destination) next :=
  moves.effect kept.keepsTree (kept.sound i) (kept.fresh i) steady

/-! ### Copies that are not found again -/

/-- The paths of copies at a destination would lead to the same places without the link there, if
the destination is a link. -/
def Lasting (start : FileSystem) (destination : Path) : Prop :=
  ∀ target place directory suffix copy, start.entryNamed? destination = some place →
    start.lookup place = some (.link target) → destination.parent? = some directory →
    start.namedPlace (start.pathWithin directory (stagingPrefix ++ suffix)) = .ok copy →
    (start.erase place).namedPlace (start.pathWithin directory (stagingPrefix ++ suffix)) =
      .ok copy

/-- Whatever is not a link at the destination has no part in the paths of copies. -/
theorem lasting_of_no_link {destination : Path}
    (noLink : ∀ place target, start.entryNamed? destination = some place →
      start.lookup place ≠ some (.link target)) : Lasting start destination :=
  fun target place _ _ _ named held => absurd held (noLink place target named)

/-- All directories and links of the start but a link at the destination stay. -/
theorem Kept.lookup_of_solid (kept : Kept calls start scene) {place : Location} {entry : Entry}
    (held : start.lookup place = some entry) (solid : ∀ mode content, entry ≠ .file mode content)
    (noLink : start.entryNamed? calls.destination = some place → ∀ target, entry ≠ .link target) :
    scene.files.lookup place = some entry := by
  by_cases named : start.entryNamed? calls.destination = some place
  · cases entry with
    | directory => exact kept.directory place named held
    | file mode content => exact absurd rfl (solid mode content)
    | link target => exact absurd rfl (noLink named target)
  · rw [kept.rest place (fun i copy made same => ?_) named, held]
    have free := (kept.fresh i copy made).free
    rw [same, held] at free
    cases free

/-- Under paths that last, a copy is found by its path at any time. -/
theorem Kept.namedPlace_copy (kept : Kept calls start scene)
    (lasting : Lasting start calls.destination) {i : ι} {copy : StagedCopy}
    (made : (scene.installers i).copy? = some copy) :
    scene.files.namedPlace copy.path = .ok copy.place := by
  obtain ⟨⟨named, -, -⟩, -, directory, suffix, parent, path⟩ := kept.fresh i copy made
  by_cases linked : ∃ place target, start.entryNamed? calls.destination = some place ∧
      start.lookup place = some (.link target)
  · obtain ⟨place, target, entry, link⟩ := linked
    have there : place ≠ [] := by
      rintro rfl
      simp [lookup] at link
    have keeps : KeepsTree (start.erase place) scene.files := by
      refine ⟨kept.workingDirectory, @fun other held found solid => ?_⟩
      rw [lookup_erase start there] at found
      split at found
      · cases found
      next apart =>
        apply kept.lookup_of_solid found solid
        intro named
        exact absurd (Option.some.inj (entry.symm.trans named)).symm apart
    rw [path] at named ⊢
    exact keeps.namedPlace_ok (lasting target place directory suffix _ entry link parent named)
  · have keeps : KeepsTree start scene.files := by
      refine ⟨kept.workingDirectory, @fun other held found solid => ?_⟩
      apply kept.lookup_of_solid found solid
      rintro named target rfl
      exact linked ⟨other, target, named, found⟩
    exact keeps.namedPlace_ok named

/-! ### Steps -/

variable [DecidableEq ι]

/-- The scene after one install has taken a step. -/
def advance (scene : Scene ι) (i : ι) (files : FileSystem) (next : Installer) : Scene ι where
  files := files
  installers := Function.update scene.installers i next
  renamed := if next = .installed then i :: scene.renamed else scene.renamed

/-- One of the installs takes a step. -/
inductive Step (calls : Installs ι) : Scene ι → Scene ι → Prop
  | advance {scene : Scene ι} {files : FileSystem} {next : Installer} (i : ι)
      (moves : (scene.installers i).Moves (calls.source i) calls.destination scene.files files
        next) : Step calls scene (advance scene i files next)

/-- The installs have taken steps in some order, and no original has changed meanwhile. -/
inductive Reached (calls : Installs ι) (start : FileSystem) : Scene ι → Prop
  | start : Reached calls start ⟨start, fun _ => .waiting, []⟩
  | step {scene next : Scene ι} (reached : Reached calls start scene)
      (steady : ∀ i, scene.files.readBytes (calls.source i) = start.readBytes (calls.source i))
      (step : Step calls scene next) : Reached calls start next

/-- What is kept is kept by a step with its effect. -/
theorem Kept.advance (kept : Kept calls start scene) {i : ι}
    (effect : (scene.installers i).Effect start scene.files files (calls.source i)
      calls.destination (start.entryNamed? calls.destination) next) :
    Kept calls start (advance scene i files next) := by
  -- The copy of another install is not touched.
  have others : ∀ j copy, j ≠ i → (scene.installers j).copy? = some copy →
      next.Spares copy.place ∧ files.lookup copy.place = scene.files.lookup copy.place := by
    intro j copy other made
    have unmoved : (scene.installers i).Spares copy.place :=
      fun copy' made' same => other (kept.apart j i copy copy' made made' same.symm)
    have away : next.Spares copy.place := by
      intro copy' made' same
      rcases effect.copy copy' made' with old | new
      · exact unmoved copy' old same
      · obtain ⟨mode, content, held⟩ := (kept.sound j).held made
        rw [← same, new.free] at held
        cases held
    exact ⟨away, effect.frame copy.place unmoved away (kept.fresh j copy made).apart⟩
  have at_ : ∀ j, (Installs.advance scene i files next).installers j =
      if j = i then next else scene.installers j := fun j => Function.update_apply ..
  constructor
  · exact effect.workingDirectory.trans kept.workingDirectory
  · intro j
    rw [at_]
    by_cases same : j = i
    · subst same
      rw [if_pos rfl]
      exact effect.sound
    · rw [if_neg same]
      exact (kept.sound j).of_lookup_eq fun copy made => (others j copy same made).2
  · intro j k copy copy' made made' same
    rw [at_] at made made'
    by_cases hj : j = i <;> by_cases hk : k = i
    · rw [hj, hk]
    · rw [if_pos hj] at made
      rw [if_neg hk] at made'
      exact absurd same ((others k copy' hk made').1 copy made)
    · rw [if_neg hj] at made
      rw [if_pos hk] at made'
      exact absurd same.symm ((others j copy hj made).1 copy' made')
    · rw [if_neg hj] at made
      rw [if_neg hk] at made'
      exact kept.apart j k copy copy' made made' same
  · intro j copy made
    rw [at_] at made
    by_cases same : j = i
    · rw [if_pos same] at made
      rcases effect.copy copy made with old | new
      · exact kept.fresh i copy old
      · exact kept.isCopyFor new
    · rw [if_neg same] at made
      exact kept.fresh j copy made
  · intro place clear elsewhere
    have left : next.Spares place := by simpa [at_] using clear i
    by_cases unmoved : (scene.installers i).Spares place
    · refine (effect.frame place unmoved left elsewhere).trans (kept.rest place ?_ elsewhere)
      intro j
      by_cases same : j = i
      · exact same ▸ unmoved
      · simpa [at_, same] using clear j
    · unfold Installer.Spares at unmoved
      push Not at unmoved
      obtain ⟨copy, made, rfl⟩ := unmoved
      exact (effect.gone copy made left).trans (kept.fresh i copy made).free.symm
  · intro place named
    have shown := effect.shown place named
    by_cases last : next = .installed
    · rw [if_pos last] at shown
      obtain ⟨content, original, held, -⟩ := shown
      simpa [Installs.advance, last, Shows] using ⟨content, original, held⟩
    · rw [if_neg last] at shown
      simpa [Installs.advance, last, shown] using kept.shows place named
  · intro place named inner
    have before := kept.directory place named inner
    have shown := effect.shown place named
    by_cases last : next = .installed
    · rw [if_pos last] at shown
      obtain ⟨-, -, -, replaced⟩ := shown
      exact absurd before replaced
    · rw [if_neg last] at shown
      exact shown.trans before
  · intro j
    rw [at_]
    have before := kept.mem_renamed_iff j
    by_cases same : j = i
    · subst same
      simp only [Installs.advance, if_true]
      by_cases last : next = .installed
      · simp [last]
      · simpa [last, effect.unfinished] using before
    · by_cases last : next = .installed
      · simpa [Installs.advance, same, last] using before
      · simpa [Installs.advance, same, last] using before

/-- Every interleaving keeps all of this. -/
theorem kept_of_reached (reached : Reached calls start scene) : Kept calls start scene := by
  induction reached with
  | start =>
      constructor
      · rfl
      · exact fun _ => trivial
      · simp [Installer.copy?]
      · simp [Installer.copy?]
      · exact fun _ _ _ => rfl
      · exact fun _ _ => rfl
      · exact fun _ _ inner => inner
      · exact fun _ => ⟨nofun, nofun⟩
  | step reached steady step kept =>
      cases step with
      | advance i moves => exact kept.advance (kept.effect (steady i) moves)

/-- Under paths that last, every copy that is to be removed is removed. -/
theorem not_stranded_of_reached (reached : Reached calls start scene)
    (lasting : Lasting start calls.destination) (i : ι) (copy : StagedCopy) :
    scene.installers i ≠ .stranded copy := by
  induction reached with
  | start => exact nofun
  | @step scene _ reached steady step ih =>
      cases step with
      | @advance files next j moves =>
          have kept := kept_of_reached reached
          intro lost
          have at_ : Function.update scene.installers j next i = .stranded copy := lost
          rw [Function.update_apply] at at_
          split at at_
          next same =>
            subst same
            have effect := kept.effect (steady i) moves
            obtain ⟨made, error, refused⟩ := effect.lost copy at_
            obtain ⟨mode, content, held⟩ := (kept.sound i).held made
            have noSlash := (kept.fresh i copy made).noSlash
            simp [unlink_of_namedPlace (kept.namedPlace_copy lasting made) noSlash held] at refused
          next => exact ih at_

theorem advance_advance {i : ι} {files' : FileSystem} {next' : Installer}
    (unfinished : next ≠ .installed) :
    advance (advance scene i files next) i files' next' = advance scene i files' next' := by
  simp [advance, unfinished]

/-- One install goes on while the others wait. -/
theorem steps_advance {i : ι} {files' : FileSystem} {next' : Installer}
    (steps : Relation.ReflTransGen calls.Step scene (advance scene i files next))
    (unfinished : next ≠ .installed)
    (moves : next.Moves (calls.source i) calls.destination files files' next') :
    Relation.ReflTransGen calls.Step scene (advance scene i files' next') := by
  rw [← advance_advance unfinished]
  refine steps.tail (.advance i ?_)
  simpa [advance] using moves

theorem whole_toString (number : Nat) : '/' ∉ (toString number).toList := by
  intro held
  have digit : Char.isDigit '/' = true := by
    rw [Nat.toString_eq_ofList_toDigits, String.toList_ofList] at held
    exact Nat.isDigit_of_mem_toDigits (by decide) (by decide) held
  simp at digit

/-- An install on its own is one of the interleavings, unless the destination is named as a copy
is. -/
theorem steps_of_installArtifact {i : ι} (waits : scene.installers i = .waiting)
    (own : ∀ number names name, directoryAndName calls.destination = some (names, name) →
      stagingName number ≠ name) :
    (∃ failure after,
      installArtifact scene.files (calls.source i) calls.destination = (.error failure, after) ∧
      Relation.ReflTransGen calls.Step scene (advance scene i after .failed)) ∨
    ∃ artifact after,
      installArtifact scene.files (calls.source i) calls.destination = (.ok artifact, after) ∧
      Relation.ReflTransGen calls.Step scene (advance scene i after .installed) := by
  by_cases ready : Installable scene.files (calls.source i) calls.destination
  · right
    obtain ⟨after, mode, content', parent, name, done, original, placed⟩ :=
      installArtifact_of_installable ready
    refine ⟨_, after, done, ?_⟩
    obtain ⟨⟨content, -, read⟩, ⟨directory, ⟨⟨_, place⟩, _⟩, above, inner, made⟩, -, -⟩ := ready
    obtain ⟨-, stages, rfl, number, rfl⟩ := stages_of_createCopy made
    have kept : (scene.files.put place (.file stagingMode [])).readBytes (calls.source i) =
        .ok content := ((stages.extends_put stagingMode []).readBytes_eq original).trans read
    obtain rfl : content = content' := eq_of_readBytes original read
    have created : Relation.ReflTransGen calls.Step scene (advance scene i
        (scene.files.put place (.file stagingMode []))
        (.created ⟨scene.files.pathWithin directory (stagingName number), place⟩)) := by
      refine .single (.advance i ?_)
      rw [waits]
      exact .create above (whole_toString _) (own number)
        (createFile_ok_iff.mpr ⟨stages, rfl⟩)
    have opened := steps_advance created (by simp) (.read kept)
    have written := steps_advance opened (by simp)
      (List.append_nil content ▸ Installer.Moves.write)
    rw [stages.append_put, List.nil_append] at written
    have released := steps_advance written (by simp) (.release (stages.setMode_put artifactMode))
    have moved := stages.rename_put_ok_iff.mpr ⟨parent, name, placed⟩
    exact steps_advance released (by simp) (.rename moved)
  · left
    obtain ⟨failure, refused⟩ := installArtifact_of_not_installable ready
    refine ⟨failure, scene.files, refused, .single (.advance i ?_)⟩
    rw [waits]
    exact .refuse

/-- What is to be seen of interleaved installs. -/
structure Outcome (calls : Installs ι) (start : FileSystem) (scene : Scene ι) : Prop where
  /-- At any time the destination is what it was, or a complete and executable original. -/
  whole : ∀ place, start.entryNamed? calls.destination = some place →
    scene.files.lookup place = start.lookup place ∨
      ∃ i content, start.readBytes (calls.source i) = .ok content ∧
        scene.files.lookup place = some (.file 0o755 content)
  /-- In the end it is the file of the install that has renamed last, if one has. -/
  latest : (∀ i, (scene.installers i).HasEnded) →
    ∀ place, start.entryNamed? calls.destination = some place →
      calls.Shows start place (scene.files.lookup place) scene.renamed
  mem_renamed_iff : ∀ i, i ∈ scene.renamed ↔ scene.installers i = .installed
  /-- In the end nothing else has changed, but for copies that could not be found any more. -/
  others : (∀ i, (scene.installers i).HasEnded) →
    ∀ place, start.entryNamed? calls.destination ≠ some place →
      (∀ i copy, scene.installers i = .stranded copy → copy.place ≠ place) →
      scene.files.lookup place = start.lookup place
  /-- In the end no other copy is left. -/
  noCopies : (∀ i, (scene.installers i).HasEnded) → ∀ directory suffix,
    scene.files.lookup (directory ++ [stagingPrefix ++ suffix]) ≠ none →
      start.lookup (directory ++ [stagingPrefix ++ suffix]) ≠ none ∨
        start.entryNamed? calls.destination = some (directory ++ [stagingPrefix ++ suffix]) ∨
        ∃ i copy, scene.installers i = .stranded copy ∧
          copy.place = directory ++ [stagingPrefix ++ suffix]
  /-- Every copy can be found as long as it is there, unless its path goes through a link at the
  destination. -/
  found : Lasting start calls.destination → ∀ i copy, scene.installers i ≠ .stranded copy
  /-- At any time an install that waits may go through at once, as it does on its own. -/
  alone : ∀ i, scene.installers i = .waiting →
    (∀ number names name, directoryAndName calls.destination = some (names, name) →
      stagingName number ≠ name) →
    (∃ failure after,
      installArtifact scene.files (calls.source i) calls.destination = (.error failure, after) ∧
      Relation.ReflTransGen calls.Step scene (advance scene i after .failed)) ∨
    ∃ artifact after,
      installArtifact scene.files (calls.source i) calls.destination = (.ok artifact, after) ∧
      Relation.ReflTransGen calls.Step scene (advance scene i after .installed)

end Installs

/-- Every interleaving of installs at one destination comes to this. -/
theorem interleaved_installs {ι : Type} [DecidableEq ι] {calls : Installs ι} {start : FileSystem}
    {scene : Scene ι} (reached : calls.Reached start scene) : calls.Outcome start scene := by
  have kept := Installs.kept_of_reached reached
  have others : (∀ i, (scene.installers i).HasEnded) →
      ∀ place, start.entryNamed? calls.destination ≠ some place →
        (∀ i copy, scene.installers i = .stranded copy → copy.place ≠ place) →
        scene.files.lookup place = start.lookup place := by
    intro ended place elsewhere apart
    refine kept.rest place (fun i copy made => ?_) elsewhere
    rcases ended i with done | done | ⟨other, done⟩
    · simp [done, Installer.copy?] at made
    · simp [done, Installer.copy?] at made
    · obtain rfl : other = copy := by simpa [done, Installer.copy?] using made
      exact apart i other done
  constructor
  · intro place named
    have shows := kept.shows place named
    cases renamed : scene.renamed with
    | nil =>
        rw [renamed] at shows
        exact Or.inl shows
    | cons i earlier =>
        rw [renamed] at shows
        obtain ⟨content, original, held⟩ := shows
        exact Or.inr ⟨i, content, original, held⟩
  · exact fun _ => kept.shows
  · exact kept.mem_renamed_iff
  · exact others
  · intro ended directory suffix left
    by_cases named :
        start.entryNamed? calls.destination = some (directory ++ [stagingPrefix ++ suffix])
    · exact Or.inr (Or.inl named)
    by_cases lost : ∃ i copy, scene.installers i = .stranded copy ∧
        copy.place = directory ++ [stagingPrefix ++ suffix]
    · exact Or.inr (Or.inr lost)
    · refine Or.inl (others ended _ named (fun i copy stranded same => ?_) ▸ left)
      exact lost ⟨i, copy, stranded, same⟩
  · exact Installs.not_stranded_of_reached reached
  · exact fun i => Installs.steps_of_installArtifact

namespace Sample

/-- Two originals, and an older file at the destination. -/
def shelf : FileSystem where
  entries := [(["bin"], .directory), (["bin", "tool"], .file 0o644 [0]),
    (["new"], .file 0o644 [1, 2]), (["other"], .file 0o600 [3, 4])]
  workingDirectory := []

/-- Two originals, and a directory that is also seen through a link in it. -/
def mirrored : FileSystem where
  entries := [(["bin"], .directory), (["bin", "tool"], .link "."),
    (["new"], .file 0o644 [1, 2]), (["other"], .file 0o600 [3, 4])]
  workingDirectory := []

/-- An install of each of the originals at the same path. -/
def pairAt (destination : Path) : Installs Bool :=
  ⟨fun i => if i then ⟨"/new"⟩ else ⟨"/other"⟩, destination⟩

/-- What is to be seen after only one of them has renamed its copy. -/
theorem shown_of_pair {scene : Scene Bool} (outcome : (pairAt ⟨"/bin/tool"⟩).Outcome shelf scene)
    (ended : ∀ i, (scene.installers i).HasEnded) (renamed : scene.renamed = [true]) :
    scene.files.lookup ["bin", "tool"] = some (.file 0o755 [1, 2]) ∧
      scene.files.lookup ["bin", ".codex-install-b"] = none := by
  have new : shelf.readBytes ⟨"/new"⟩ = .ok [1, 2] := by decide +kernel
  have named : shelf.entryNamed? ⟨"/bin/tool"⟩ = some ["bin", "tool"] := by decide +kernel
  constructor
  · have shows := outcome.latest ended ["bin", "tool"] named
    rw [renamed] at shows
    obtain ⟨content, original, held⟩ := shows
    obtain rfl := Except.ok.inj (new.symm.trans original)
    exact held
  · have lasting : Installs.Lasting shelf ⟨"/bin/tool"⟩ := by
      apply Installs.lasting_of_no_link
      intro place target named'
      obtain rfl := Option.some.inj (named.symm.trans named')
      have held : shelf.lookup ["bin", "tool"] = some (.file 0o644 [0]) := by decide +kernel
      simp [held]
    by_contra left
    rcases outcome.noCopies ended ["bin"] "b" left with old | named' | ⟨i, copy, lost, -⟩
    · exact absurd old (by decide +kernel)
    · exact absurd (named.symm.trans named') (by decide +kernel)
    · exact outcome.found lasting i copy lost

end Sample

/-- Two installs whose steps alternate, one of which fails half-way: the destination is the file of
the other one, and no copy is left. -/
theorem interleaved_installs_of_pair : ∃ scene,
    (Sample.pairAt ⟨"/bin/tool"⟩).Reached Sample.shelf scene ∧
    (∀ i, (scene.installers i).HasEnded) ∧ scene.renamed = [true] ∧
    scene.files.lookup ["bin", "tool"] = some (.file 0o755 [1, 2]) ∧
    scene.files.lookup ["bin", ".codex-install-b"] = none := by
  have split : directoryAndName ⟨"/bin/tool"⟩ = some (["bin"], "tool") := by decide +kernel
  have own (suffix : String) (other : stagingPrefix ++ suffix ≠ "tool") : ∀ names name,
      directoryAndName ⟨"/bin/tool"⟩ = some (names, name) → stagingPrefix ++ suffix ≠ name := by
    intro names name split'
    obtain ⟨-, rfl⟩ := Prod.ext_iff.mp (Option.some.inj (split.symm.trans split'))
    exact other
  have parent : Path.parent? ⟨"/bin/tool"⟩ = some ⟨"/bin"⟩ := by decide +kernel
  have s0 : (Sample.pairAt ⟨"/bin/tool"⟩).Reached Sample.shelf _ := .start
  have s1 := s0.step (by decide +kernel) (.advance false
    (@Installer.Moves.create _ _ _ _ _ "b" ["bin", ".codex-install-b"] parent (by decide)
      (own _ (by decide)) (createFile_ok_iff.mpr ⟨⟨by decide +kernel, by decide +kernel,
        by decide +kernel⟩, rfl⟩)))
  have s2 := s1.step (by decide +kernel) (.advance false
    (@Installer.Moves.read _ _ _ _ [3, 4] (by decide +kernel)))
  have s3 := s2.step (by decide +kernel) (.advance true
    (@Installer.Moves.create _ _ _ _ _ "a" ["bin", ".codex-install-a"] parent (by decide)
      (own _ (by decide)) (createFile_ok_iff.mpr ⟨⟨by decide +kernel, by decide +kernel,
        by decide +kernel⟩, rfl⟩)))
  have s4 := s3.step (by decide +kernel) (.advance true
    (@Installer.Moves.read _ _ _ _ [1, 2] (by decide +kernel)))
  have s5 := s4.step (by decide +kernel) (.advance true (@Installer.Moves.write _ _ _ _ [1] [2]))
  have s6 := s5.step (by decide +kernel) (.advance false (@Installer.Moves.write _ _ _ _ [3] [4]))
  have s7 := s6.step (by decide +kernel) (.advance true (@Installer.Moves.write _ _ _ _ [2] []))
  have s8 := s7.step (by decide +kernel) (.advance true (.release
    (@setMode_of_namedPlace _ _ ["bin", ".codex-install-a"] stagingMode [1, 2] (by decide +kernel)
      (by decide +kernel) (by decide +kernel) artifactMode)))
  have s9 := s8.step (by decide +kernel) (.advance false (.fail (.inr (.inl ⟨_, rfl⟩))))
  have s10 := s9.step (by decide +kernel) (.advance true (.rename (rename_ok_iff.mpr
    ⟨["bin", ".codex-install-a"], .file artifactMode [1, 2], ["bin"], "tool",
      ⟨by decide +kernel, by decide +kernel, by decide +kernel, by decide⟩,
      ⟨by decide +kernel, by decide, by decide +kernel, by decide +kernel, by decide +kernel⟩,
      rfl⟩)))
  have s11 := s10.step (by decide +kernel) (.advance false (.remove
    (@unlink_of_namedPlace _ _ ["bin", ".codex-install-b"] stagingMode [3] (by decide +kernel)
      (by decide +kernel) (by decide +kernel))))
  refine ⟨_, s11, Bool.forall_bool.mpr ⟨Or.inr (Or.inl rfl), Or.inl rfl⟩, rfl, ?_⟩
  exact Sample.shown_of_pair (interleaved_installs s11)
    (Bool.forall_bool.mpr ⟨Or.inr (Or.inl rfl), Or.inl rfl⟩) rfl

/-- The path of a copy goes through a link, and another install replaces this link: the copy cannot
be removed any more by its path. -/
theorem stranded_copy : ∃ scene,
    (Sample.pairAt ⟨"/bin/tool/tool"⟩).Reached Sample.mirrored scene ∧
    (∀ i, (scene.installers i).HasEnded) ∧ scene.renamed = [true] ∧
    Sample.mirrored.lookup ["bin", ".codex-install-b"] = none ∧
    scene.files.lookup ["bin", ".codex-install-b"] = some (.file 0o600 []) := by
  have split : directoryAndName ⟨"/bin/tool/tool"⟩ = some (["bin", "tool"], "tool") := by
    decide +kernel
  have own (suffix : String) (other : stagingPrefix ++ suffix ≠ "tool") : ∀ names name,
      directoryAndName ⟨"/bin/tool/tool"⟩ = some (names, name) →
        stagingPrefix ++ suffix ≠ name := by
    intro names name split'
    obtain ⟨-, rfl⟩ := Prod.ext_iff.mp (Option.some.inj (split.symm.trans split'))
    exact other
  have parent : Path.parent? ⟨"/bin/tool/tool"⟩ = some ⟨"/bin/tool"⟩ := by decide +kernel
  have s0 : (Sample.pairAt ⟨"/bin/tool/tool"⟩).Reached Sample.mirrored _ := .start
  have s1 := s0.step (by decide +kernel) (.advance false
    (@Installer.Moves.create _ _ _ _ _ "b" ["bin", ".codex-install-b"] parent (by decide)
      (own _ (by decide)) (createFile_ok_iff.mpr ⟨⟨by decide +kernel, by decide +kernel,
        by decide +kernel⟩, rfl⟩)))
  have s2 := s1.step (by decide +kernel) (.advance true
    (@Installer.Moves.create _ _ _ _ _ "a" ["bin", ".codex-install-a"] parent (by decide)
      (own _ (by decide)) (createFile_ok_iff.mpr ⟨⟨by decide +kernel, by decide +kernel,
        by decide +kernel⟩, rfl⟩)))
  have s3 := s2.step (by decide +kernel) (.advance true
    (@Installer.Moves.read _ _ _ _ [1, 2] (by decide +kernel)))
  have s4 := s3.step (by decide +kernel) (.advance true (@Installer.Moves.write _ _ _ _ [1, 2] []))
  have s5 := s4.step (by decide +kernel) (.advance true (.release
    (@setMode_of_namedPlace _ _ ["bin", ".codex-install-a"] stagingMode [1, 2] (by decide +kernel)
      (by decide +kernel) (by decide +kernel) artifactMode)))
  have s6 := s5.step (by decide +kernel) (.advance true (.rename (rename_ok_iff.mpr
    ⟨["bin", ".codex-install-a"], .file artifactMode [1, 2], ["bin"], "tool",
      ⟨by decide +kernel, by decide +kernel, by decide +kernel, by decide⟩,
      ⟨by decide +kernel, by decide, by decide +kernel, by decide +kernel, by decide +kernel⟩,
      rfl⟩)))
  have s7 := s6.step (by decide +kernel) (.advance false (.fail (.inl rfl)))
  have s8 := s7.step (by decide +kernel) (.advance false
    (@Installer.Moves.strand _ _ _ _ .notDirectory (by decide +kernel)))
  exact ⟨_, s8, Bool.forall_bool.mpr ⟨Or.inr (Or.inr ⟨_, rfl⟩), Or.inl rfl⟩, rfl,
    by decide +kernel, by decide +kernel⟩

end SealedBuild
