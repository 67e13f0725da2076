import SealedBuild.FileSystem.Change
import SealedBuild.Proofs.FileSystem.SameTree

/-!
# Changes of single entries

A file that has been created under a path is found by that path as long as nothing but the file
itself changes. It can then be written, protected, moved and removed by its path, and when it has
been removed there is no trace of it.

Main statements: `createFile_ok_iff` and `rename_ok_iff`, which say when these calls succeed and
what they leave behind, and the lemmas of `Fresh` on a file that has just been created.
-/

namespace SealedBuild.FileSystem

variable {files before after : FileSystem} {path source destination : Path} {place old : Location}
  {name : String} {mode : Nat} {content chunk : Bytes}

theorem namedPlace_ok_iff : files.namedPlace path = .ok place ↔
    ∃ directory name, files.resolveParent path = .ok (directory, name) ∧
      ¬ (name = "." ∨ name = "..") ∧ ¬ maxNameBytes < name.utf8ByteSize ∧
      place = directory ++ [name] := by
  unfold namedPlace
  cases resolved : files.resolveParent path with
  | error error => simp
  | ok parts =>
      obtain ⟨directory, name⟩ := parts
      dsimp only
      constructor
      · intro named
        by_cases plain : name = "." ∨ name = ".."
        · simp [plain] at named
        by_cases short : maxNameBytes < name.utf8ByteSize
        · simp [plain, short] at named
        rw [if_neg plain, if_neg short] at named
        exact ⟨directory, name, rfl, plain, short, (Except.ok.inj named).symm⟩
      · rintro ⟨directory', name', same, plain, short, rfl⟩
        obtain ⟨rfl, rfl⟩ := Prod.mk.inj (Except.ok.inj same)
        rw [if_neg plain, if_neg short]

theorem ne_nil_of_namedPlace (named : files.namedPlace path = .ok place) : place ≠ [] := by
  obtain ⟨directory, name, -, -, -, rfl⟩ := namedPlace_ok_iff.mp named
  simp

/-- A path names the same place in a file system with the same directories and links. -/
theorem KeepsTree.namedPlace_ok (keeps : KeepsTree before after)
    (named : before.namedPlace path = .ok place) : after.namedPlace path = .ok place := by
  obtain ⟨directory, name, resolved, plain, short, rfl⟩ := namedPlace_ok_iff.mp named
  exact namedPlace_ok_iff.mpr
    ⟨directory, name, keeps.resolveParent_ok resolved, plain, short, rfl⟩

theorem contains_zero_of_namedPlace (named : files.namedPlace path = .ok place) :
    path.text.toList.contains (Char.ofNat 0) = false := by
  obtain ⟨directory, name, resolved, -⟩ := namedPlace_ok_iff.mp named
  obtain ⟨wellFormed, -⟩ := resolveParent_ok_iff.mp resolved
  refine Bool.eq_false_iff.mpr fun zero => ?_
  simp only [malformed?, zero, if_true] at wellFormed
  cases wellFormed

/-- A path leads to the regular file at the place that it names. -/
theorem resolve_of_namedPlace (named : files.namedPlace path = .ok place)
    (noSlash : endsInSlash path = false) (held : files.lookup place = some (.file mode content)) :
    files.resolve path = .ok place := by
  obtain ⟨directory, name, resolved, plain, short, rfl⟩ := namedPlace_ok_iff.mp named
  exact resolve_of_resolveParent resolved plain short (by simpa [endsInSlash] using noSlash) held

/-- The permission bits of a regular file are set by the path that names its place. -/
theorem setMode_of_namedPlace (named : files.namedPlace path = .ok place)
    (noSlash : endsInSlash path = false) (held : files.lookup place = some (.file mode content))
    (mode' : Nat) : files.setMode path mode' = .ok (files.put place (.file mode' content)) := by
  rw [setMode, resolve_of_namedPlace named noSlash held]
  dsimp only
  rw [held]

/-- A regular file is removed by the path that names its place. -/
theorem unlink_of_namedPlace (named : files.namedPlace path = .ok place)
    (noSlash : endsInSlash path = false) (held : files.lookup place = some (.file mode content)) :
    files.unlink path = .ok (files.erase place) := by
  simp [unlink, named, held, noSlash]

/-- A path that named the place of a regular file leads there if it still leads anywhere, provided
that no directory and no link has appeared meanwhile. -/
theorem eq_of_resolve_of_namedPlace {other : Location} (keeps : KeepsTree after before)
    (named : before.namedPlace path = .ok place) (noSlash : endsInSlash path = false)
    (held : after.lookup place = some (.file mode content))
    (resolved : after.resolve path = .ok other) : other = place := by
  obtain ⟨directory, name, parent, plain, short, rfl⟩ := namedPlace_ok_iff.mp named
  obtain ⟨wellFormed, names, split, -, -⟩ := resolveParent_ok_iff.mp parent
  have steps := steps_of_directoryAndName split (by simpa [endsInSlash] using noSlash)
  rw [resolve, wellFormed, steps] at resolved
  obtain ⟨directory', entry, walked, passes, ends⟩ :=
    (walk_ok_iff.mp resolved).of_concat plain
  have parent' : before.resolveParent path = .ok (directory', name) :=
    keeps.resolveParent_ok
      (resolveParent_ok_iff.mpr ⟨wellFormed, names, split, walked, passes.inside⟩)
  obtain rfl : directory' = directory := by simpa using parent'.symm.trans parent
  obtain rfl := Option.some.inj (held.symm.trans passes.held)
  exact ends (by simp)

/-! ### Files that are new -/

/-- A path names a place at which nothing is, so that a file can be created there. -/
structure Fresh (files : FileSystem) (path : Path) (place : Location) : Prop where
  named : files.namedPlace path = .ok place
  noSlash : endsInSlash path = false
  free : files.lookup place = none

/-- A file is created exactly under a path at whose place nothing is. -/
theorem createFile_ok_iff : files.createFile path mode = .ok (place, after) ↔
    Fresh files path place ∧ after = files.put place (.file mode []) := by
  unfold createFile
  constructor
  · intro created
    cases named : files.namedPlace path with
    | error error => simp [named] at created
    | ok place' =>
        cases slash : endsInSlash path with
        | true => simp [named, slash] at created
        | false =>
            by_cases free : files.lookup place' = none
            · obtain ⟨rfl, rfl⟩ : place' = place ∧ files.put place' (.file mode []) = after := by
                simpa [named, slash, free] using created
              exact ⟨⟨named, slash, free⟩, rfl⟩
            · simp [named, slash, free] at created
  · rintro ⟨⟨named, noSlash, free⟩, rfl⟩
    simp [named, noSlash, free]

section Fresh

variable (fresh : Fresh files path place)
include fresh

theorem Fresh.ne_nil : place ≠ [] := ne_nil_of_namedPlace fresh.named

/-- A new file changes neither directories nor links. -/
theorem Fresh.sameTree (mode : Nat) (content : Bytes) :
    SameTree files (files.put place (.file mode content)) :=
  sameTree_put fresh.ne_nil (Or.inl fresh.free) mode content

theorem Fresh.namedPlace_put : (files.put place (.file mode content)).namedPlace path = .ok place :=
  (fresh.sameTree mode content).keepsTree.namedPlace_ok fresh.named

theorem Fresh.lookup_put :
    (files.put place (.file mode content)).lookup place = some (.file mode content) :=
  lookup_put_self files fresh.ne_nil _

/-- A new file takes nothing away. -/
theorem Fresh.extends_put (mode : Nat) (content : Bytes) :
    Extends files (files.put place (.file mode content)) := by
  refine ⟨rfl, rfl, @fun there entry held => ?_⟩
  have apart : there ≠ place := by
    rintro rfl
    rw [fresh.free] at held
    cases held
  rw [FileSystem.lookup_put files fresh.ne_nil, if_neg apart, held]

theorem Fresh.append_put : (files.put place (.file mode content)).append place chunk =
    files.put place (.file mode (content ++ chunk)) := by
  rw [append, fresh.lookup_put]
  exact put_put ..

/-- The permission bits of a new file are set by its path. -/
theorem Fresh.setMode_put (mode' : Nat) :
    (files.put place (.file mode content)).setMode path mode' =
      .ok (files.put place (.file mode' content)) := by
  rw [setMode_of_namedPlace fresh.namedPlace_put fresh.noSlash fresh.lookup_put]
  exact congrArg Except.ok (put_put ..)

/-- A new file that is removed by its path leaves no trace. -/
theorem Fresh.unlink_put : (files.put place (.file mode content)).unlink path = .ok files := by
  rw [unlink_of_namedPlace fresh.namedPlace_put fresh.noSlash fresh.lookup_put,
    erase_put_of_lookup_eq_none fresh.ne_nil fresh.free]

end Fresh

/-! ### Renames -/

/-- A path can receive a file: the directory that it lies in is found, and its last name stands for
an entry that a file can replace. -/
structure Receives (files : FileSystem) (path : Path) (directory : Location) (name : String) :
    Prop where
  resolved : files.resolveParent path = .ok (directory, name)
  plain : ¬ (name = "." ∨ name = "..")
  short : ¬ maxNameBytes < name.utf8ByteSize
  noSlash : endsInSlash path = false
  notDirectory : files.isDirectoryAt (directory ++ [name]) = false

theorem Receives.namedPlace {directory : Location}
    (receives : Receives files path directory name) :
    files.namedPlace path = .ok (directory ++ [name]) :=
  namedPlace_ok_iff.mpr ⟨directory, name, receives.resolved, receives.plain, receives.short, rfl⟩

/-- File systems with the same directories and links receive files at the same paths. -/
theorem SameTree.receives {parent : Location} {name : String} (same : SameTree files after)
    (h : Receives files destination parent name) : Receives after destination parent name := by
  refine ⟨same.keepsTree.resolveParent_ok h.resolved, h.plain, h.short, h.noSlash, ?_⟩
  refine Bool.eq_false_iff.mpr fun inner => ?_
  simpa [h.notDirectory] using same.symm.keepsTree.isDirectoryAt inner

/-- A path names a file or link that can be moved. -/
structure Movable (files : FileSystem) (path : Path) (place : Location) (entry : Entry) :
    Prop where
  named : files.namedPlace path = .ok place
  noSlash : endsInSlash path = false
  held : files.lookup place = some entry
  notDirectory : entry ≠ .directory

/-- A rename moves one file or link to a path that can receive it. -/
theorem rename_ok_iff : files.rename source destination = .ok after ↔
    ∃ old entry parent name, Movable files source old entry ∧
      Receives files destination parent name ∧
      after = (files.erase old).put (parent ++ [name]) entry := by
  unfold rename
  constructor
  · intro moved
    split at moved
    · cases moved
    cases named : files.namedPlace source with
    | error error => simp [named] at moved
    | ok old =>
    cases named' : files.namedPlace destination with
    | error error => simp [named, named'] at moved
    | ok new =>
    cases held : files.lookup old with
    | none => simp [named, named', held] at moved
    | some entry =>
    obtain ⟨parent, name, resolved, plain, short, rfl⟩ := namedPlace_ok_iff.mp named'
    by_cases slash : endsInSlash source = true ∨ endsInSlash destination = true
    · cases entry <;> simp [named, named', held, slash] at moved
    by_cases inner : files.isDirectoryAt (parent ++ [name]) = true
    · cases entry <;> simp [named, named', held, slash, inner] at moved
    have notDirectory : entry ≠ .directory := by
      rintro rfl
      simp [named, named', held] at moved
    have replaced : after = (files.erase old).put (parent ++ [name]) entry := by
      cases entry with
      | directory => exact absurd rfl notDirectory
      | file mode content => simpa [named, named', held, slash, inner] using moved.symm
      | link target => simpa [named, named', held, slash, inner] using moved.symm
    obtain ⟨noSlash, noSlash'⟩ := not_or.mp slash
    exact ⟨old, entry, parent, name,
      ⟨named, Bool.eq_false_iff.mpr noSlash, held, notDirectory⟩,
      ⟨resolved, plain, short, Bool.eq_false_iff.mpr noSlash', Bool.eq_false_iff.mpr inner⟩,
      replaced⟩
  · rintro ⟨old, entry, parent, name, movable, receives, rfl⟩
    have noZero : (source.text ++ destination.text).toList.contains (Char.ofNat 0) = false := by
      have left := contains_zero_of_namedPlace movable.named
      have right := contains_zero_of_namedPlace receives.namedPlace
      simp only [List.contains_eq_mem, decide_eq_false_iff_not] at left right ⊢
      simp [left, right]
    have held := movable.held
    rw [noZero]
    cases entry with
    | directory => exact absurd rfl movable.notDirectory
    | file mode content =>
        simp [movable.named, receives.namedPlace, held, movable.noSlash, receives.noSlash,
          receives.notDirectory]
    | link target =>
        simp [movable.named, receives.namedPlace, held, movable.noSlash, receives.noSlash,
          receives.notDirectory]

/-- A file is placed at a path: the directory that the path lies in holds it under the last name of
the path, in place of what was there but a directory, and nothing else has changed. -/
structure Placed (before after : FileSystem) (path : Path) (mode : Nat) (content : Bytes)
    (directory : Location) (name : String) : Prop extends Receives before path directory name where
  placed : after = before.put (directory ++ [name]) (.file mode content)

/-- Renaming a new file places it. -/
theorem Fresh.rename_put_ok_iff (fresh : Fresh files path place) :
    (files.put place (.file mode content)).rename path destination = .ok after ↔
      ∃ parent name, Placed files after destination mode content parent name := by
  have same := fresh.sameTree mode content
  have gone := erase_put_of_lookup_eq_none fresh.ne_nil fresh.free (.file mode content)
  rw [rename_ok_iff]
  constructor
  · rintro ⟨old, entry, parent, name, movable, receives, rfl⟩
    obtain rfl : place = old := Except.ok.inj (fresh.namedPlace_put.symm.trans movable.named)
    obtain rfl := Option.some.inj (fresh.lookup_put.symm.trans movable.held)
    exact ⟨parent, name, same.symm.receives receives, by rw [gone]⟩
  · rintro ⟨parent, name, placed⟩
    refine ⟨place, _, parent, name, ⟨fresh.namedPlace_put, fresh.noSlash, fresh.lookup_put, ?_⟩,
      same.receives placed.toReceives, by rw [gone, placed.placed]⟩
    simp

namespace Placed

variable {parent : Location}

/-- The entry at the path is the file. -/
theorem lookup_self (h : Placed before after path mode content parent name) :
    after.lookup (parent ++ [name]) = some (.file mode content) := by
  rw [h.placed, lookup_put_self before (by simp)]

/-- Every other entry is as before. -/
theorem lookup_of_ne (h : Placed before after path mode content parent name) {place : Location}
    (hp : place ≠ parent ++ [name]) : after.lookup place = before.lookup place := by
  rw [h.placed, lookup_put before (by simp), if_neg hp]

/-- The path leads to the file if its directory can be found without the entry that was replaced. -/
theorem entryAt (h : Placed before after path mode content parent name)
    (findable : (before.erase (parent ++ [name])).resolveParent path = .ok (parent, name)) :
    after.entryAt path = .ok (.file mode content) := by
  have there : parent ++ [name] ≠ [] := by simp
  have free : (before.erase (parent ++ [name])).lookup (parent ++ [name]) = none := by
    simp [lookup_erase before there]
  have same : SameTree (before.erase (parent ++ [name])) after := by
    rw [h.placed, ← put_erase]
    exact sameTree_put there (Or.inl free) mode content
  refine entryAt_of_resolveParent (same.keepsTree.resolveParent_ok findable) h.plain h.short ?_
    h.lookup_self
  simpa [endsInSlash] using h.noSlash

/-- The directory can be found without the entry that was replaced unless that entry was a link. -/
theorem findable (h : Placed before after path mode content parent name)
    (noLink : ∀ target, before.lookup (parent ++ [name]) ≠ some (.link target)) :
    (before.erase (parent ++ [name])).resolveParent path = .ok (parent, name) := by
  have leaf : before.IsLeaf (parent ++ [name]) := by
    cases held : before.lookup (parent ++ [name]) with
    | none => exact Or.inl held
    | some entry =>
        cases entry with
        | directory => simpa [isDirectoryAt, held] using h.notDirectory
        | file old bytes => exact Or.inr ⟨old, bytes, held⟩
        | link target => exact absurd held (noLink target)
  exact (sameTree_erase (by simp) leaf).keepsTree.resolveParent_ok h.resolved

end Placed

end SealedBuild.FileSystem
