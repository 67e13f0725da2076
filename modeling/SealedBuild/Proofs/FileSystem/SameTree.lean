import SealedBuild.Proofs.FileSystem.Walk

/-!
# File systems that differ in regular files only

No walk leads on from a regular file or from a place where nothing is. A walk of one file system is
therefore a walk of every other one that has its directories and links, provided that the two agree
at the place where the walk ends.

Main statements: `KeepsTree.entryAt_ok` and `KeepsTree.resolveParent_ok` carry the outcome of a
resolution from one such file system to the other, and `Extends.entryAt_ok` carries it to a file
system with any further entries.
-/

namespace SealedBuild.FileSystem

variable {files before after : FileSystem} {follow : Bool} {links : Nat} {place here : Location}
  {names : List String} {name : String} {entry : Entry}

/-- Nothing or a regular file is at a place, so that no walk leads on from there. -/
def IsLeaf (files : FileSystem) (place : Location) : Prop :=
  files.lookup place = none ∨ ∃ mode content, files.lookup place = some (.file mode content)

/-- Two file systems have the same directories and links. -/
structure SameTree (before after : FileSystem) : Prop where
  workingDirectory : after.workingDirectory = before.workingDirectory
  lookup : ∀ place, after.lookup place = before.lookup place ∨
    (before.IsLeaf place ∧ after.IsLeaf place)

theorem SameTree.symm (same : SameTree before after) : SameTree after before := by
  refine ⟨same.workingDirectory.symm, fun place => ?_⟩
  rcases same.lookup place with agree | ⟨left, right⟩
  · exact Or.inl agree.symm
  · exact Or.inr ⟨right, left⟩

/-- A regular file in place of a leaf leaves the directories and links as they are. -/
theorem sameTree_put (hp : place ≠ []) (leaf : files.IsLeaf place) (mode : Nat)
    (content : Bytes) : SameTree files (files.put place (.file mode content)) := by
  refine ⟨rfl, fun other => ?_⟩
  by_cases ho : other = place
  · subst ho
    exact Or.inr ⟨leaf, Or.inr ⟨mode, content, by simp [lookup_put files hp]⟩⟩
  · exact Or.inl (by simp [lookup_put files hp, ho])

/-- A leaf that is removed leaves the directories and links as they are. -/
theorem sameTree_erase (hp : place ≠ []) (leaf : files.IsLeaf place) :
    SameTree files (files.erase place) := by
  refine ⟨rfl, fun other => ?_⟩
  by_cases ho : other = place
  · subst ho
    exact Or.inr ⟨leaf, Or.inl (by simp [lookup_erase files hp])⟩
  · exact Or.inl (by simp [lookup_erase files hp, ho])

/-- The directories and links of one file system are in another. -/
structure KeepsTree (before after : FileSystem) : Prop where
  workingDirectory : after.workingDirectory = before.workingDirectory
  lookup : ∀ {place entry}, before.lookup place = some entry →
    (∀ mode content, entry ≠ .file mode content) → after.lookup place = some entry

theorem SameTree.keepsTree (same : SameTree before after) : KeepsTree before after := by
  refine ⟨same.workingDirectory, @fun place entry held solid => ?_⟩
  rcases same.lookup place with agree | ⟨empty | ⟨mode, content, file⟩, -⟩
  · rw [agree, held]
  · simp [held] at empty
  · exact absurd (Option.some.inj (held.symm.trans file)) (solid mode content)

theorem KeepsTree.isDirectoryAt (keeps : KeepsTree before after)
    (h : before.isDirectoryAt place = true) : after.isDirectoryAt place = true := by
  rw [isDirectoryAt_iff] at h ⊢
  exact keeps.lookup h (by simp)

/-- A name that leads to a directory or link leads to it in the other file system too. -/
theorem KeepsTree.passes (keeps : KeepsTree before after) (passes : Passes before here name entry)
    (solid : ∀ mode content, entry ≠ .file mode content) : Passes after here name entry :=
  ⟨keeps.isDirectoryAt passes.inside, passes.plain, passes.short, keeps.lookup passes.held solid⟩

/-- A walk that comes to a regular file ends there. -/
theorem Walks.end_of_file {mode : Nat} {content : Bytes}
    (held : files.lookup here = some (.file mode content))
    (walked : Walks files follow links here names place) : names = [] ∧ place = here := by
  have outside : ¬ files.isDirectoryAt here = true := by simp [FileSystem.isDirectoryAt, held]
  cases walked with
  | done => exact ⟨rfl, rfl⟩
  | stay inside more => exact absurd inside outside
  | up inside more => exact absurd inside outside
  | down passes solid more => exact absurd passes.inside outside
  | stop passes kept => exact absurd passes.inside outside
  | link passes goes more => exact absurd passes.inside outside

/-- A walk goes the same way in the other file system if the two agree where it ends. -/
theorem KeepsTree.walks (keeps : KeepsTree before after)
    (agree : after.lookup place = before.lookup place)
    (walked : Walks before follow links here names place) :
    Walks after follow links here names place := by
  induction walked with
  | done => exact .done
  | stay inside more ih => exact .stay (keeps.isDirectoryAt inside) (ih agree)
  | up inside more ih => exact .up (keeps.isDirectoryAt inside) (ih agree)
  | @down links here place name rest entry passes solid more ih =>
      cases entry with
      | directory => exact .down (keeps.passes passes (by simp)) solid (ih agree)
      | link target => exact absurd rfl (solid target)
      | file mode content =>
          obtain ⟨rfl, rfl⟩ := more.end_of_file passes.held
          have there : Passes after here name (.file mode content) :=
            ⟨keeps.isDirectoryAt passes.inside, passes.plain, passes.short,
              agree.trans passes.held⟩
          exact .down there (by simp) .done
  | stop passes kept => exact .stop (keeps.passes passes (by simp)) kept
  | link passes goes more ih => exact .link (keeps.passes passes (by simp)) goes (ih agree)

theorem KeepsTree.startOf (keeps : KeepsTree before after) (path : Path) :
    after.startOf path = before.startOf path := by
  simp only [FileSystem.startOf, keeps.workingDirectory]

/-- A path that leads to something leads to the same in the other file system if the two agree
there. -/
theorem KeepsTree.entryAt_ok (keeps : KeepsTree before after) {path : Path}
    (found : before.entryAt path = .ok entry)
    (agree : ∀ place, before.lookup place = some entry → after.lookup place = some entry) :
    after.entryAt path = .ok entry := by
  obtain ⟨wellFormed, place, walked, held⟩ := entryAt_ok_iff.mp found
  have there := agree place held
  refine entryAt_ok_iff.mpr ⟨wellFormed, place, ?_, there⟩
  rw [keeps.startOf]
  exact keeps.walks (there.trans held.symm) walked

/-- The directory that a path lies in is the same in the other file system. -/
theorem KeepsTree.resolveParent_ok (keeps : KeepsTree before after) {path : Path}
    {directory : Location} (found : before.resolveParent path = .ok (directory, name)) :
    after.resolveParent path = .ok (directory, name) := by
  obtain ⟨wellFormed, names, split, walked, inside⟩ := resolveParent_ok_iff.mp found
  have inside' := keeps.isDirectoryAt inside
  have agree : after.lookup directory = before.lookup directory := by
    rw [isDirectoryAt_iff.mp inside, isDirectoryAt_iff.mp inside']
  refine resolveParent_ok_iff.mpr ⟨wellFormed, names, split, ?_, inside'⟩
  rw [keeps.startOf]
  exact keeps.walks agree walked

/-! ### Further entries -/

/-- All that one file system holds is in another one, and the program may read it just as well. -/
structure Extends (before after : FileSystem) : Prop where
  workingDirectory : after.workingDirectory = before.workingDirectory
  access : after.access = before.access
  lookup : ∀ {place entry}, before.lookup place = some entry → after.lookup place = some entry

theorem Extends.keepsTree (more : Extends before after) : KeepsTree before after :=
  ⟨more.workingDirectory, fun held _ => more.lookup held⟩

/-- A path that leads to something still leads to it when there are further entries. -/
theorem Extends.entryAt_ok (more : Extends before after) {path : Path}
    (found : before.entryAt path = .ok entry) : after.entryAt path = .ok entry :=
  more.keepsTree.entryAt_ok found fun _ => more.lookup

/-- What is read through such a path is the same when there are further entries. -/
theorem Extends.readBytes_eq (more : Extends before after) {path : Path}
    (found : before.entryAt path = .ok entry) : after.readBytes path = before.readBytes path := by
  obtain ⟨wellFormed, place, walked, held⟩ := entryAt_ok_iff.mp found
  have held' := more.lookup held
  have walked' := more.keepsTree.walks (held'.trans held.symm) walked
  rw [← more.keepsTree.startOf] at walked'
  rw [readBytes, readBytes, resolve, resolve, wellFormed]
  simp only [walk_ok_iff.mpr walked, walk_ok_iff.mpr walked', held, held', more.access]

/-- An entry at a place comes on top of what is held without it. -/
theorem extends_put (files : FileSystem) (place : Location) (entry : Entry) :
    Extends (files.erase place) (files.put place entry) := by
  refine ⟨rfl, rfl, @fun other held there => ?_⟩
  by_cases top : other = []
  · subst top
    simpa [FileSystem.lookup] using there
  · rw [FileSystem.lookup, if_neg top] at there ⊢
    rw [erase, find_without] at there
    by_cases same : other = place
    · simp [same] at there
    · rw [if_neg same] at there
      rw [put, find, if_neg (Ne.symm same), find_without, if_neg same, there]

end SealedBuild.FileSystem
