import SealedBuild.Proofs.FileSystem.Canonical
import SealedBuild.Proofs.Outcome
import SealedBuild.Request

/-!
# Roots of requests

Both roots of a request are canonical paths of directories. So they depend on the directories that
the given paths lead to and not on how these paths are spelled, and a request can be made again from
its own roots. A path is refused as a root for what it leads to, or since it cannot be traced: then
some entry on the way has a path that the system does not take.

Main statements: `make_of_resolve`, `make_again`, `make_error_iff` and `sourceRootOfProgram_eq`,
which `roots_of_request` puts together.
-/

namespace SealedBuild.Request

open FileSystem (LeadsTo IsShort IsTree isDirectoryAt_iff)

variable {files : FileSystem} {path canonical source target program : Path} {target? : Option Path}
  {place sourcePlace targetPlace : Location} {request : Request} {failure : Failure}

/-! ### Directories -/

/-- An existing directory is one that has a canonical path. -/
theorem existingDirectory_ok_iff : existingDirectory files path = .ok canonical ↔
    files.isDirectory path = true ∧ files.canonical path = .ok canonical := by
  rw [FileSystem.isDirectory_iff]
  unfold existingDirectory
  cases found : files.entryAt path with
  | error error => simp
  | ok entry =>
      cases entry with
      | directory => cases files.canonical path <;> simp
      | file mode content => simp
      | link target => simp

/-- A path is refused as a root with a failure. -/
inductive Refused (files : FileSystem) (path : Path) : Failure → Prop
  | missing {error : OsError} (found : files.entryAt path = .error error) :
      Refused files path (.path path (missingReason error))
  | other {entry : Entry} (found : files.entryAt path = .ok entry) (solid : entry ≠ .directory) :
      Refused files path (.path path "is not a directory")
  /-- A directory without a canonical path. -/
  | untraceable (directory : files.entryAt path = .ok .directory)
      (long : files.isTraceable path = false) :
      Refused files path (.io OsError.nameTooLong.message)

theorem existingDirectory_error_iff :
    existingDirectory files path = .error failure ↔ Refused files path failure := by
  unfold existingDirectory
  constructor
  · intro refused
    cases found : files.entryAt path with
    | error error =>
        rw [found] at refused
        obtain rfl := Except.error.inj refused
        exact .missing found
    | ok entry =>
        rw [found] at refused
        cases entry with
        | directory =>
            obtain ⟨place, -, leads, -⟩ := FileSystem.exists_leadsTo_of_entryAt found
            rw [FileSystem.canonical_of_leadsTo leads] at refused
            cases traced : files.isTraceable path with
            | true =>
                rw [traced] at refused
                cases refused
            | false =>
                rw [traced] at refused
                obtain rfl := Except.error.inj refused
                exact .untraceable found traced
        | file mode content =>
            obtain rfl := Except.error.inj refused
            exact .other found (by simp)
        | link target =>
            obtain rfl := Except.error.inj refused
            exact .other found (by simp)
  · intro refused
    cases refused with
    | missing found => rw [found]
    | @other entry found solid =>
        rw [found]
        cases entry with
        | directory => exact absurd rfl solid
        | file mode content => rfl
        | link target => rfl
    | untraceable directory long =>
        obtain ⟨place, -, leads, -⟩ := FileSystem.exists_leadsTo_of_entryAt directory
        rw [directory, FileSystem.canonical_of_leadsTo leads, long]
        rfl

/-- The canonical path of a directory depends on the place that it is at. -/
theorem existingDirectory_of_resolve (resolved : files.resolve path = .ok place)
    (inside : files.isDirectoryAt place = true) (traceable : files.isTraceable path = true) :
    existingDirectory files path = .ok place.toPath := by
  have leads := (FileSystem.resolve_ok_iff.mp resolved).1
  have found := FileSystem.entryAt_of_resolve resolved (isDirectoryAt_iff.mp inside)
  rw [existingDirectory_ok_iff, FileSystem.isDirectory_iff, found,
    FileSystem.canonical_of_leadsTo leads, if_pos traceable]
  exact ⟨rfl, rfl⟩

/-- The path is the one of a directory that is reached through directories only, name by name. -/
structure IsRootAt (files : FileSystem) (root : Path) (place : Location) : Prop where
  spelled : root = place.toPath
  absolute : root.isAbsolute = true
  components_eq : root.components = .root :: place.map .name
  ordinary : ∀ name ∈ place, Path.IsOrdinary name
  unlinked : ∀ above, above <+: place → files.lookup above = some .directory

theorem isRootAt_toPath (tree : files.IsTree) (inside : files.isDirectoryAt place = true) :
    IsRootAt files place.toPath place := by
  have held := isDirectoryAt_iff.mp inside
  have ordinary : ∀ name ∈ place, Path.IsOrdinary name := fun name member =>
    (tree.named place _ held name member).ordinary
  refine ⟨rfl, place.isAbsolute_toPath, Location.components_toPath ordinary, ordinary, ?_⟩
  intro above prefixed
  by_cases same : above = place
  · rw [same]
    exact held
  · exact isDirectoryAt_iff.mp (tree.rooted held above prefixed same)

/-! ### Requests -/

theorem make_ok_iff : make files target? source = .ok request ↔ ∃ target, target? = some target ∧
    existingDirectory files source = .ok request.sourceRoot ∧
      existingDirectory files target = .ok request.targetRoot := by
  constructor
  · intro made
    cases target? with
    | none => cases made
    | some target =>
        obtain ⟨_, ⟨⟩, made⟩ := ok_of_bind made
        obtain ⟨sourceRoot, source_eq, made⟩ := ok_of_bind made
        obtain ⟨targetRoot, target_eq, made⟩ := ok_of_bind made
        obtain rfl := Except.ok.inj made
        exact ⟨target, rfl, source_eq, target_eq⟩
  · rintro ⟨target, rfl, source_eq, target_eq⟩
    exact bind_of_ok rfl (bind_of_ok source_eq (bind_of_ok target_eq rfl))

/-- The source root is refused before the target root is looked at. -/
theorem make_error_iff : make files (some target) source = .error failure ↔
    Refused files source failure ∨
      (∃ root, existingDirectory files source = .ok root) ∧ Refused files target failure := by
  simp only [← existingDirectory_error_iff]
  constructor
  · intro failed
    rcases error_of_bind failed with failed | ⟨_, ⟨⟩, failed⟩
    · cases failed
    · rcases error_of_bind failed with failed | ⟨root, source_eq, failed⟩
      · exact .inl failed
      · rcases error_of_bind failed with failed | ⟨_, -, failed⟩
        · exact .inr ⟨⟨root, source_eq⟩, failed⟩
        · cases failed
  · rintro (failed | ⟨⟨root, source_eq⟩, failed⟩)
    · refine bind_of_ok rfl ?_
      rw [failed]
      rfl
    · refine bind_of_ok rfl (bind_of_ok source_eq ?_)
      rw [failed]
      rfl

/-- A request depends on the directories that the paths lead to. -/
theorem make_of_resolve (source_eq : files.resolve source = .ok sourcePlace)
    (source_inside : files.isDirectoryAt sourcePlace = true)
    (source_traceable : files.isTraceable source = true)
    (target_eq : files.resolve target = .ok targetPlace)
    (target_inside : files.isDirectoryAt targetPlace = true)
    (target_traceable : files.isTraceable target = true) :
    make files (some target) source = .ok ⟨sourcePlace.toPath, targetPlace.toPath⟩ :=
  make_ok_iff.mpr ⟨target, rfl,
    existingDirectory_of_resolve source_eq source_inside source_traceable,
    existingDirectory_of_resolve target_eq target_inside target_traceable⟩

/-- A root is the path of a directory. -/
theorem exists_place_of_existingDirectory
    (accepted : existingDirectory files path = .ok canonical) :
    ∃ place, files.LeadsTo path place ∧ files.isTraceable path = true ∧
      files.isDirectoryAt place = true ∧ canonical = place.toPath := by
  obtain ⟨directory, named⟩ := existingDirectory_ok_iff.mp accepted
  obtain ⟨place, leads, traceable, rfl⟩ := FileSystem.canonical_ok_iff.mp named
  obtain ⟨other, -, leads', held⟩ :=
    FileSystem.exists_leadsTo_of_entryAt (FileSystem.isDirectory_iff.mp directory)
  obtain rfl := leads.unique leads'
  exact ⟨place, leads, traceable, isDirectoryAt_iff.mpr held, rfl⟩

/-- A directory is a root again under its canonical path, if the system takes that. -/
theorem existingDirectory_toPath (tree : files.IsTree) (inside : files.isDirectoryAt place = true)
    (short : IsShort place) : existingDirectory files place.toPath = .ok place.toPath := by
  have solid := FileSystem.isSolid_of_isDirectoryAt inside
  exact existingDirectory_of_resolve
    (FileSystem.resolve_ok_iff.mpr ⟨FileSystem.leadsTo_toPath tree solid, short⟩) inside
    (FileSystem.isTraceable_toPath tree solid short)

/-- A request is made again from its own roots. -/
theorem make_again (tree : files.IsTree) (working : IsShort files.workingDirectory)
    (made : make files target? source = .ok request) :
    make files (some request.targetRoot) request.sourceRoot = .ok request := by
  obtain ⟨target, -, source_eq, target_eq⟩ := make_ok_iff.mp made
  have again {path canonical : Path} (accepted : existingDirectory files path = .ok canonical) :
      existingDirectory files canonical = .ok canonical := by
    obtain ⟨place, leads, traceable, inside, rfl⟩ := exists_place_of_existingDirectory accepted
    exact existingDirectory_toPath tree inside (leads.isShort traceable working)
  exact make_ok_iff.mpr ⟨_, rfl, again source_eq, again target_eq⟩

/-! ### The source root of a program -/

/-- The source root of a program is two levels above the place that the path of the program leads
to. -/
theorem sourceRootOfProgram_eq (tree : files.IsTree) (leads : files.LeadsTo program place)
    (traceable : files.isTraceable program = true) : sourceRootOfProgram files program =
      if 2 ≤ place.length then .ok (Location.toPath place.dropLast.dropLast)
      else .error (.path place.toPath "program has no grandparent directory") := by
  obtain ⟨entry, held, -⟩ := leads.isSolid tree
  have ordinary : ∀ name ∈ place, Path.IsOrdinary name := fun name member =>
    (tree.named place entry held name member).ordinary
  rw [sourceRootOfProgram, FileSystem.canonical_of_leadsTo leads, if_pos traceable]
  clear leads held
  -- One case for each of the last two names that may be missing.
  rcases List.eq_nil_or_concat place with rfl | ⟨directory, name, rfl⟩
  · rfl
  · rw [List.concat_eq_append] at ordinary ⊢
    dsimp only
    rw [Location.parent?_toPath_concat ordinary, Option.bind_some]
    have ordinary' : ∀ other ∈ directory, Path.IsOrdinary other := fun other member =>
      ordinary other (List.mem_append_left _ member)
    rcases List.eq_nil_or_concat directory with rfl | ⟨root, name', rfl⟩
    · rfl
    · rw [List.concat_eq_append] at ordinary' ⊢
      rw [Location.parent?_toPath_concat ordinary', if_pos (by simp), List.dropLast_concat,
        List.dropLast_concat]

theorem exists_sourceRootOfProgram_iff (tree : files.IsTree) :
    (∃ root, sourceRootOfProgram files program = .ok root) ↔
      ∃ place, files.LeadsTo program place ∧ files.isTraceable program = true ∧
        2 ≤ place.length := by
  constructor
  · rintro ⟨root, found⟩
    cases named : files.canonical program with
    | error error =>
        rw [sourceRootOfProgram, named] at found
        cases found
    | ok canonical =>
        obtain ⟨place, leads, traceable, -⟩ := FileSystem.canonical_ok_iff.mp named
        rw [sourceRootOfProgram_eq tree leads traceable] at found
        split at found
        · next deep => exact ⟨place, leads, traceable, deep⟩
        · cases found
  · rintro ⟨place, leads, traceable, deep⟩
    exact ⟨_, by rw [sourceRootOfProgram_eq tree leads traceable, if_pos deep]⟩

/-- The roots of a request are paths of directories without links or dots, and the request is made
again from them. It depends on the directories that the given paths lead to only. If there is none,
then the target is missing, or the source root is refused, or else the target root; a directory is
refused only if it cannot be traced. The source root of a program likewise depends on where the path
of the program leads: it is two levels above, and missing only if that place is not so deep or is
not found. -/
theorem roots_of_requests (tree : files.IsTree) :
    (∀ target? source request, make files target? source = .ok request →
      (∃ place, IsRootAt files request.sourceRoot place) ∧
      (∃ place, IsRootAt files request.targetRoot place) ∧
      (IsShort files.workingDirectory →
        make files (some request.targetRoot) request.sourceRoot = .ok request)) ∧
    (∀ source target sourcePlace targetPlace, files.resolve source = .ok sourcePlace →
      files.resolve target = .ok targetPlace → files.isDirectoryAt sourcePlace = true →
      files.isDirectoryAt targetPlace = true → files.isTraceable source = true →
      files.isTraceable target = true →
      make files (some target) source = .ok ⟨sourcePlace.toPath, targetPlace.toPath⟩) ∧
    (∀ source, make files none source =
      .error (.usage "missing required argument <TARGET_ROOT>")) ∧
    (∀ source target failure, make files (some target) source = .error failure ↔
      Refused files source failure ∨
        (∃ root, existingDirectory files source = .ok root) ∧ Refused files target failure) ∧
    (∀ program place, files.LeadsTo program place → files.isTraceable program = true →
      files.canonical program = .ok place.toPath ∧
      sourceRootOfProgram files program =
        if 2 ≤ place.length then .ok (Location.toPath place.dropLast.dropLast)
        else .error (.path place.toPath "program has no grandparent directory")) ∧
    (∀ program, (∃ failure, sourceRootOfProgram files program = .error failure) ↔
      ¬ ∃ place, files.LeadsTo program place ∧ files.isTraceable program = true ∧
        2 ≤ place.length) := by
  refine ⟨?accepted, ?resolved, fun _ => rfl, fun _ _ _ => make_error_iff, ?named, ?missing⟩
  case accepted =>
    intro target? source request made
    have root {path canonical : Path} (accepted : existingDirectory files path = .ok canonical) :
        ∃ place, IsRootAt files canonical place := by
      obtain ⟨place, -, -, inside, rfl⟩ := exists_place_of_existingDirectory accepted
      exact ⟨place, isRootAt_toPath tree inside⟩
    obtain ⟨target, -, source_eq, target_eq⟩ := make_ok_iff.mp made
    exact ⟨root source_eq, root target_eq, fun working => make_again tree working made⟩
  case resolved =>
    intro source target sourcePlace targetPlace source_eq target_eq source_inside target_inside
      source_traceable target_traceable
    exact make_of_resolve source_eq source_inside source_traceable target_eq target_inside
      target_traceable
  case named =>
    intro program place leads traceable
    refine ⟨?_, sourceRootOfProgram_eq tree leads traceable⟩
    rw [FileSystem.canonical_of_leadsTo leads, if_pos traceable]
  case missing =>
    intro program
    rw [← exists_sourceRootOfProgram_iff tree]
    cases sourceRootOfProgram files program with
    | error failure => simp
    | ok root => simp

end SealedBuild.Request

namespace SealedBuild.Sample

/-- A source tree with a program, a link to the tree, and a target tree. -/
def linkedTree : FileSystem where
  entries := [(["data"], .directory), (["data", "repo"], .directory),
    (["data", "repo", "scripts"], .directory),
    (["data", "repo", "scripts", "build-codex"], .file 0o755 []),
    (["home"], .directory), (["home", "repo"], .link "../data/repo"), (["platform"], .directory)]
  workingDirectory := ["home"]

theorem linkedTree_isTree : linkedTree.IsTree :=
  .of_entries (by decide +kernel) (by decide +kernel) (by decide +kernel)

end SealedBuild.Sample

namespace SealedBuild.Request

open Sample (linkedTree linkedTree_isTree)

/-- The source tree is the same through a link and back up again, and it is the one that the program
in it belongs to. -/
theorem roots_of_linked_tree :
    make linkedTree (some ⟨"/platform/."⟩) ⟨"repo/scripts/.."⟩ =
      .ok ⟨⟨"/data/repo"⟩, ⟨"/platform"⟩⟩ ∧
    make linkedTree (some ⟨"../platform"⟩) ⟨"/data//repo/"⟩ =
      .ok ⟨⟨"/data/repo"⟩, ⟨"/platform"⟩⟩ ∧
    sourceRootOfProgram linkedTree ⟨"repo/scripts/build-codex"⟩ = .ok ⟨"/data/repo"⟩ := by
  obtain ⟨-, resolved, -, -, named, -⟩ := roots_of_requests linkedTree_isTree
  have resolves (path : Path) (place : Location)
      (found : (linkedTree.resolve path).toOption = some place) :
      linkedTree.resolve path = .ok place := eq_ok_of_toOption found
  refine ⟨?_, ?_, ?_⟩
  · exact resolved _ _ ["data", "repo"] ["platform"] (resolves _ _ (by decide +kernel))
      (resolves _ _ (by decide +kernel)) (by decide +kernel) (by decide +kernel)
      (by decide +kernel) (by decide +kernel)
  · exact resolved _ _ ["data", "repo"] ["platform"] (resolves _ _ (by decide +kernel))
      (resolves _ _ (by decide +kernel)) (by decide +kernel) (by decide +kernel)
      (by decide +kernel) (by decide +kernel)
  · have leads := FileSystem.resolve_ok_iff.mp (resolves ⟨"repo/scripts/build-codex"⟩
      ["data", "repo", "scripts", "build-codex"] (by decide +kernel))
    exact (named _ _ leads.1 (by decide +kernel)).2

end SealedBuild.Request

/-! ### A directory that is too deep

Names may lead to a directory whose absolute path is too long for the system, since a link can make
the path that is given shorter. Such a directory has no canonical path. -/

namespace SealedBuild.Sample

open FileSystem (IsEntryName Passes)

variable {name : String} {depth reach : Nat}

/-- Directories below each other that all have one name, with a link some of the way down. -/
def deepTree (name : String) (depth reach : Nat) : FileSystem where
  entries := (["shortcut"], .link ("/".intercalate (List.replicate reach name))) ::
    (List.range depth).map fun k => (List.replicate (k + 1) name, .directory)
  workingDirectory := []

/-- The path that goes through the link and down. -/
def deepPath (name : String) (more : Nat) : Path :=
  ⟨"/".intercalate ("shortcut" :: List.replicate more name)⟩

theorem mem_deepTree_iff {place : Location} {entry : Entry} :
    (place, entry) ∈ (deepTree name depth reach).entries ↔
      (place = ["shortcut"] ∧ entry = .link ("/".intercalate (List.replicate reach name))) ∨
        ∃ k < depth, place = List.replicate (k + 1) name ∧ entry = .directory := by
  simp only [deepTree, List.mem_cons, Prod.mk.injEq, List.mem_map, List.mem_range]
  refine or_congr_right ⟨?_, ?_⟩
  · rintro ⟨k, above, rfl, rfl⟩
    exact ⟨k, above, rfl, rfl⟩
  · rintro ⟨k, above, rfl, rfl⟩
    exact ⟨k, above, rfl, rfl⟩

theorem isDirectoryAt_deepTree (other : name ≠ "shortcut") {k : Nat} (above : k ≤ depth) :
    (deepTree name depth reach).isDirectoryAt (List.replicate k name) = true := by
  cases k with
  | zero => rfl
  | succ k =>
      have member : (List.replicate (k + 1) name, Entry.directory) ∈
          (deepTree name depth reach).entries := mem_deepTree_iff.mpr (.inr ⟨k, above, rfl, rfl⟩)
      obtain ⟨entry, found⟩ := Option.ne_none_iff_exists'.mp
        (FileSystem.find_ne_none_iff.mpr ⟨_, member⟩)
      have held : (deepTree name depth reach).lookup (List.replicate (k + 1) name) =
          some entry := by
        rw [FileSystem.lookup, if_neg (by simp), found]
      rcases mem_deepTree_iff.mp (FileSystem.mem_of_find_eq_some found) with
        ⟨same, -⟩ | ⟨-, -, -, rfl⟩
      · rw [List.replicate_succ, List.cons.injEq] at same
        exact absurd same.1 other
      · exact FileSystem.isDirectoryAt_iff.mpr held

theorem deepTree_isTree (entryName : IsEntryName name) (other : name ≠ "shortcut") :
    (deepTree name depth reach).IsTree := by
  refine .of_entries ?_ ?_ rfl
  · rintro ⟨place, entry⟩ member
    rcases mem_deepTree_iff.mp member with ⟨rfl, -⟩ | ⟨k, -, rfl, -⟩
    · exact List.forall_mem_singleton.mpr (by decide)
    · intro name' member
      rw [List.eq_of_mem_replicate member]
      exact entryName
  · rintro ⟨place, entry⟩ member
    rcases mem_deepTree_iff.mp member with ⟨rfl, -⟩ | ⟨k, above, rfl, -⟩
    · rfl
    · rw [List.replicate_succ', List.dropLast_concat]
      exact isDirectoryAt_deepTree other (Nat.le_of_lt above)

/-- The path through the link leads to the lowest directory. -/
theorem leadsTo_deepPath (entryName : IsEntryName name) (other : name ≠ "shortcut") {more : Nat}
    (some_way : reach ≠ 0) (down : reach + more = depth) :
    (deepTree name depth reach).LeadsTo (deepPath name more) (List.replicate depth name) := by
  have entryNames : ∀ name' ∈ "shortcut" :: List.replicate more name, IsEntryName name' :=
    List.forall_mem_cons.mpr ⟨by decide, fun name' member =>
      List.eq_of_mem_replicate member ▸ entryName⟩
  have steps_eq : (deepPath name more).steps = "shortcut" :: List.replicate more name :=
    Path.steps_intercalate (fun name' member => (entryNames name' member).ordinary) (by simp)
  have target_steps : Path.steps ⟨"/".intercalate (List.replicate reach name)⟩ =
      List.replicate reach name :=
    Path.steps_intercalate
      (fun name' member => List.eq_of_mem_replicate member ▸ entryName.ordinary)
      (by simpa using some_way)
  refine ⟨?noZero, ?notEmpty, ?walked⟩
  case noZero =>
    rw [deepPath, Path.toList_intercalate]
    exact FileSystem.zero_not_mem_glue entryNames
  case notEmpty =>
    intro empty
    have none_left : (deepPath name more).steps = [] := by
      rw [show deepPath name more = ⟨""⟩ from congrArg Path.mk empty]
      rfl
    rw [steps_eq] at none_left
    cases none_left
  case walked =>
    have passes : Passes (deepTree name depth reach) [] "shortcut"
        (.link ("/".intercalate (List.replicate reach name))) :=
      ⟨rfl, by decide, by decide, rfl⟩
    have solid : (deepTree name depth reach).IsSolid ([] ++ List.replicate depth name) :=
      FileSystem.isSolid_of_isDirectoryAt (isDirectoryAt_deepTree other (Nat.le_refl depth))
    have top : (deepTree name depth reach).startOf (deepPath name more) = [] := ite_self _
    rw [top, steps_eq]
    refine .link passes (by simp) ?_
    rw [ite_self, target_steps, List.replicate_append_replicate, down]
    exact ((deepTree_isTree entryName other).walks_down solid).1

theorem utf8ByteSize_deepPath (name : String) (more : Nat) :
    (deepPath name more).text.utf8ByteSize = 8 + more * (1 + name.utf8ByteSize) :=
  Text.utf8ByteSize_intercalate "/" "shortcut" name more

/-- The path of the lowest directory has one slash for each of its names. -/
theorem utf8ByteSize_toPath_replicate (name : String) (depth : Nat) :
    (Location.toPath (List.replicate (depth + 1) name)).text.utf8ByteSize =
      (depth + 1) * (1 + name.utf8ByteSize) := by
  have together := Text.utf8ByteSize_intercalate "/" name name depth
  rw [Location.toPath, String.utf8ByteSize_append, List.replicate_succ, together, Nat.succ_mul,
    Nat.add_comm (depth * _), ← Nat.add_assoc]
  rfl

/-- A name of 250 characters. -/
def wideName : String := String.ofList (List.replicate 250 'n')

theorem utf8ByteSize_wideName : wideName.utf8ByteSize = 250 := by decide +kernel

theorem wideName_ne {text : String} (other : text.utf8ByteSize ≠ 250) : wideName ≠ text :=
  fun same => other (same ▸ utf8ByteSize_wideName)

theorem not_mem_ofList_replicate {c d : Char} (other : c ≠ d) (count : Nat) :
    c ∉ (String.ofList (List.replicate count d)).toList := by
  rw [String.toList_ofList]
  exact fun held => other (List.eq_of_mem_replicate held)

theorem wideName_isEntryName : IsEntryName wideName where
  ordinary := ⟨wideName_ne (by decide), wideName_ne (by decide), wideName_ne (by decide),
    not_mem_ofList_replicate (by decide) 250⟩
  spoken := not_mem_ofList_replicate (by decide) 250
  short := by
    rw [utf8ByteSize_wideName]
    decide

end SealedBuild.Sample

namespace SealedBuild.Request

open Sample (deepTree deepPath wideName)

/-- A source tree below eighteen directories with names of 250 characters is an existing directory,
and so is the target tree, but there is no request for them. -/
theorem deep_source_refused :
    (deepTree wideName 18 8).IsTree ∧
    (deepTree wideName 18 8).entryAt (deepPath wideName 10) = .ok .directory ∧
    existingDirectory (deepTree wideName 18 8) ⟨"/"⟩ = .ok ⟨"/"⟩ ∧
    make (deepTree wideName 18 8) (some ⟨"/"⟩) (deepPath wideName 10) =
      .error (.io "File name too long (os error 36)") := by
  have entryName := Sample.wideName_isEntryName
  have other : wideName ≠ "shortcut" := Sample.wideName_ne (by decide)
  have tree : (deepTree wideName 18 8).IsTree := Sample.deepTree_isTree entryName other
  have leads : (deepTree wideName 18 8).LeadsTo (deepPath wideName 10)
      (List.replicate 18 wideName) := Sample.leadsTo_deepPath entryName other (by decide) rfl
  have inside : (deepTree wideName 18 8).isDirectoryAt (List.replicate 18 wideName) = true :=
    Sample.isDirectoryAt_deepTree other (Nat.le_refl 18)
  have short : (deepPath wideName 10).text.utf8ByteSize < FileSystem.pathBytesLimit := by
    rw [Sample.utf8ByteSize_deepPath, Sample.utf8ByteSize_wideName]
    decide
  have long : ¬ FileSystem.IsShort (List.replicate 18 wideName) := by
    rw [FileSystem.IsShort, Sample.utf8ByteSize_toPath_replicate, Sample.utf8ByteSize_wideName]
    decide
  have found := FileSystem.entryAt_of_resolve (FileSystem.resolve_ok_iff.mpr ⟨leads, short⟩)
    (FileSystem.isDirectoryAt_iff.mp inside)
  have untraceable : (deepTree wideName 18 8).isTraceable (deepPath wideName 10) = false :=
    Bool.eq_false_iff.mpr fun traceable => long (leads.isShort traceable FileSystem.isShort_nil)
  refine ⟨tree, found, existingDirectory_toPath tree rfl FileSystem.isShort_nil, ?_⟩
  exact make_error_iff.mpr (.inl (.untraceable found untraceable))

end SealedBuild.Request
