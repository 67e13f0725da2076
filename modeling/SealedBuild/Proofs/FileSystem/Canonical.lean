import SealedBuild.Proofs.FileSystem.Listing
import SealedBuild.Proofs.FileSystem.Walk
import SealedBuild.Proofs.Path.Location
import Mathlib.Data.List.Induction

/-!
# Canonical paths

In a tree, everything lies in a directory and has a name that the system takes. A walk through a
tree follows all links and comes to something that is no link, whatever dots and links it has met,
and the path of the place that it comes to leads there again with no links or dots in the way. So
the canonical path of a spelling depends on the place that the spelling leads to, and is its own
canonical path. There is one as long as the system takes the paths of all entries on the way, for
they are asked about one after another.

Main statements: `canonical_of_leadsTo`, `canonical_toPath` and `LeadsTo.isShort`.
-/

namespace SealedBuild.FileSystem

open SealedBuild.Path (IsOrdinary)

variable {files : FileSystem} {links : Nat} {here place above : Location} {names rest : List String}
  {name : String} {path : Path} {entry : Entry}

/-! ### Trees -/

/-- A name that the system takes for an entry of a directory. -/
structure IsEntryName (name : String) : Prop where
  ordinary : IsOrdinary name
  spoken : Char.ofNat 0 ∉ name.toList
  short : name.utf8ByteSize ≤ maxNameBytes

instance (name : String) : Decidable (IsEntryName name) :=
  decidable_of_iff ((name ≠ "" ∧ name ≠ "." ∧ name ≠ ".." ∧ '/' ∉ name.toList) ∧
    Char.ofNat 0 ∉ name.toList ∧ name.utf8ByteSize ≤ maxNameBytes)
    ⟨fun ⟨⟨written, notDot, notDots, whole⟩, spoken, short⟩ =>
      ⟨⟨written, notDot, notDots, whole⟩, spoken, short⟩,
    fun ⟨⟨written, notDot, notDots, whole⟩, spoken, short⟩ =>
      ⟨⟨written, notDot, notDots, whole⟩, spoken, short⟩⟩

/-- Everything has a name in a directory, and relative paths start from a directory. -/
structure IsTree (files : FileSystem) : Prop where
  named : ∀ place entry, files.lookup place = some entry → ∀ name ∈ place, IsEntryName name
  inside : ∀ place entry, files.lookup place = some entry →
    files.isDirectoryAt place.dropLast = true
  working : files.isDirectoryAt files.workingDirectory = true

/-- Everything above something is a directory. -/
theorem IsTree.rooted (tree : files.IsTree) (held : files.lookup place = some entry) :
    files.Rooted place := by
  induction place using List.reverseRecOn generalizing entry with
  | nil => exact rooted_nil files
  | append_singleton above name ih =>
      have inside := tree.inside _ entry held
      rw [List.dropLast_concat] at inside
      exact (ih (isDirectoryAt_iff.mp inside)).concat inside name

/-- A file system is a tree if all that is listed has a name in a directory. -/
theorem IsTree.of_entries (named : ∀ e ∈ files.entries, ∀ name ∈ e.1, IsEntryName name)
    (inside : ∀ e ∈ files.entries, files.isDirectoryAt e.1.dropLast = true)
    (working : files.isDirectoryAt files.workingDirectory = true) : files.IsTree := by
  have listed (place entry) (held : files.lookup place = some entry) :
      place = [] ∨ (place, entry) ∈ files.entries := by
    rw [lookup] at held
    split at held
    · next top => exact .inl top
    · exact .inr (mem_of_find_eq_some held)
  refine ⟨fun place entry held => ?_, fun place entry held => ?_, working⟩
  · rcases listed place entry held with rfl | member
    · simp
    · exact named _ member
  · rcases listed place entry held with rfl | member
    · rfl
    · exact inside _ member

/-- Something that is no link. -/
def IsSolid (files : FileSystem) (place : Location) : Prop :=
  ∃ entry, files.lookup place = some entry ∧ ∀ target, entry ≠ .link target

theorem isSolid_of_isDirectoryAt (inside : files.isDirectoryAt place = true) :
    files.IsSolid place :=
  ⟨.directory, isDirectoryAt_iff.mp inside, fun _ same => by cases same⟩

/-- A walk that follows all links comes to something that is no link. -/
theorem Walks.isSolid (tree : files.IsTree) (walked : Walks files true links here names place)
    (solid : files.IsSolid here) : files.IsSolid place := by
  induction walked with
  | done => exact solid
  | stay inside more ih => exact ih solid
  | up inside more ih =>
      have rooted := tree.rooted (isDirectoryAt_iff.mp inside)
      exact ih (isSolid_of_isDirectoryAt (rooted.isDirectoryAt_dropLast inside))
  | down passes unlinked more ih => exact ih ⟨_, passes.held, unlinked⟩
  | stop passes kept => cases kept
  | link passes goes more ih =>
      apply ih
      split
      · exact isSolid_of_isDirectoryAt rfl
      · exact solid

/-! ### Where a path leads, however long it is -/

/-- A walk along a path comes to a place. The path may be longer than what the system takes. -/
structure LeadsTo (files : FileSystem) (path : Path) (place : Location) : Prop where
  noZero : Char.ofNat 0 ∉ path.text.toList
  notEmpty : path.text ≠ ""
  walked : Walks files true maxLinks (files.startOf path) path.steps place

theorem LeadsTo.unique {other : Location} (one : files.LeadsTo path place)
    (two : files.LeadsTo path other) : place = other :=
  Except.ok.inj ((walk_ok_iff.mpr one.walked).symm.trans (walk_ok_iff.mpr two.walked))

theorem resolve_ok_iff : files.resolve path = .ok place ↔
    files.LeadsTo path place ∧ path.text.utf8ByteSize < pathBytesLimit := by
  rw [resolve]
  constructor
  · intro resolved
    cases fault : malformed? path with
    | some error => simp [fault] at resolved
    | none =>
        obtain ⟨noZero, notEmpty, short⟩ := malformed?_eq_none_iff.mp fault
        rw [fault] at resolved
        exact ⟨⟨noZero, notEmpty, walk_ok_iff.mp resolved⟩, short⟩
  · rintro ⟨⟨noZero, notEmpty, walked⟩, short⟩
    rw [malformed?_eq_none_iff.mpr ⟨noZero, notEmpty, short⟩]
    exact walk_ok_iff.mpr walked

theorem entryAt_of_resolve (resolved : files.resolve path = .ok place)
    (held : files.lookup place = some entry) : files.entryAt path = .ok entry := by
  rw [entryAt, resolved]
  dsimp only
  rw [held]

/-- What the system finds for a path is at the place that the path leads to. -/
theorem exists_leadsTo_of_entryAt (found : files.entryAt path = .ok entry) :
    ∃ place, files.resolve path = .ok place ∧ files.LeadsTo path place ∧
      files.lookup place = some entry := by
  cases resolved : files.resolve path with
  | error error => simp [entryAt, resolved] at found
  | ok place =>
      refine ⟨place, rfl, (resolve_ok_iff.mp resolved).1, ?_⟩
      cases held : files.lookup place with
      | none => simp [entryAt, resolved, held] at found
      | some other => simpa [entryAt, resolved, held] using found

/-- A path leads on from a directory. -/
theorem IsTree.isSolid_startOf (tree : files.IsTree) (path : Path) :
    files.IsSolid (files.startOf path) := by
  rw [startOf]
  split
  · exact isSolid_of_isDirectoryAt rfl
  · exact isSolid_of_isDirectoryAt tree.working

theorem LeadsTo.isSolid (tree : files.IsTree) (leads : files.LeadsTo path place) :
    files.IsSolid place :=
  leads.walked.isSolid tree (tree.isSolid_startOf path)

/-! ### What is asked for on the way -/

theorem asked_nil : files.asked links here [] = [] := by
  cases links <;> rfl

theorem asked_stay : files.asked links here ("." :: rest) = files.asked links here rest := by
  cases links <;> rfl

theorem asked_up (inside : files.isDirectoryAt here = true) :
    files.asked links here (".." :: rest) = files.asked links here.dropLast rest := by
  cases links <;> simp [asked, askedWith, inside]

theorem asked_down (passes : Passes files here name entry)
    (unlinked : ∀ target, entry ≠ .link target) :
    files.asked links here (name :: rest) = (here ++ [name]).toPath ::
      ((if asksForDirectory rest then [⟨(here ++ [name]).toPath.text ++ "/"⟩] else []) ++
        files.asked links (here ++ [name]) rest) := by
  obtain ⟨-, plain, -, held⟩ := passes
  rw [not_or] at plain
  cases entry with
  | link target => exact absurd rfl (unlinked target)
  | directory => cases links <;> simp [asked, askedWith, plain, held]
  | file mode content => cases links <;> simp [asked, askedWith, plain, held]

theorem asked_link {target : String} (passes : Passes files here name (.link target)) :
    files.asked (links + 1) here (name :: rest) = (here ++ [name]).toPath ::
      files.asked links (if Path.isAbsolute ⟨target⟩ then [] else here)
        (Path.steps ⟨target⟩ ++ rest) := by
  obtain ⟨-, plain, -, held⟩ := passes
  rw [not_or] at plain
  simp [asked, askedWith, plain, held]

/-- The system takes the path of a place. -/
def IsShort (place : Location) : Prop := place.toPath.text.utf8ByteSize < pathBytesLimit

theorem IsShort.of_prefix (short : IsShort place) (down : above <+: place) : IsShort above :=
  Nat.lt_of_le_of_lt (Location.utf8ByteSize_toPath_le down) short

theorem isShort_nil : IsShort [] :=
  (by decide : "/".utf8ByteSize < pathBytesLimit)

/-- Where a walk comes to can be asked for if all that is asked for on the way can be. -/
theorem Walks.isShort (walked : Walks files true links here names place) (short : IsShort here)
    (taken : ∀ path ∈ files.asked links here names,
      path.text.utf8ByteSize < pathBytesLimit) : IsShort place := by
  induction walked with
  | done => exact short
  | stay inside more ih => exact ih short (asked_stay ▸ taken)
  | up inside more ih =>
      exact ih (short.of_prefix (List.dropLast_prefix _)) (asked_up inside ▸ taken)
  | down passes unlinked more ih =>
      rw [asked_down passes unlinked] at taken
      obtain ⟨next, later⟩ := List.forall_mem_cons.mp taken
      exact ih next (List.forall_mem_append.mp later).2
  | stop passes kept => cases kept
  | link passes goes more ih =>
      rw [asked_link passes] at taken
      obtain ⟨-, later⟩ := List.forall_mem_cons.mp taken
      refine ih ?_ later
      split
      · exact isShort_nil
      · exact short

theorem isTraceable_iff : files.isTraceable path = true ↔
    ∀ asked ∈ files.asked maxLinks (files.startOf path) path.steps,
      asked.text.utf8ByteSize < pathBytesLimit := by
  rw [isTraceable, List.all_eq_true]
  simp only [decide_eq_true_eq]

/-- A path that can be traced leads to a place with a path that the system takes, unless it starts
from a directory whose path is too long already. -/
theorem LeadsTo.isShort (leads : files.LeadsTo path place)
    (traceable : files.isTraceable path = true) (working : IsShort files.workingDirectory) :
    IsShort place := by
  refine leads.walked.isShort ?_ (isTraceable_iff.mp traceable)
  rw [startOf]
  split
  · exact isShort_nil
  · exact working

/-! ### Canonical paths -/

theorem canonical_eq (noZero : Char.ofNat 0 ∉ path.text.toList) (notEmpty : path.text ≠ "") :
    files.canonical path =
      if files.isTraceable path then
        (files.walk true maxLinks (files.startOf path) path.steps).map Location.toPath
      else .error .nameTooLong := by
  have fault : malformed? path = none ∨ malformed? path = some .nameTooLong := by
    rw [malformed?, if_neg (by simpa using noZero), if_neg notEmpty]
    split
    · exact .inr rfl
    · exact .inl rfl
  rw [canonical]
  rcases fault with fault | fault
  · rw [fault]
  · rw [fault]

/-- The canonical path of a spelling is the path of the place that it leads to. -/
theorem canonical_of_leadsTo (leads : files.LeadsTo path place) : files.canonical path =
    if files.isTraceable path then .ok place.toPath else .error .nameTooLong := by
  rw [canonical_eq leads.noZero leads.notEmpty, walk_ok_iff.mpr leads.walked]
  rfl

theorem canonical_ok_iff {canonical : Path} : files.canonical path = .ok canonical ↔
    ∃ place, files.LeadsTo path place ∧ files.isTraceable path = true ∧
      canonical = place.toPath := by
  constructor
  · intro named
    have noZero : Char.ofNat 0 ∉ path.text.toList := by
      intro zero
      simp [FileSystem.canonical, malformed?, zero] at named
    have notEmpty : path.text ≠ "" := by
      intro empty
      simp [FileSystem.canonical, malformed?, empty] at named
    rw [canonical_eq noZero notEmpty] at named
    split at named
    · next traceable =>
        cases walked : files.walk true maxLinks (files.startOf path) path.steps with
        | error error =>
            rw [walked] at named
            cases named
        | ok place =>
            rw [walked] at named
            exact ⟨place, ⟨noZero, notEmpty, walk_ok_iff.mp walked⟩, traceable,
              (Except.ok.inj named).symm⟩
    · cases named
  · rintro ⟨place, leads, traceable, rfl⟩
    rw [canonical_of_leadsTo leads, if_pos traceable]

/-! ### The path of a place -/

theorem asksForDirectory_of_ordinary (ordinary : ∀ name ∈ names, IsOrdinary name) :
    asksForDirectory names = false := by
  cases names with
  | nil => rfl
  | cons name rest =>
      have first := ordinary name List.mem_cons_self
      simp [asksForDirectory, first.notDot, first.notDots]

/-- Along the names of something that is no link there is a walk to it, and what is asked for on the
way are the paths of the places above it and its own. -/
theorem IsTree.walks_down (tree : files.IsTree) (solid : files.IsSolid (above ++ rest)) :
    Walks files true links above rest (above ++ rest) ∧
      ∀ asked ∈ files.asked links above rest,
        ∃ outer : Location, outer <+: above ++ rest ∧ asked = outer.toPath := by
  induction rest generalizing above with
  | nil =>
      rw [List.append_nil, asked_nil]
      exact ⟨.done, by simp⟩
  | cons name rest ih =>
      have next : above ++ name :: rest = above ++ [name] ++ rest := by
        rw [List.append_assoc, List.singleton_append]
      obtain ⟨entry, held, unlinked⟩ := solid
      have rooted := tree.rooted held
      have entryName : ∀ other ∈ name :: rest, IsEntryName other := fun other member =>
        tree.named _ entry held other (List.mem_append_right _ member)
      obtain ⟨first, later⟩ := List.forall_mem_cons.mp entryName
      have inside : files.isDirectoryAt above = true :=
        rooted above (List.prefix_append _ _) (by simp)
      obtain ⟨found, found_held, found_unlinked⟩ : files.IsSolid (above ++ [name]) := by
        by_cases last : rest = []
        · rw [last] at held
          exact ⟨entry, held, unlinked⟩
        · apply isSolid_of_isDirectoryAt
          rw [next] at rooted
          exact rooted _ (List.prefix_append _ _) (by simpa using last)
      have passes : Passes files above name found :=
        ⟨inside, not_or.mpr ⟨first.ordinary.notDot, first.ordinary.notDots⟩,
          Nat.not_lt_of_le first.short, found_held⟩
      rw [next] at held
      obtain ⟨more, asked_more⟩ := ih ⟨entry, held, unlinked⟩
      rw [next]
      refine ⟨.down passes found_unlinked more, ?_⟩
      have noSlash := asksForDirectory_of_ordinary fun other member => (later other member).ordinary
      rw [asked_down passes found_unlinked, noSlash]
      exact List.forall_mem_cons.mpr ⟨⟨_, List.prefix_append _ _, rfl⟩, asked_more⟩

theorem zero_not_mem_glue (entryName : ∀ name ∈ names, IsEntryName name) :
    Char.ofNat 0 ∉ Text.glue '/' (names.map String.toList) := by
  intro zero
  obtain slash | ⟨piece, member, zero⟩ := Text.mem_glue zero
  · cases slash
  · obtain ⟨name, named, rfl⟩ := List.mem_map.mp member
    exact (entryName name named).spoken zero

/-- The path of something that is no link leads to it. -/
theorem leadsTo_toPath (tree : files.IsTree) (solid : files.IsSolid place) :
    files.LeadsTo place.toPath place := by
  obtain ⟨entry, held, unlinked⟩ := solid
  have entryName := tree.named place entry held
  refine ⟨?noZero, Location.text_toPath_ne place, ?walked⟩
  case noZero =>
    rw [Location.toList_toPath]
    intro zero
    rcases List.mem_cons.mp zero with slash | zero
    · cases slash
    · exact zero_not_mem_glue entryName zero
  case walked =>
    have solid : files.IsSolid ([] ++ place) := ⟨entry, held, unlinked⟩
    rw [startOf, if_pos (Location.isAbsolute_toPath place),
      Location.steps_toPath fun name member => (entryName name member).ordinary]
    exact (tree.walks_down solid).1

theorem isTraceable_toPath (tree : files.IsTree) (solid : files.IsSolid place)
    (short : IsShort place) : files.isTraceable place.toPath = true := by
  obtain ⟨entry, held, unlinked⟩ := solid
  have ordinary : ∀ name ∈ place, IsOrdinary name := fun name member =>
    (tree.named place entry held name member).ordinary
  have solid : files.IsSolid ([] ++ place) := ⟨entry, held, unlinked⟩
  rw [isTraceable_iff, startOf, if_pos (Location.isAbsolute_toPath place),
    Location.steps_toPath ordinary]
  intro asked member
  obtain ⟨outer, down, rfl⟩ := (tree.walks_down solid).2 asked member
  exact short.of_prefix down

/-- The path of something that is no link is its own canonical path. -/
theorem canonical_toPath (tree : files.IsTree) (solid : files.IsSolid place)
    (short : IsShort place) : files.canonical place.toPath = .ok place.toPath := by
  rw [canonical_of_leadsTo (leadsTo_toPath tree solid),
    if_pos (isTraceable_toPath tree solid short)]

end SealedBuild.FileSystem
