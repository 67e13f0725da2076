import SealedBuild.FileSystem.Listing
import SealedBuild.Proofs.FileSystem.Walk
import SealedBuild.Proofs.Text.Encoding

/-!
# What a listing holds, and in which order

The relation `Leads` says step by step how names lead from a directory down to a regular file:
through real directories, none of which has a name to skip. A listing sees such a file if it may
list every directory on the way and read the file, and it holds exactly the files that it sees, each
once, in the order of their names.

A file tree can also be walked depth first: the names in a directory are put in order, and the
directories among them are walked in their turn. `descend` is this walk, for any order in which the
file system hands out the names in a directory.

Main statements: `mem_listing_iff` and `sees_iff`, `listing_pairwise_lt`, and `listing_eq_descend`,
which says that the walk finds the same files in the same order however the names are handed out.
-/

namespace SealedBuild

/-- A sorted list without duplicates is strictly increasing. -/
theorem pairwise_lt_mergeSort {α : Type} [LE α] [LT α] [DecidableLT α] [Std.IsLinearOrder α]
    [Std.LawfulOrderLT α] {l : List α} (nodup : l.Nodup) :
    (l.mergeSort fun a b => !decide (b < a)).Pairwise (· < ·) := by
  have trans (a b c : α) (ab : (!decide (b < a)) = true) (bc : (!decide (c < b)) = true) :
      (!decide (c < a)) = true := by
    simp only [Bool.not_eq_true', decide_eq_false_iff_not, Std.not_lt] at ab bc ⊢
    exact Std.le_trans ab bc
  have total (a b : α) : (!decide (b < a) || !decide (a < b)) = true := by
    simp only [Bool.or_eq_true, Bool.not_eq_true', decide_eq_false_iff_not, Std.not_lt]
    exact Std.le_total
  have sorted := List.pairwise_mergeSort trans total l
  have distinct := (List.mergeSort_perm l fun a b => !decide (b < a)).symm.nodup nodup
  refine (sorted.and distinct).imp fun {a b} both => ?_
  have le : a ≤ b := by simpa [Std.not_lt] using both.1
  exact Std.lt_of_le_of_ne le both.2

theorem nodup_eraseDups {α : Type} [BEq α] [LawfulBEq α] (l : List α) : l.eraseDups.Nodup := by
  cases l with
  | nil => simp
  | cons a rest =>
    rw [List.eraseDups_cons, List.nodup_cons]
    refine ⟨fun again => ?_, nodup_eraseDups _⟩
    simpa using List.mem_eraseDups.mp again
termination_by l.length
decreasing_by exact Nat.lt_succ_of_le (List.length_filter_le _ _)

/-- Two lists that a strict order sorts are equal if they have the same members. -/
theorem eq_of_pairwise_of_mem_iff {α : Type} {less : α → α → Prop} {l l' : List α}
    (irrefl : ∀ a, ¬ less a a) (asymm : ∀ a b, less a b → ¬ less b a)
    (sorted : l.Pairwise less) (sorted' : l'.Pairwise less) (same : ∀ a, a ∈ l ↔ a ∈ l') :
    l = l' := by
  have distinct {l : List α} (sorted : l.Pairwise less) : l.Nodup := by
    refine sorted.imp fun {a b} ab => ?_
    rintro rfl
    exact irrefl a ab
  have perm := (List.perm_ext_iff_of_nodup (distinct sorted) (distinct sorted')).mpr same
  exact perm.eq_of_pairwise (fun a b _ _ ab ba => absurd ba (asymm a b ab)) sorted sorted'

/-! ### Places as they are stored -/

theorem Location.mapM_text?_eq_some_iff {place : RawPlace} {location : Location} :
    place.mapM Bytes.text? = some location ↔ place = location.raw := by
  induction place generalizing location with
  | nil => cases location <;> simp [raw]
  | cons name rest ih =>
    simp only [List.mapM_cons, Option.bind_eq_bind, Option.bind_eq_some_iff, Option.pure_def,
      Option.some.injEq, Bytes.text?_eq_some_iff, ih]
    constructor
    · rintro ⟨text, rfl, texts, rfl, rfl⟩
      rfl
    · intro eq
      cases location with
      | nil => cases eq
      | cons text texts =>
        obtain ⟨rfl, rfl⟩ := List.cons.inj eq
        exact ⟨text, rfl, texts, rfl, rfl⟩

@[simp] theorem Location.mapM_text?_raw (location : Location) :
    location.raw.mapM Bytes.text? = some location :=
  mapM_text?_eq_some_iff.mpr rfl

theorem Location.raw_inj {location location' : Location} :
    location.raw = location'.raw ↔ location = location' := by
  refine ⟨fun same => ?_, congrArg raw⟩
  simpa using congrArg (List.mapM Bytes.text?) same

theorem Location.raw_concat (location : Location) (name : String) :
    raw (location ++ [name]) = raw location ++ [Bytes.ofString name] :=
  List.map_append

theorem OddPlace.ofNames?_eq_some_iff {names : RawPlace} {place : OddPlace} :
    ofNames? names = some place ↔ place.names = names := by
  unfold ofNames?
  constructor
  · intro made
    split at made
    · cases made
      rfl
    · cases made
  · rintro rfl
    rw [dif_pos place.isOdd]

namespace FileSystem

section Find

variable {κ : Type} [DecidableEq κ] {entries : List (κ × Entry)} {wanted : κ} {entry : Entry}

theorem mem_of_find_eq_some (found : find entries wanted = some entry) :
    (wanted, entry) ∈ entries := by
  induction entries with
  | nil => cases found
  | cons first rest ih =>
    unfold find at found
    split at found
    next same =>
      cases found
      exact same ▸ List.mem_cons_self
    next => exact List.mem_cons_of_mem _ (ih found)

theorem find_ne_none_iff : find entries wanted ≠ none ↔ ∃ entry, (wanted, entry) ∈ entries := by
  constructor
  · intro held
    obtain ⟨entry, found⟩ := Option.ne_none_iff_exists'.mp held
    exact ⟨entry, mem_of_find_eq_some found⟩
  · rintro ⟨entry, mem⟩
    induction entries with
    | nil => cases mem
    | cons first rest ih =>
      unfold find
      split
      next => simp
      next other =>
        refine ih ((List.mem_cons.mp mem).resolve_left ?_)
        rintro rfl
        exact other rfl

end Find

variable {files before after : FileSystem} {skip : List RawName} {root here place names : RawPlace}
  {content : Bytes} {order : RawPlace → List RawName}

/-- At a place with names in text there is what is at the location along them. -/
@[simp] theorem rawLookup_raw (files : FileSystem) (location : Location) :
    files.rawLookup location.raw = files.lookup location := by
  rw [rawLookup, Location.mapM_text?_raw]

/-- Without odd places, every file is an entry at some location. -/
theorem exists_entry_of_rawLookup {mode : Nat} (noOdd : files.odd = [])
    (held : files.rawLookup place = some (.file mode content)) :
    ∃ location : Location, place = location.raw ∧
      (location, .file mode content) ∈ files.entries := by
  unfold rawLookup at held
  split at held
  next location isText =>
    have below : location ≠ [] := by
      rintro rfl
      cases held
    rw [lookup, if_neg below] at held
    exact ⟨location, Location.mapM_text?_eq_some_iff.mp isText, mem_of_find_eq_some held⟩
  next => simp [noOdd, find] at held

theorem rawLookup_ne_none_iff (below : place ≠ []) :
    files.rawLookup place ≠ none ↔ place ∈ files.places := by
  rw [places, List.mem_append, List.mem_map, List.mem_map]
  cases isText : place.mapM Bytes.text? with
  | some location =>
    obtain rfl := Location.mapM_text?_eq_some_iff.mp isText
    have below' : location ≠ [] := by
      rintro rfl
      exact below rfl
    have noOdd : ¬ ∃ entry ∈ files.odd, entry.1.names = Location.raw location := by
      rintro ⟨entry, -, eq⟩
      have := entry.1.isOdd
      rw [eq, isText] at this
      cases this
    rw [rawLookup_raw, lookup, if_neg below', find_ne_none_iff, or_iff_left noOdd]
    constructor
    · rintro ⟨entry, mem⟩
      exact ⟨_, mem, rfl⟩
    · rintro ⟨⟨location', entry⟩, mem, eq⟩
      obtain rfl : location' = location := Location.raw_inj.mp eq
      exact ⟨entry, mem⟩
  | none =>
    have noText : ¬ ∃ entry ∈ files.entries, entry.1.raw = place := by
      rintro ⟨entry, -, rfl⟩
      rw [Location.mapM_text?_raw] at isText
      cases isText
    have isOdd : OddPlace.ofNames? place = some ⟨place, isText⟩ :=
      OddPlace.ofNames?_eq_some_iff.mpr rfl
    simp only [rawLookup, isText, isOdd, Option.bind_some]
    rw [find_ne_none_iff, or_iff_right noText]
    constructor
    · rintro ⟨entry, mem⟩
      exact ⟨_, mem, rfl⟩
    · rintro ⟨⟨odd, entry⟩, mem, rfl⟩
      exact ⟨entry, mem⟩

theorem sight?_eq_directory_iff : files.sight? place = some .directory ↔
    files.rawLookup place = some .directory ∧ files.access.mayList place = true := by
  unfold sight?
  split <;> simp_all

theorem sight?_eq_file_iff : files.sight? place = some (.file content) ↔
    ∃ mode, files.rawLookup place = some (.file mode content) ∧
      files.access.mayRead place mode = true := by
  unfold sight?
  split
  next held => simp [held]
  next mode content' held =>
    simp only [held, Option.ite_none_right_eq_some, Option.some.injEq, Sight.file.injEq,
      Entry.file.injEq]
    constructor
    · rintro ⟨may, rfl⟩
      exact ⟨mode, ⟨rfl, rfl⟩, may⟩
    · rintro ⟨_, ⟨rfl, rfl⟩, may⟩
      exact ⟨may, rfl⟩
  next target held => simp [held]
  next held => simp [held]

theorem rawLookup_ne_none_of_sight? {sight : Sight} (seen : files.sight? place = some sight) :
    files.rawLookup place ≠ none := by
  intro nothing
  simp [sight?, nothing] at seen

/-! ### The files that names lead to -/

/-- Names lead from a directory down to a regular file. Every name but the last one is that of a
real directory, and none of the names to skip. -/
inductive Leads (files : FileSystem) (skip : List RawName) : RawPlace → RawPlace → Bytes → Prop
  | file {here : RawPlace} {name : RawName} {mode : Nat} {content : Bytes}
      (held : files.rawLookup (here ++ [name]) = some (.file mode content)) :
      Leads files skip here [name] content
  | down {here : RawPlace} {name : RawName} {rest : RawPlace} {content : Bytes}
      (kept : name ∉ skip) (inside : files.rawLookup (here ++ [name]) = some .directory)
      (more : Leads files skip (here ++ [name]) rest content) :
      Leads files skip here (name :: rest) content

theorem Leads.held (leads : Leads files skip here names content) :
    ∃ mode, files.rawLookup (here ++ names) = some (.file mode content) := by
  induction leads with
  | file held => exact ⟨_, held⟩
  | down kept inside more ih => simpa using ih

/-- A directory and those below it along names can be listed, and the file at the end can be
read. -/
structure IsOpen (files : FileSystem) (here names : RawPlace) : Prop where
  lists : ∀ above below, names = above ++ below → below ≠ [] →
    files.access.mayList (here ++ above) = true
  reads : ∀ mode content, files.rawLookup (here ++ names) = some (.file mode content) →
    files.access.mayRead (here ++ names) mode = true

/-- Everything is open to the superuser if nothing is closed. -/
theorem isOpen_of_access_eq (free : files.access = {}) : files.IsOpen here names := by
  constructor
  · intro above below _ _
    rw [free]
    rfl
  · intro mode content _
    rw [free]
    rfl

/-- A listing of a directory comes down along names to a file that it can read. -/
inductive Sees (files : FileSystem) (skip : List RawName) : RawPlace → RawPlace → Bytes → Prop
  | file {here : RawPlace} {name : RawName} {content : Bytes}
      (opens : files.sight? here = some .directory)
      (held : files.sight? (here ++ [name]) = some (.file content)) :
      Sees files skip here [name] content
  | down {here : RawPlace} {name : RawName} {rest : RawPlace} {content : Bytes}
      (opens : files.sight? here = some .directory) (kept : name ∉ skip)
      (more : Sees files skip (here ++ [name]) rest content) :
      Sees files skip here (name :: rest) content

theorem Sees.opens (sees : Sees files skip here names content) :
    files.sight? here = some .directory := by
  cases sees <;> assumption

theorem Sees.held (sees : Sees files skip here names content) :
    files.sight? (here ++ names) = some (.file content) := by
  induction sees with
  | file opens held => exact held
  | down opens kept more ih => simpa using ih

theorem not_sees_nil : ¬ Sees files skip here [] content := by
  intro sees
  cases sees

/-- Only what is seen below a directory decides where names lead from there. -/
theorem Sees.of_sight?_eq (same : ∀ names, after.sight? (place ++ names) =
      before.sight? (here ++ names)) (sees : Sees before skip here names content) :
    Sees after skip place names content := by
  induction sees generalizing place with
  | file opens held =>
    exact .file ((by simpa using same [] : after.sight? place = _).trans opens)
      ((same _).trans held)
  | @down here name rest content opens kept more ih =>
    refine .down ((by simpa using same [] : after.sight? place = _).trans opens) kept ?_
    exact ih fun names => by simpa using same (name :: names)

theorem isOpen_cons_iff {name : RawName} {rest : RawPlace} : IsOpen files here (name :: rest) ↔
    files.access.mayList here = true ∧ IsOpen files (here ++ [name]) rest := by
  constructor
  · rintro ⟨lists, reads⟩
    refine ⟨by simpa using lists [] (name :: rest) rfl (by simp), fun above below eq more => ?_, ?_⟩
    · simpa using lists (name :: above) below (congrArg (name :: ·) eq) more
    · simpa using reads
  · rintro ⟨first, lists, reads⟩
    refine ⟨fun above below eq more => ?_, by simpa using reads⟩
    cases above with
    | nil => simpa using first
    | cons name' above =>
      obtain ⟨rfl, rest_eq⟩ := List.cons.inj eq
      simpa using lists above below rest_eq more

/-- What is seen is what names lead to from a real directory and what can be opened. -/
theorem sees_iff : Sees files skip here names content ↔
    files.rawLookup here = some .directory ∧ Leads files skip here names content ∧
      IsOpen files here names := by
  constructor
  · intro sees
    induction sees with
    | file opens held =>
      obtain ⟨inside, first⟩ := sight?_eq_directory_iff.mp opens
      obtain ⟨mode, isFile, may⟩ := sight?_eq_file_iff.mp held
      refine ⟨inside, .file isFile, isOpen_cons_iff.mpr ⟨first, ?_, ?_⟩⟩
      · simp
      · intro mode' content' isFile'
        rw [List.append_nil] at isFile' ⊢
        obtain ⟨rfl, -⟩ : mode = mode' ∧ _ := by simpa [isFile] using isFile'
        exact may
    | down opens kept more ih =>
      obtain ⟨inside, first⟩ := sight?_eq_directory_iff.mp opens
      obtain ⟨below, leads, isOpen⟩ := ih
      exact ⟨inside, .down kept below leads, isOpen_cons_iff.mpr ⟨first, isOpen⟩⟩
  · rintro ⟨inside, leads, isOpen⟩
    induction leads with
    | file isFile =>
      obtain ⟨first, opens⟩ := isOpen_cons_iff.mp isOpen
      have may := by simpa using opens.reads _ _ (by simpa using isFile)
      exact .file (sight?_eq_directory_iff.mpr ⟨inside, first⟩)
        (sight?_eq_file_iff.mpr ⟨_, isFile, may⟩)
    | down kept below more ih =>
      obtain ⟨first, opens⟩ := isOpen_cons_iff.mp isOpen
      exact .down (sight?_eq_directory_iff.mpr ⟨inside, first⟩) kept (ih below opens)

theorem sees_iff_isReached (held : files.sight? (here ++ names) = some (.file content)) :
    Sees files skip here names content ↔ isReached files skip here names = true := by
  induction names generalizing here with
  | nil => simp [not_sees_nil, isReached]
  | cons name rest ih =>
    cases rest with
    | nil =>
      rw [isReached, beq_iff_eq]
      exact ⟨Sees.opens, fun opens => .file opens held⟩
    | cons next more =>
      have held' : files.sight? ((here ++ [name]) ++ next :: more) = some (.file content) := by
        simpa using held
      rw [isReached, Bool.and_eq_true, Bool.and_eq_true, beq_iff_eq, ← ih held']
      · constructor
        · intro sees
          cases sees with
          | down opens kept more => exact ⟨⟨opens, by simpa using kept⟩, more⟩
        · rintro ⟨⟨opens, kept⟩, more⟩
          exact .down opens (by simpa using kept) more
      · simp

theorem fileBelow?_eq_some_iff {file : RawPlace × Bytes} :
    fileBelow? files skip root names = some file ↔
      file.1 = names ∧ Sees files skip root names file.2 := by
  obtain ⟨names', content⟩ := file
  constructor
  · intro found
    unfold fileBelow? at found
    split at found
    next content' held =>
      split at found
      next reached =>
        cases found
        exact ⟨rfl, (sees_iff_isReached held).mpr reached⟩
      next => cases found
    next => cases found
    next => cases found
  · rintro ⟨rfl, sees⟩
    have held := sees.held
    simp only at held
    simp [fileBelow?, held, (sees_iff_isReached held).mp sees]

theorem below?_eq_some_iff : below? root place = some names ↔ root ++ names = place := by
  unfold below?
  constructor
  · intro found
    split at found
    next above =>
      cases found
      exact List.prefix_iff_eq_append.mp (List.isPrefixOf_iff_prefix.mp above)
    next => cases found
  · rintro rfl
    simp

/-- A listing holds exactly the files that names lead to. -/
theorem mem_listing_iff :
    (names, content) ∈ files.listing skip root ↔ Sees files skip root names content := by
  simp only [listing, List.mem_filterMap, List.mem_mergeSort, List.mem_eraseDups]
  constructor
  · rintro ⟨names', -, found⟩
    obtain ⟨rfl, sees⟩ := fileBelow?_eq_some_iff.mp found
    exact sees
  · intro sees
    have below : root ++ names ≠ [] := by
      cases sees <;> simp
    have place := (rawLookup_ne_none_iff below).mp (rawLookup_ne_none_of_sight? sees.held)
    exact ⟨names, ⟨_, place, below?_eq_some_iff.mpr rfl⟩, fileBelow?_eq_some_iff.mpr ⟨rfl, sees⟩⟩

/-- The files of a listing come in the order of their names, and none comes twice. -/
theorem listing_pairwise_lt (files : FileSystem) (skip : List RawName) (root : RawPlace) :
    (files.listing skip root).Pairwise fun a b => a.1 < b.1 := by
  rw [listing, List.pairwise_filterMap]
  refine (pairwise_lt_mergeSort (nodup_eraseDups _)).imp ?_
  intro names names' less file found file' found'
  rwa [(fileBelow?_eq_some_iff.mp found).1, (fileBelow?_eq_some_iff.mp found').1]

/-- Two lists of files in the order of their names are equal if they have the same members. -/
theorem eq_of_sorted_of_mem_iff {l l' : List (RawPlace × Bytes)}
    (sorted : l.Pairwise fun a b => a.1 < b.1) (sorted' : l'.Pairwise fun a b => a.1 < b.1)
    (same : ∀ names content, (names, content) ∈ l ↔ (names, content) ∈ l') : l = l' :=
  eq_of_pairwise_of_mem_iff (fun _ => List.lt_irrefl _) (fun _ _ => List.lt_asymm) sorted sorted'
    fun file => same file.1 file.2

/-- Directories below which the same is seen have the same listing. -/
theorem listing_eq_of_sight?_eq (same : ∀ names, after.sight? (place ++ names) =
      before.sight? (here ++ names)) : after.listing skip place = before.listing skip here := by
  refine eq_of_sorted_of_mem_iff (listing_pairwise_lt _ _ _) (listing_pairwise_lt _ _ _) ?_
  intro names content
  rw [mem_listing_iff, mem_listing_iff]
  exact ⟨.of_sight?_eq fun names => (same names).symm, .of_sight?_eq same⟩

/-- Name by name, a directory comes before what merely starts as it does; as one text it comes after
that, since a slash is a greater byte than a dot. -/
example : [[97], [98]] < ([[97, 46, 114, 115]] : RawPlace) ∧
    [97, 46, 114, 115] < ([97, 47, 98] : RawName) := by decide

/-! ### The walk -/

/-- An order hands out every name that a directory holds, and none twice. -/
structure Lists (files : FileSystem) (order : RawPlace → List RawName) : Prop where
  nodup (here : RawPlace) : (order here).Nodup
  mem_iff {here : RawPlace} {name : RawName} :
    name ∈ order here ↔ files.rawLookup (here ++ [name]) ≠ none

/-- Names in the order of their bytes. -/
def byName (names : List RawName) : List RawName := names.mergeSort fun a b => !decide (b < a)

/-- What a walk finds under a name: the file itself, the files below a directory that is not to be
skipped, and nothing for a link or for what cannot be read. -/
def visit (skip : List RawName) (name : RawName) (below : List (RawPlace × Bytes)) :
    Option Sight → List (RawPlace × Bytes)
  | some (.file content) => [([name], content)]
  | some .directory => if name ∈ skip then [] else below.map fun file => (name :: file.1, file.2)
  | none => []

/-- Walks a tree depth first, down to a number of levels, and gives the regular files on the way.
The names in a directory are handed out in some order and sorted before they are visited. -/
def descend (files : FileSystem) (skip : List RawName) (order : RawPlace → List RawName) :
    Nat → RawPlace → List (RawPlace × Bytes)
  | 0, _ => []
  | levels + 1, here =>
    if files.sight? here = some .directory then
      (byName (order here)).flatMap fun name =>
        visit skip name (descend files skip order levels (here ++ [name]))
          (files.sight? (here ++ [name]))
    else []

/-- Everything that is found under a name has this name in front. -/
theorem head_of_mem_visit {name : RawName} {below : List (RawPlace × Bytes)}
    {sight? : Option Sight} {file : RawPlace × Bytes}
    (found : file ∈ visit skip name below sight?) : ∃ rest, file.1 = name :: rest := by
  unfold visit at found
  split at found
  · obtain rfl := List.mem_singleton.mp found
    exact ⟨[], rfl⟩
  · split at found
    · cases found
    · obtain ⟨file', -, rfl⟩ := List.mem_map.mp found
      exact ⟨file'.1, rfl⟩
  · cases found

theorem visit_pairwise_lt {name : RawName} {below : List (RawPlace × Bytes)}
    (sorted : below.Pairwise fun a b => a.1 < b.1) (sight? : Option Sight) :
    (visit skip name below sight?).Pairwise fun a b => a.1 < b.1 := by
  unfold visit
  split
  · exact List.pairwise_singleton _ _
  · split
    · exact .nil
    · rw [List.pairwise_map]
      exact sorted.imp fun less => List.cons_lt_cons_iff.mpr (.inr ⟨rfl, less⟩)
  · exact .nil

/-- The order of the names in each directory makes up the order of the whole walk. -/
theorem descend_pairwise_lt (lists : Lists files order) (levels : Nat) (here : RawPlace) :
    (descend files skip order levels here).Pairwise fun a b => a.1 < b.1 := by
  induction levels generalizing here with
  | zero => exact .nil
  | succ levels ih =>
    rw [descend]
    split
    · rw [List.pairwise_flatMap]
      refine ⟨fun name _ => visit_pairwise_lt (ih _) _, ?_⟩
      refine (pairwise_lt_mergeSort (lists.nodup here)).imp ?_
      intro name name' less file found file' found'
      obtain ⟨rest, eq⟩ := head_of_mem_visit found
      obtain ⟨rest', eq'⟩ := head_of_mem_visit found'
      rw [eq, eq']
      exact List.cons_lt_cons_iff.mpr (.inl less)
    · exact .nil

/-- A walk finds exactly the files that at most so many names lead to. -/
theorem mem_descend_iff (lists : Lists files order) {levels : Nat} :
    (names, content) ∈ descend files skip order levels here ↔
      Sees files skip here names content ∧ names.length ≤ levels := by
  induction levels generalizing here names with
  | zero =>
    simp only [descend, List.not_mem_nil, false_iff]
    rintro ⟨sees, short⟩
    cases sees <;> simp at short
  | succ levels ih =>
    constructor
    · intro found
      rw [descend] at found
      split at found
      next opens =>
        obtain ⟨name, -, found⟩ := List.mem_flatMap.mp found
        cases seen : files.sight? (here ++ [name]) with
        | none => simp [seen, visit] at found
        | some sight =>
          cases sight with
          | file content' =>
            simp only [seen, visit, List.mem_singleton, Prod.mk.injEq] at found
            obtain ⟨rfl, rfl⟩ := found
            exact ⟨.file opens seen, by simp⟩
          | directory =>
            simp only [seen, visit] at found
            split at found
            next => cases found
            next kept =>
              obtain ⟨file, below, eq⟩ := List.mem_map.mp found
              cases eq
              obtain ⟨sees, short⟩ := ih.mp below
              exact ⟨.down opens kept sees, by simpa using short⟩
      next => cases found
    · rintro ⟨sees, short⟩
      have handed {name : RawName} {sight : Sight}
          (seen : files.sight? (here ++ [name]) = some sight) : name ∈ byName (order here) := by
        rw [byName, List.mem_mergeSort, lists.mem_iff]
        exact rawLookup_ne_none_of_sight? seen
      rw [descend, if_pos sees.opens]
      cases sees with
      | @file _ name _ opens held =>
        exact List.mem_flatMap.mpr ⟨name, handed held, by simp [held, visit]⟩
      | @down _ name rest _ opens kept more =>
        refine List.mem_flatMap.mpr ⟨name, handed more.opens, ?_⟩
        have below := ih.mpr ⟨more, by simpa using short⟩
        simp only [more.opens, visit, if_neg kept]
        exact List.mem_map.mpr ⟨_, below, rfl⟩

/-- The number of names to the deepest place. -/
def depth (files : FileSystem) : Nat := (files.places.map List.length).foldr max 0

theorem length_le_depth (held : files.rawLookup place ≠ none) : place.length ≤ files.depth := by
  by_cases top : place = []
  · simp [top]
  · have mem : place.length ∈ files.places.map List.length :=
      List.mem_map.mpr ⟨place, (rawLookup_ne_none_iff top).mp held, rfl⟩
    unfold depth
    revert mem
    induction files.places.map List.length with
    | nil => simp
    | cons length rest ih =>
      intro mem
      rcases List.mem_cons.mp mem with rfl | mem
      · exact Nat.le_max_left _ _
      · exact Nat.le_trans (ih mem) (Nat.le_max_right _ _)

/-- A listing is what the walk through all levels finds, in whatever order the file system hands out
the names in a directory. -/
theorem listing_eq_descend (lists : Lists files order) (skip : List RawName) (root : RawPlace) :
    files.listing skip root = descend files skip order files.depth root := by
  refine eq_of_sorted_of_mem_iff (listing_pairwise_lt _ _ _) (descend_pairwise_lt lists _ _) ?_
  intro names content
  rw [mem_listing_iff, mem_descend_iff lists]
  refine ⟨fun sees => ⟨sees, ?_⟩, And.left⟩
  have := length_le_depth (rawLookup_ne_none_of_sight? sees.held)
  rw [List.length_append] at this
  omega

/-- The names that a directory holds, in the order of the entries. -/
def namesIn (files : FileSystem) (here : RawPlace) : List RawName :=
  (files.places.filterMap fun place =>
    if place.dropLast = here then place.getLast? else none).eraseDups

/-- The entries hand out the names of every directory. -/
theorem lists_namesIn (files : FileSystem) : Lists files files.namesIn where
  nodup _ := nodup_eraseDups _
  mem_iff {here name} := by
    rw [rawLookup_ne_none_iff (by simp), namesIn, List.mem_eraseDups, List.mem_filterMap]
    constructor
    · rintro ⟨place, mem, found⟩
      split at found
      next above =>
        obtain ⟨front, rfl⟩ := List.getLast?_eq_some_iff.mp found
        rw [List.dropLast_concat] at above
        exact above ▸ mem
      next => cases found
    · intro mem
      exact ⟨_, mem, by simp⟩

/-- An order may be turned around. -/
theorem Lists.reverse (lists : Lists files order) :
    Lists files fun here => (order here).reverse where
  nodup here := (List.reverse_perm _).symm.nodup (lists.nodup here)
  mem_iff := by
    intro here name
    rw [List.mem_reverse]
    exact lists.mem_iff

end FileSystem

end SealedBuild
