import SealedBuild.FileSystem.Resolve

/-!
# Walks

A walk takes one name after another: a dot stays, two dots go up, and any other name leads to the
entry that the directory holds under it, with links followed up to a number of them. The relation
`Walks` says step by step where a walk ends, and a resolution is successful exactly if there is such
a walk.

Main statements: `walk_ok_iff`, and `entryAt_ok_iff` and `resolveParent_ok_iff` for whole paths;
`entryAt_of_resolveParent` says that a path leads to the file that its directory holds under its
last name, and `isDirectoryAt_of_dots` that a walk which ends with dots comes to a directory.
-/

namespace SealedBuild.FileSystem

variable {files : FileSystem} {follow : Bool} {links : Nat} {here place directory : Location}
  {names : List String} {name : String} {path : Path} {entry : Entry}

/-- The system takes a path. -/
structure Usable (path : Path) : Prop where
  noZero : Char.ofNat 0 ∉ path.text.toList
  notEmpty : path.text ≠ ""
  short : path.text.utf8ByteSize < pathBytesLimit

theorem malformed?_eq_none_iff : malformed? path = none ↔ Usable path := by
  unfold malformed?
  constructor
  · intro wellFormed
    split at wellFormed
    · cases wellFormed
    next noZero =>
      split at wellFormed
      · cases wellFormed
      next notEmpty =>
        split at wellFormed
        · cases wellFormed
        next short => exact ⟨by simpa using noZero, notEmpty, Nat.lt_of_not_le short⟩
  · rintro ⟨noZero, notEmpty, short⟩
    rw [if_neg (by simpa using noZero), if_neg notEmpty, if_neg (Nat.not_le_of_lt short)]

theorem isDirectoryAt_iff : files.isDirectoryAt place = true ↔
    files.lookup place = some .directory := by
  simp [isDirectoryAt]

/-- A name is no dot, is short enough, and leads to an entry of a directory. -/
structure Passes (files : FileSystem) (here : Location) (name : String) (entry : Entry) :
    Prop where
  inside : files.isDirectoryAt here = true
  plain : ¬ (name = "." ∨ name = "..")
  short : ¬ maxNameBytes < name.utf8ByteSize
  held : files.lookup (here ++ [name]) = some entry

/-- A walk along names leads from one place to another and follows a number of links at most. -/
inductive Walks (files : FileSystem) (follow : Bool) :
    Nat → Location → List String → Location → Prop
  | done {links : Nat} {here : Location} : Walks files follow links here [] here
  | stay {links : Nat} {here place : Location} {rest : List String}
      (inside : files.isDirectoryAt here = true) (more : Walks files follow links here rest place) :
      Walks files follow links here ("." :: rest) place
  | up {links : Nat} {here place : Location} {rest : List String}
      (inside : files.isDirectoryAt here = true)
      (more : Walks files follow links here.dropLast rest place) :
      Walks files follow links here (".." :: rest) place
  | down {links : Nat} {here place : Location} {name : String} {rest : List String} {entry : Entry}
      (passes : Passes files here name entry) (solid : ∀ target, entry ≠ .link target)
      (more : Walks files follow links (here ++ [name]) rest place) :
      Walks files follow links here (name :: rest) place
  /-- A link at the end of a walk that does not follow it. -/
  | stop {links : Nat} {here : Location} {name target : String}
      (passes : Passes files here name (.link target)) (kept : follow = false) :
      Walks files follow links here [name] (here ++ [name])
  | link {links : Nat} {here place : Location} {name target : String} {rest : List String}
      (passes : Passes files here name (.link target)) (goes : ¬ (rest = [] ∧ follow = false))
      (more : Walks files follow links (if Path.isAbsolute ⟨target⟩ then [] else here)
        (Path.steps ⟨target⟩ ++ rest) place) :
      Walks files follow (links + 1) here (name :: rest) place

/-- A walk that takes care of links as another one does is found by going along the names. -/
theorem walks_of_walkWith {onLink : Location → List String → Except OsError Location}
    (onward : ∀ {start rest}, onLink start rest = .ok place →
      ∃ fewer, links = fewer + 1 ∧ Walks files follow fewer start rest place)
    (walked : files.walkWith follow onLink here names = .ok place) :
    Walks files follow links here names place := by
  induction names generalizing here with
  | nil =>
      obtain rfl : here = place := by simpa [walkWith] using walked
      exact .done
  | cons name rest ih =>
      rw [walkWith] at walked
      by_cases outside : files.isDirectoryAt here = false
      · simp [outside] at walked
      have inside : files.isDirectoryAt here = true := by simpa using outside
      rw [if_neg outside] at walked
      by_cases dot : name = "."
      · subst dot
        exact .stay inside (ih (by simpa using walked))
      by_cases dots : name = ".."
      · subst dots
        exact .up inside (ih (by simpa using walked))
      rw [if_neg dot, if_neg dots] at walked
      by_cases long : maxNameBytes < name.utf8ByteSize
      · simp [long] at walked
      rw [if_neg long] at walked
      cases held : files.lookup (here ++ [name]) with
      | none => simp [held] at walked
      | some entry =>
          have passes : Passes files here name entry := ⟨inside, by simp [dot, dots], long, held⟩
          rw [held] at walked
          cases entry with
          | directory => exact .down passes (by simp) (ih walked)
          | file mode content => exact .down passes (by simp) (ih walked)
          | link target =>
              by_cases ending : rest = [] ∧ follow = false
              · obtain ⟨rfl, kept⟩ := ending
                obtain rfl : here ++ [name] = place := by simpa [kept] using walked
                exact .stop passes kept
              · obtain ⟨fewer, rfl, more⟩ := onward (by simpa [ending] using walked)
                exact .link passes ending more

/-- A resolution leads to a place exactly if there is a walk to it. -/
theorem walk_ok_iff :
    files.walk follow links here names = .ok place ↔ Walks files follow links here names place := by
  constructor
  · intro walked
    induction links generalizing here names with
    | zero => exact walks_of_walkWith (by simp) walked
    | succ links ih => exact walks_of_walkWith (fun further => ⟨links, rfl, ih further⟩) walked
  · intro walked
    -- The number of links that are left does not matter until a walk meets a link.
    have unfolded (links : Nat) : ∃ onLink, files.walk follow links = files.walkWith follow onLink ∧
        ∀ fewer, links = fewer + 1 → onLink = files.walk follow fewer := by
      cases links with
      | zero => exact ⟨_, rfl, by simp⟩
      | succ fewer => exact ⟨_, rfl, by simp⟩
    induction walked with
    | @done links here =>
        obtain ⟨onLink, walk_eq, -⟩ := unfolded links
        rw [walk_eq, walkWith]
    | @stay links here place rest inside more ih =>
        obtain ⟨onLink, walk_eq, -⟩ := unfolded links
        rw [walk_eq] at ih ⊢
        simpa [walkWith, inside] using ih
    | @up links here place rest inside more ih =>
        obtain ⟨onLink, walk_eq, -⟩ := unfolded links
        rw [walk_eq] at ih ⊢
        simpa [walkWith, inside] using ih
    | @down links here place name rest entry passes solid more ih =>
        obtain ⟨onLink, walk_eq, -⟩ := unfolded links
        obtain ⟨inside, plain, short, held⟩ := passes
        rw [not_or] at plain
        rw [walk_eq] at ih ⊢
        cases entry with
        | directory => simpa [walkWith, inside, plain, short, held] using ih
        | file mode content => simpa [walkWith, inside, plain, short, held] using ih
        | link target => exact absurd rfl (solid target)
    | @stop links here name target passes kept =>
        obtain ⟨onLink, walk_eq, -⟩ := unfolded links
        obtain ⟨inside, plain, short, held⟩ := passes
        rw [not_or] at plain
        rw [walk_eq]
        simp [walkWith, inside, plain, short, held, kept]
    | @link links here place name target rest passes goes more ih =>
        obtain ⟨inside, plain, short, held⟩ := passes
        rw [not_or] at plain
        rw [walk, walkWith]
        simpa [inside, plain, short, held, goes] using ih

/-- What a path leads to is at the end of a walk. -/
theorem entryAt_ok_iff : files.entryAt path = .ok entry ↔ malformed? path = none ∧
    ∃ place, Walks files true maxLinks (files.startOf path) path.steps place ∧
      files.lookup place = some entry := by
  unfold entryAt resolve
  cases fault : malformed? path with
  | some error => simp
  | none =>
      simp only [true_and, ← walk_ok_iff]
      cases files.walk true maxLinks (files.startOf path) path.steps with
      | error error => simp
      | ok place => cases held : files.lookup place <;> simp [held]

/-- What is read is the content of a regular file that may be read. -/
theorem readBytes_ok_iff {content : Bytes} : files.readBytes path = .ok content ↔
    ∃ place mode, files.resolve path = .ok place ∧
      files.lookup place = some (.file mode content) ∧
      files.access.mayRead place.raw mode = true := by
  unfold readBytes
  constructor
  · intro read
    cases resolved : files.resolve path with
    | error error => simp [resolved] at read
    | ok place =>
    cases held : files.lookup place with
    | none => simp [resolved, held] at read
    | some entry =>
    cases entry with
    | directory =>
        simp only [resolved, held] at read
        split at read <;> cases read
    | link target =>
        simp only [resolved, held] at read
        split at read <;> cases read
    | file mode other =>
        by_cases may : files.access.mayRead place.raw mode = true
        · obtain rfl : other = content := by simpa [resolved, held, may] using read
          exact ⟨place, mode, rfl, held, may⟩
        · simp [resolved, held, may] at read
  · rintro ⟨place, mode, resolved, held, may⟩
    simp [resolved, held, may]

/-- A regular file is read, or the system does not permit it. -/
theorem readBytes_of_entryAt {mode : Nat} {content : Bytes}
    (found : files.entryAt path = .ok (.file mode content)) :
    files.readBytes path = .ok content ∨ files.readBytes path = .error .permissionDenied := by
  unfold entryAt at found
  unfold readBytes
  cases resolved : files.resolve path with
  | error error => simp [resolved] at found
  | ok place =>
      cases held : files.lookup place with
      | none => simp [resolved, held] at found
      | some entry =>
          obtain rfl : entry = .file mode content := by simpa [resolved, held] using found
          by_cases may : files.access.mayRead place.raw mode = true <;> simp [held, may]

/-- Nothing but its content is read of a regular file. -/
theorem eq_of_readBytes {mode : Nat} {content read : Bytes}
    (found : files.entryAt path = .ok (.file mode content))
    (opened : files.readBytes path = .ok read) : read = content := by
  rcases readBytes_of_entryAt found with whole | refused
  · exact Except.ok.inj (opened.symm.trans whole)
  · rw [refused] at opened
    cases opened

theorem isDirectory_iff : files.isDirectory path = true ↔ files.entryAt path = .ok .directory := by
  unfold isDirectory
  split
  · rename_i directory
    simp [directory]
  · rename_i other
    simpa using other

/-- The directory that a path lies in is at the end of a walk. -/
theorem resolveParent_ok_iff : files.resolveParent path = .ok (directory, name) ↔
    malformed? path = none ∧ ∃ names, directoryAndName path = some (names, name) ∧
      Walks files true maxLinks (files.startOf path) names directory ∧
      files.isDirectoryAt directory = true := by
  unfold resolveParent
  constructor
  · intro found
    cases fault : malformed? path with
    | some error => simp [fault] at found
    | none =>
        cases split : directoryAndName path with
        | none => simp [fault, split] at found
        | some parts =>
            obtain ⟨names, last⟩ := parts
            cases walked : files.walk true maxLinks (files.startOf path) names with
            | error error => simp [fault, split, walked] at found
            | ok place =>
                cases inside : files.isDirectoryAt place with
                | false => simp [fault, split, walked, inside] at found
                | true =>
                    obtain ⟨rfl, rfl⟩ : place = directory ∧ last = name := by
                      simpa [fault, split, walked, inside] using found
                    exact ⟨rfl, names, rfl, walk_ok_iff.mp walked, inside⟩
  · rintro ⟨wellFormed, names, split, walked, inside⟩
    simp [wellFormed, split, walk_ok_iff.mpr walked, inside]

/-- A walk to a directory goes on to a regular file in it. -/
theorem Walks.concat {mode : Nat} {content : Bytes}
    (walked : Walks files true links here names directory)
    (passes : Passes files directory name (.file mode content)) :
    Walks files true links here (names ++ [name]) (directory ++ [name]) := by
  induction walked with
  | done => exact .down passes (by simp) .done
  | stay inside more ih => exact .stay inside (ih passes)
  | up inside more ih => exact .up inside (ih passes)
  | down through solid more ih => exact .down through solid (ih passes)
  | stop through kept => cases kept
  | link through goes more ih =>
      refine .link through (by simp) ?_
      simpa using ih passes

/-- A walk that ends with a name of its own passes this name in some directory. Unless a link is
there, the walk ends there. -/
theorem Walks.of_concat (walked : Walks files true links here (names ++ [name]) place)
    (plain : ¬ (name = "." ∨ name = "..")) :
    ∃ directory entry, Walks files true links here names directory ∧
      Passes files directory name entry ∧
      ((∀ target, entry ≠ .link target) → place = directory ++ [name]) := by
  generalize whole : names ++ [name] = all at walked
  induction walked generalizing names with
  | done => simp at whole
  | stay inside more ih =>
      cases names with
      | nil => exact absurd (Or.inl (List.cons.inj whole).1) plain
      | cons first rest =>
          obtain ⟨rfl, tail⟩ := List.cons.inj whole
          obtain ⟨directory, entry, walked, passes, ends⟩ := ih tail
          exact ⟨directory, entry, .stay inside walked, passes, ends⟩
  | up inside more ih =>
      cases names with
      | nil => exact absurd (Or.inr (List.cons.inj whole).1) plain
      | cons first rest =>
          obtain ⟨rfl, tail⟩ := List.cons.inj whole
          obtain ⟨directory, entry, walked, passes, ends⟩ := ih tail
          exact ⟨directory, entry, .up inside walked, passes, ends⟩
  | @down links here place name' rest' entry' through solid more ih =>
      cases names with
      | nil =>
          obtain ⟨rfl, rfl⟩ := List.cons.inj whole
          cases more
          exact ⟨here, entry', .done, through, fun _ => rfl⟩
      | cons first rest =>
          obtain ⟨rfl, tail⟩ := List.cons.inj whole
          obtain ⟨directory, entry, walked, passes, ends⟩ := ih tail
          exact ⟨directory, entry, .down through solid walked, passes, ends⟩
  | stop through kept => cases kept
  | @link links here place name' target rest' through goes more ih =>
      cases names with
      | nil =>
          obtain ⟨rfl, rfl⟩ := List.cons.inj whole
          exact ⟨here, .link target, .done, through, fun solid => absurd rfl (solid target)⟩
      | cons first rest =>
          obtain ⟨rfl, rfl⟩ := List.cons.inj whole
          have tail : (Path.steps ⟨target⟩ ++ rest) ++ [name] =
              Path.steps ⟨target⟩ ++ (rest ++ [name]) := List.append_assoc ..
          obtain ⟨directory, entry, walked, passes, ends⟩ := ih tail
          exact ⟨directory, entry, .link through (by simp) walked, passes, ends⟩

/-- A path with no slash at its end walks through the names of its directory and its own. -/
theorem steps_of_directoryAndName (split : directoryAndName path = some (names, name))
    (open_ : ¬ path.text.toList.getLast? = some '/') : path.steps = names ++ [name] := by
  simp only [directoryAndName, Option.map_eq_some_iff, Prod.mk.injEq] at split
  obtain ⟨last, hl, rfl, rfl⟩ := split
  obtain ⟨init, all⟩ := List.getLast?_eq_some_iff.mp hl
  rw [all, List.dropLast_concat, ← all, Path.steps]
  refine if_neg fun ⟨_, ends⟩ => open_ ?_
  refine Text.getLast?_eq_separator_of_cutAt '/' (fun empty => ?_) ends
  simp [Path.pieces, empty, Text.cutAt] at hl

/-- A path leads to the place of the regular file that its directory holds under its last name. -/
theorem resolve_of_resolveParent {mode : Nat} {content : Bytes}
    (found : files.resolveParent path = .ok (directory, name))
    (plain : ¬ (name = "." ∨ name = "..")) (short : ¬ maxNameBytes < name.utf8ByteSize)
    (open_ : ¬ path.text.toList.getLast? = some '/')
    (held : files.lookup (directory ++ [name]) = some (.file mode content)) :
    files.resolve path = .ok (directory ++ [name]) := by
  obtain ⟨wellFormed, names, split, walked, inside⟩ := resolveParent_ok_iff.mp found
  have onward := walked.concat ⟨inside, plain, short, held⟩
  rw [resolve, wellFormed, steps_of_directoryAndName split open_]
  exact walk_ok_iff.mpr onward

/-- A path leads to the regular file that its directory holds under its last name. -/
theorem entryAt_of_resolveParent {mode : Nat} {content : Bytes}
    (found : files.resolveParent path = .ok (directory, name))
    (plain : ¬ (name = "." ∨ name = "..")) (short : ¬ maxNameBytes < name.utf8ByteSize)
    (open_ : ¬ path.text.toList.getLast? = some '/')
    (held : files.lookup (directory ++ [name]) = some (.file mode content)) :
    files.entryAt path = .ok (.file mode content) := by
  rw [entryAt, resolve_of_resolveParent found plain short open_ held]
  dsimp only
  rw [held]

/-! ### Dots at the end -/

/-- Everything above a place is a directory. -/
def Rooted (files : FileSystem) (here : Location) : Prop :=
  ∀ outer, outer <+: here → outer ≠ here → files.isDirectoryAt outer = true

theorem rooted_nil (files : FileSystem) : files.Rooted [] := fun _ above below =>
  absurd (List.prefix_nil.mp above) below

theorem Rooted.dropLast (rooted : files.Rooted here) : files.Rooted here.dropLast := by
  intro outer above below
  apply rooted outer (above.trans (List.dropLast_prefix here))
  rintro rfl
  apply below
  exact above.eq_of_length_le (by simp)

theorem Rooted.isDirectoryAt_dropLast (rooted : files.Rooted here)
    (inside : files.isDirectoryAt here = true) : files.isDirectoryAt here.dropLast = true := by
  by_cases top : here = []
  · rwa [top] at inside ⊢
  · apply rooted _ (List.dropLast_prefix here)
    intro same
    have shorter := congrArg List.length same
    have positive := List.length_pos_iff.mpr top
    rw [List.length_dropLast] at shorter
    omega

theorem Rooted.concat (rooted : files.Rooted here) (inside : files.isDirectoryAt here = true)
    (name : String) : files.Rooted (here ++ [name]) := by
  intro outer above below
  rcases List.prefix_concat_iff.mp above with same | above
  · exact absurd same below
  · by_cases same : outer = here
    · rw [same]
      exact inside
    · exact rooted outer above same

/-- A name that leads up or nowhere. -/
def IsDots (name : String) : Prop := name = "." ∨ name = ".."

/-- A walk that goes up or nowhere in the end comes to a directory. -/
theorem Walks.isDirectoryAt_of_dots (walked : Walks files true links here names place)
    (rooted : files.Rooted here) (last : names.getLast? = some name) (dots : IsDots name) :
    files.isDirectoryAt place = true := by
  -- Only the step before the end of the walk can be a dot or two dots.
  induction walked with
  | done => cases last
  | @stay links here place rest inside more ih =>
      cases rest with
      | nil =>
          cases more
          exact inside
      | cons next rest => exact ih rooted last
  | @up links here place rest inside more ih =>
      cases rest with
      | nil =>
          cases more
          exact rooted.isDirectoryAt_dropLast inside
      | cons next rest => exact ih rooted.dropLast last
  | @down links here place name' rest entry passes solid more ih =>
      cases rest with
      | nil =>
          obtain rfl := Option.some.inj last
          exact absurd dots passes.plain
      | cons next rest => exact ih (rooted.concat passes.inside _) last
  | stop passes kept => cases kept
  | @link links here place name' target rest passes goes more ih =>
      cases rest with
      | nil =>
          obtain rfl := Option.some.inj last
          exact absurd dots passes.plain
      | cons next rest =>
          apply ih
          · split
            · exact rooted_nil files
            · exact rooted
          · rw [List.getLast?_cons_cons] at last
            rw [List.getLast?_append, last]
            rfl

end SealedBuild.FileSystem
