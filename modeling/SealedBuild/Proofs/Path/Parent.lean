import SealedBuild.Proofs.Path.Components

/-!
# Parents of paths

The parent of an absolute path has all of its components but the last one, however the path is
written: pieces at its end that stand for nothing are cut off together with the last piece that
counts. So a path that goes along nothing from its base has the parent of the base, and any other
one that continues the base has a parent which is the base or continues it as well.

Main statements: `parent?_cases`, and `below_join_iff` and `exists_parent?_join_iff` for a path that
is joined to a base.
-/

namespace SealedBuild.Path

open Text

variable {path base relative : Path}

/-! ### The components of a parent -/

theorem isAbsolute_rebuild (reversed : List (List Char)) :
    (rebuild ['/'] reversed).isAbsolute = true :=
  isAbsolute_iff.mpr ⟨_, String.toList_ofList⟩

theorem trail_rebuild {reversed : List (List Char)} (whole : ∀ piece ∈ reversed, '/' ∉ piece) :
    (rebuild ['/'] reversed).trail = reversed.reverse.filterMap component? := by
  have text_eq : (rebuild ['/'] reversed).text.toList =
      '/' :: glue '/' (reversed.dropWhile isIdle).reverse := String.toList_ofList
  have clean : ∀ piece ∈ (reversed.dropWhile isIdle).reverse, '/' ∉ piece := fun piece held =>
    whole piece (List.dropWhile_subset _ (List.mem_reverse.mp held))
  rw [← filterMap_reverse_dropWhile, trail, pieces, text_eq, cutAt, if_pos rfl]
  by_cases nothing : (reversed.dropWhile isIdle).reverse = []
  · rw [nothing]
    rfl
  · rw [cutAt_glue clean nothing]
    rfl

/-- The parent of an absolute path lacks the last component, and only a path without any component
behind the root has no parent. -/
theorem parent?_cases (absolute : path.isAbsolute = true) :
    (path.trail = [] ∧ path.parent? = none) ∨
      ∃ parent last, path.parent? = some parent ∧ parent.isAbsolute = true ∧
        path.trail = parent.trail ++ [last] := by
  have front_eq : path.front = ['/'] := if_pos absolute
  obtain ⟨kept, nothing⟩ | ⟨piece, before, c, kept, -, trail_eq⟩ := kept_pieces_cases absolute
  · refine .inl ⟨nothing, ?_⟩
    rw [parent?, kept]
    exact if_pos absolute
  · have whole : ∀ piece ∈ before, '/' ∉ piece := by
      intro other held
      have held' : other ∈ path.bodyReversed.dropWhile isIdle := by
        rw [kept]
        exact List.mem_cons_of_mem _ held
      exact not_mem_of_mem_bodyReversed (List.dropWhile_subset _ held')
    refine .inr ⟨rebuild ['/'] before, c, ?_, isAbsolute_rebuild before, ?_⟩
    · rw [parent?, kept, front_eq]
    · rw [trail_eq, trail_rebuild whole]

/-! ### Paths below a base -/

/-- A path continues another one with ordinary names only, and with at least one. -/
def Below (path base : Path) : Prop :=
  ∃ names : List String, names ≠ [] ∧ (∀ name ∈ names, IsOrdinary name) ∧
    path.components = base.components ++ names.map .name

theorem Below.within (below : path.Below base) : path.Within base := by
  obtain ⟨names, -, ordinary, continues⟩ := below
  exact ⟨names, ordinary, continues⟩

theorem below_iff : path.Below base ↔ path.Within base ∧ path.components ≠ base.components := by
  constructor
  · intro below
    refine ⟨below.within, ?_⟩
    obtain ⟨names, something, -, continues⟩ := below
    rw [continues]
    simpa using something
  · rintro ⟨⟨names, ordinary, continues⟩, other⟩
    refine ⟨names, ?_, ordinary, continues⟩
    rintro rfl
    exact other (by simpa using continues)

/-- A path descends if it is contained and has a name, so that it goes down at least once. -/
structure Descends (path : Path) : Prop where
  contained : path.isContained = true
  named : ∃ name, .name name ∈ path.components

theorem isContained_of_trail (open_ : path.isAbsolute = false) (something : path.trail ≠ [])
    (named : ∀ c ∈ path.trail, ∃ name, c = .name name) : path.isContained = true := by
  rw [isContained, Bool.and_eq_true, bne_iff_ne, List.all_eq_true]
  constructor
  · intro empty
    apply something
    rw [trail, pieces, empty]
    rfl
  · intro c held
    rw [components_eq, anchor, if_neg (by simp [open_])] at held
    rcases List.mem_append.mp held with dot | held
    · split at dot
      · rw [List.mem_singleton.mp dot]
      · cases dot
    · obtain ⟨name, rfl⟩ := named c held
      rfl

theorem descends_iff (open_ : path.isAbsolute = false) :
    path.Descends ↔ path.trail ≠ [] ∧ ∀ c ∈ path.trail, ∃ name, c = .name name := by
  constructor
  · rintro ⟨contained, named⟩
    exact ⟨(exists_name_iff contained).mp named, forall_mem_trail_of_isContained contained⟩
  · rintro ⟨something, named⟩
    have contained := isContained_of_trail open_ something named
    exact ⟨contained, (exists_name_iff contained).mpr something⟩

/-- A relative path leads below every absolute path if it descends, and below none otherwise. -/
theorem below_join_iff (absolute : base.isAbsolute = true) (open_ : relative.isAbsolute = false) :
    (base.join relative).Below base ↔ relative.Descends := by
  rw [below_iff, within_iff, components_join absolute open_, descends_iff open_]
  constructor
  · rintro ⟨⟨more, continues, named⟩, other⟩
    obtain rfl := List.append_cancel_left continues
    exact ⟨by simpa using other, named⟩
  · rintro ⟨something, named⟩
    exact ⟨⟨relative.trail, rfl, named⟩, by simpa using something⟩

/-! ### Parents of joined paths -/

/-- A contained path without a name leads nowhere else, and the parent of what it is joined to is
the parent of the base. -/
theorem parent?_join_of_idle (absolute : base.isAbsolute = true)
    (open_ : relative.isAbsolute = false) (idle : relative.trail = []) :
    (base.join relative).components = base.components ∧
      ∀ directory, (base.join relative).parent? = some directory →
        ∃ last, base.components = directory.components ++ [last] := by
  have same : (base.join relative).components = base.components := by
    rw [components_join absolute open_, idle, List.append_nil]
  refine ⟨same, fun directory above => ?_⟩
  have absolute' : (base.join relative).isAbsolute = true := join_isAbsolute absolute
  obtain ⟨-, none_above⟩ | ⟨parent, last, above', rooted, trail_eq⟩ := parent?_cases absolute'
  · rw [none_above] at above
    cases above
  · obtain rfl := Option.some.inj (above.symm.trans above')
    refine ⟨last, ?_⟩
    rw [← same, components_of_isAbsolute absolute', trail_eq, components_of_isAbsolute rooted,
      List.cons_append]

/-- The parent of a path that a contained path leads to lies within the base if and only if the
contained path has a name. -/
theorem exists_parent?_join_iff (absolute : base.isAbsolute = true)
    (contained : relative.isContained = true) :
    (∃ directory, (base.join relative).parent? = some directory ∧ directory.Within base) ↔
      ∃ name, .name name ∈ relative.components := by
  have open_ := not_isAbsolute_of_isContained contained
  rw [exists_name_iff contained]
  constructor
  · rintro ⟨directory, above, names, -, continues⟩ idle
    obtain ⟨-, outside⟩ := parent?_join_of_idle absolute open_ idle
    obtain ⟨last, shorter⟩ := outside directory above
    have lengths := congrArg List.length (continues.trans (congrArg (· ++ _) shorter))
    simp at lengths
  · intro something
    obtain ⟨rest, last, relative_eq⟩ : ∃ rest last, relative.trail = rest ++ [last] :=
      ⟨_, _, (List.dropLast_concat_getLast something).symm⟩
    have named := forall_mem_trail_of_isContained contained
    have joined := trail_join absolute open_
    rw [relative_eq] at joined named
    have absolute' : (base.join relative).isAbsolute = true := join_isAbsolute absolute
    obtain ⟨nothing, -⟩ | ⟨directory, last', above, rooted, trail_eq⟩ := parent?_cases absolute'
    · simp [nothing] at joined
    · refine ⟨directory, above, within_iff.mpr ⟨rest, ?_, (List.forall_mem_append.mp named).1⟩⟩
      rw [joined, ← List.append_assoc] at trail_eq
      obtain ⟨trail_eq, -⟩ := List.append_inj' trail_eq rfl
      rw [components_of_isAbsolute rooted, components_of_isAbsolute absolute, ← trail_eq,
        List.cons_append]

end SealedBuild.Path
