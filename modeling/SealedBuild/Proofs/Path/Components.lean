import SealedBuild.Path
import SealedBuild.Proofs.Text.Pieces

/-!
# Components of paths

A path lies within another one if its components are those of the other one and then ordinary names
only. A path that is contained, that is, one that is neither empty nor absolute and never goes up,
leads from every absolute path to one within it. Taking the extension off a path changes no
component but the last one, which loses the dot and what follows it; nothing says, however, that
this is one of the components that a contained path has brought along.

Main statements: `within_join` and `exists_withoutExtension`.
-/

namespace SealedBuild.Path

open Text

variable {path base relative : Path} {piece : List Char} {name : String} {c : Component}

/-- A name under which a directory may hold something: no slash, and no dots with a meaning. -/
structure IsOrdinary (name : String) : Prop where
  written : name ≠ ""
  notDot : name ≠ "."
  notDots : name ≠ ".."
  whole : '/' ∉ name.toList

theorem isOrdinary_iff :
    IsOrdinary name ↔ name ≠ "" ∧ name ≠ "." ∧ name ≠ ".." ∧ '/' ∉ name.toList :=
  ⟨fun ⟨written, notDot, notDots, whole⟩ => ⟨written, notDot, notDots, whole⟩,
    fun ⟨written, notDot, notDots, whole⟩ => ⟨written, notDot, notDots, whole⟩⟩

instance : Decidable (IsOrdinary name) := decidable_of_iff _ isOrdinary_iff.symm

/-- The components after the root or a leading dot. -/
def trail (path : Path) : List Component := path.pieces.filterMap component?

theorem components_eq (path : Path) : path.components = path.anchor ++ path.trail := rfl

/-- A path continues another one with ordinary names only. -/
def Within (path base : Path) : Prop :=
  ∃ names : List String, (∀ name ∈ names, IsOrdinary name) ∧
    path.components = base.components ++ names.map .name

/-! ### Pieces and components -/

theorem component?_eq_none_iff : component? piece = none ↔ isIdle piece = true := by
  rw [isIdle, Bool.or_eq_true, beq_iff_eq, beq_iff_eq]
  unfold component?
  split
  next idle => exact ⟨fun _ => idle, fun _ => rfl⟩
  next busy => split <;> simp [busy]

theorem component?_eq_name_iff : component? piece = some (.name name) ↔
    piece = name.toList ∧ isIdle piece = false ∧ piece ≠ ['.', '.'] := by
  rw [← Bool.not_eq_true, ← component?_eq_none_iff]
  constructor
  · intro stands
    refine ⟨?_, by simp [stands], ?_⟩
    · unfold component? at stands
      split at stands
      · cases stands
      · split at stands
        · cases stands
        · rw [← Component.name.inj (Option.some.inj stands), String.toList_ofList]
    · rintro rfl
      cases stands
  · rintro ⟨rfl, busy, notDots⟩
    rw [component?_eq_none_iff, isIdle, Bool.or_eq_true, beq_iff_eq, beq_iff_eq] at busy
    rw [component?, if_neg busy, if_neg notDots, String.ofList_toList]

/-- Behind the front of a path there is neither a root nor a dot. -/
theorem component?_cases (stands : component? piece = some c) :
    c = .parent ∨ ∃ name, c = .name name := by
  unfold component? at stands
  split at stands
  · cases stands
  · split at stands
    · exact .inl (Option.some.inj stands).symm
    · exact .inr ⟨_, (Option.some.inj stands).symm⟩

/-- The names among the components of a path are ordinary. -/
theorem isOrdinary_of_mem_components (held : .name name ∈ path.components) : IsOrdinary name := by
  rcases List.mem_append.mp held with front | behind
  · unfold anchor at front
    split at front
    · cases List.mem_singleton.mp front
    · split at front
      · cases List.mem_singleton.mp front
      · cases front
  · obtain ⟨piece, cut, stands⟩ := List.mem_filterMap.mp behind
    obtain ⟨rfl, busy, notDots⟩ := component?_eq_name_iff.mp stands
    refine ⟨?_, ?_, ?_, not_mem_of_mem_cutAt cut⟩
    · rintro rfl
      exact absurd busy (by decide)
    · rintro rfl
      exact absurd busy (by decide)
    · rintro rfl
      exact notDots rfl

/-- Since names are ordinary, a path lies within another one if it continues it with names. -/
theorem within_iff : path.Within base ↔ ∃ more, path.components = base.components ++ more ∧
    ∀ c ∈ more, ∃ name, c = .name name := by
  constructor
  · rintro ⟨names, -, continues⟩
    refine ⟨names.map .name, continues, fun c held => ?_⟩
    obtain ⟨name, -, rfl⟩ := List.mem_map.mp held
    exact ⟨name, rfl⟩
  · rintro ⟨more, continues, named⟩
    have texts : ∃ names : List String, more = names.map .name := by
      clear continues
      induction more with
      | nil => exact ⟨[], rfl⟩
      | cons c rest ih =>
          obtain ⟨⟨name, rfl⟩, later⟩ := List.forall_mem_cons.mp named
          obtain ⟨names, rfl⟩ := ih later
          exact ⟨name :: names, rfl⟩
    obtain ⟨names, rfl⟩ := texts
    refine ⟨names, fun name held => ?_, continues⟩
    have held' : .name name ∈ path.components := by
      rw [continues]
      exact List.mem_append_right _ (List.mem_map.mpr ⟨name, held, rfl⟩)
    exact isOrdinary_of_mem_components held'

/-! ### Absolute paths and contained ones -/

theorem isAbsolute_iff : path.isAbsolute = true ↔ ∃ rest, path.text.toList = '/' :: rest := by
  rw [isAbsolute, beq_iff_eq, List.head?_eq_some_iff]

theorem components_of_isAbsolute (absolute : path.isAbsolute = true) :
    path.components = .root :: path.trail := by
  rw [components_eq, anchor, if_pos absolute, List.singleton_append]

theorem forall_mem_components_of_isContained (contained : path.isContained = true) :
    ∀ c ∈ path.components, c = .current ∨ ∃ name, c = .name name := by
  intro c held
  have passes := List.all_eq_true.mp (Bool.and_eq_true_iff.mp contained).2 c held
  cases c with
  | root => cases passes
  | parent => cases passes
  | current => exact .inl rfl
  | name text => exact .inr ⟨text, rfl⟩

theorem not_isAbsolute_of_isContained (contained : path.isContained = true) :
    path.isAbsolute = false := by
  rw [← Bool.not_eq_true]
  intro absolute
  have held : Component.root ∈ path.components := by
    rw [components_of_isAbsolute absolute]
    exact List.mem_cons_self
  obtain same | ⟨name, same⟩ := forall_mem_components_of_isContained contained _ held
  · cases same
  · cases same

/-- All that a contained path goes along is names. -/
theorem forall_mem_trail_of_isContained (contained : path.isContained = true) :
    ∀ c ∈ path.trail, ∃ name, c = .name name := by
  intro c held
  obtain ⟨piece, -, stands⟩ := List.mem_filterMap.mp held
  rcases component?_cases stands with rfl | named
  · have held' : Component.parent ∈ path.components := List.mem_append_right _ held
    obtain same | ⟨name, same⟩ := forall_mem_components_of_isContained contained _ held'
    · cases same
    · cases same
  · exact named

/-- A contained path has a name if it goes along anything. -/
theorem exists_name_iff (contained : path.isContained = true) :
    (∃ name, .name name ∈ path.components) ↔ path.trail ≠ [] := by
  constructor
  · rintro ⟨name, held⟩ nothing
    rw [components_eq, nothing, List.append_nil, anchor,
      if_neg (by simp [not_isAbsolute_of_isContained contained])] at held
    split at held
    · cases List.mem_singleton.mp held
    · cases held
  · intro something
    obtain ⟨c, held⟩ := List.exists_mem_of_ne_nil _ something
    obtain ⟨name, rfl⟩ := forall_mem_trail_of_isContained contained c held
    exact ⟨name, List.mem_append_right _ held⟩

theorem text_join_toList (absolute : base.isAbsolute = true) (open_ : relative.isAbsolute = false) :
    ∃ front, (base.join relative).text.toList = front ++ '/' :: relative.text.toList ∧
      (base.text.toList = front ∨ base.text.toList = front ++ ['/']) := by
  obtain ⟨rest, starts⟩ := isAbsolute_iff.mp absolute
  rw [join, if_neg (by simp [open_])]
  split
  next ends =>
    have written : base.text ≠ "" := by
      rintro empty
      simp [empty] at starts
    obtain ⟨front, eq⟩ := List.getLast?_eq_some_iff.mp (ends.resolve_left written)
    refine ⟨front, ?_, .inr eq⟩
    rw [String.toList_append, eq, List.append_assoc, List.singleton_append]
  next =>
    refine ⟨base.text.toList, ?_, .inl rfl⟩
    rw [String.toList_append, String.toList_append, List.append_assoc]
    rfl

theorem join_isAbsolute (absolute : base.isAbsolute = true) :
    (base.join relative).isAbsolute = true := by
  cases other : relative.isAbsolute with
  | true => rw [join, if_pos other, other]
  | false =>
      obtain ⟨rest, starts⟩ := isAbsolute_iff.mp absolute
      obtain ⟨front, joined, eq | eq⟩ := text_join_toList absolute other
      · rw [← eq, starts] at joined
        exact isAbsolute_iff.mpr ⟨_, joined⟩
      · rw [← List.singleton_append, ← List.append_assoc, ← eq, starts] at joined
        exact isAbsolute_iff.mpr ⟨_, joined⟩

theorem trail_join (absolute : base.isAbsolute = true) (open_ : relative.isAbsolute = false) :
    (base.join relative).trail = base.trail ++ relative.trail := by
  obtain ⟨front, joined, eq⟩ := text_join_toList absolute open_
  have front_eq : base.trail = (cutAt '/' front).filterMap component? := by
    rcases eq with eq | eq
    · rw [trail, pieces, eq]
    · rw [trail, pieces, eq, cutAt_append_cons, List.filterMap_append]
      exact List.append_nil _
  rw [trail, pieces, joined, cutAt_append_cons, List.filterMap_append, front_eq]
  rfl

/-- What a relative path goes along comes after the components of the path that it is joined to. -/
theorem components_join (absolute : base.isAbsolute = true) (open_ : relative.isAbsolute = false) :
    (base.join relative).components = base.components ++ relative.trail := by
  rw [components_of_isAbsolute (join_isAbsolute absolute), components_of_isAbsolute absolute,
    trail_join absolute open_, List.cons_append]

/-- A contained path leads from an absolute path to one within it. -/
theorem within_join (absolute : base.isAbsolute = true) (contained : relative.isContained = true) :
    (base.join relative).Within base := by
  have continues := components_join absolute (not_isAbsolute_of_isContained contained)
  exact within_iff.mpr
    ⟨relative.trail, continues, forall_mem_trail_of_isContained contained⟩

/-! ### Extensions -/

/-- Pieces at the end that stand for nothing make no difference. -/
theorem filterMap_reverse_dropWhile (reversed : List (List Char)) :
    (reversed.dropWhile isIdle).reverse.filterMap component? =
      reversed.reverse.filterMap component? := by
  induction reversed with
  | nil => rfl
  | cons piece rest ih =>
      by_cases idle : isIdle piece = true
      · rw [List.dropWhile_cons_of_pos idle, ih, List.reverse_cons, List.filterMap_append,
          List.filterMap_cons, component?_eq_none_iff.mpr idle]
        exact (List.append_nil _).symm
      · rw [List.dropWhile_cons_of_neg idle]

theorem pieces_of_isAbsolute (absolute : path.isAbsolute = true) :
    path.pieces = [] :: path.bodyReversed.reverse := by
  obtain ⟨rest, starts⟩ := isAbsolute_iff.mp absolute
  rw [pieces, bodyReversed, front, if_pos absolute, List.reverse_reverse, starts, cutAt, if_pos rfl]
  rfl

/-- Only the pieces up to the last one that counts make up the components behind the root. -/
theorem trail_eq_filterMap (absolute : path.isAbsolute = true) :
    path.trail = (path.bodyReversed.dropWhile isIdle).reverse.filterMap component? := by
  rw [filterMap_reverse_dropWhile, trail, pieces_of_isAbsolute absolute]
  rfl

theorem not_mem_of_mem_bodyReversed (cut : piece ∈ path.bodyReversed) : '/' ∉ piece :=
  not_mem_of_mem_cutAt (List.mem_reverse.mp cut)

theorem fileName?_eq_some_iff :
    path.fileName? = some name ↔ path.components.getLast? = some (.name name) := by
  unfold fileName?
  split
  next text last => simp [last]
  next other =>
    constructor
    · intro named
      cases named
    · exact fun last => absurd last (other name)

/-- The last piece that counts is the last component, and nothing counts in a path along nothing. -/
theorem kept_pieces_cases (absolute : path.isAbsolute = true) :
    (path.bodyReversed.dropWhile isIdle = [] ∧ path.trail = []) ∨
      ∃ piece before c, path.bodyReversed.dropWhile isIdle = piece :: before ∧
        component? piece = some c ∧ path.trail = before.reverse.filterMap component? ++ [c] := by
  have busy := List.head?_dropWhile_not isIdle path.bodyReversed
  have trail_eq := trail_eq_filterMap absolute
  cases kept : path.bodyReversed.dropWhile isIdle with
  | nil =>
      rw [kept] at trail_eq
      exact .inl ⟨rfl, trail_eq⟩
  | cons piece before =>
      rw [kept] at busy trail_eq
      cases stands : component? piece with
      | none =>
          rw [component?_eq_none_iff] at stands
          exact absurd (stands.symm.trans busy) (by decide)
      | some c =>
          rw [List.reverse_cons, List.filterMap_append, List.filterMap_cons, stands] at trail_eq
          exact .inr ⟨piece, before, c, rfl, stands, trail_eq⟩

/-- The name of a path is its last piece that counts. -/
theorem exists_last_piece (absolute : path.isAbsolute = true) (named : path.fileName? = some name) :
    ∃ before, path.bodyReversed.dropWhile isIdle = name.toList :: before ∧
      path.trail = before.reverse.filterMap component? ++ [.name name] := by
  have last := fileName?_eq_some_iff.mp named
  rw [components_of_isAbsolute absolute] at last
  obtain ⟨-, trail_eq⟩ | ⟨piece, before, c, kept, stands, trail_eq⟩ := kept_pieces_cases absolute
  · simp [trail_eq] at last
  · rw [trail_eq, ← List.cons_append, List.getLast?_concat] at last
    obtain rfl := Option.some.inj last
    obtain ⟨rfl, -⟩ := component?_eq_name_iff.mp stands
    exact ⟨before, kept, trail_eq⟩

/-- A path with an extension ends with a name that has this extension. -/
theorem exists_fileName {ending : String} (extended : path.extension? = some ending) :
    ∃ name stem, path.fileName? = some name ∧
      splitName name.toList = (stem, some ending.toList) := by
  simp only [extension?, Option.bind_eq_some_iff, Option.map_eq_some_iff] at extended
  obtain ⟨name, named, ending', cut, rfl⟩ := extended
  rw [String.toList_ofList]
  exact ⟨name, _, named, Prod.ext rfl cut⟩

theorem splitName_some {name stem ending : List Char} (cut : splitName name = (stem, some ending)) :
    stem ≠ [] ∧ name = stem ++ '.' :: ending := by
  unfold splitName at cut
  split at cut
  next ending' before rest reversed =>
    dsimp only at cut
    split at cut
    next => cases cut
    next written =>
      obtain ⟨rfl, rfl⟩ : glue '.' (before :: rest).reverse = stem ∧ ending' = ending := by
        simpa using cut
      refine ⟨written, ?_⟩
      have pieces_eq : cutAt '.' name = (before :: rest).reverse ++ [ending'] := by
        rw [← List.reverse_cons, ← reversed, List.reverse_reverse]
      rw [← glue_concat '.' (by simp), ← pieces_eq, glue_cutAt]
  next => cases cut

/-- Taking the extension off an absolute path leaves every piece but the last one that counts as it
is. -/
theorem exists_withoutExtension (absolute : path.isAbsolute = true) {ending : String}
    (extended : path.extension? = some ending) :
    ∃ before name stem, path.trail = before.filterMap component? ++ [.name name] ∧
      stem ≠ [] ∧ name.toList = stem ++ '.' :: ending.toList ∧
      path.withoutExtension.isAbsolute = true ∧
      path.withoutExtension.pieces = ([] :: before) ++ [stem] := by
  obtain ⟨name, stem, named, cut⟩ := exists_fileName extended
  obtain ⟨before, kept, trail_eq⟩ := exists_last_piece absolute named
  obtain ⟨written, name_eq⟩ := splitName_some cut
  have whole : ∀ piece ∈ name.toList :: before, '/' ∉ piece := by
    intro piece held
    rw [← kept] at held
    exact not_mem_of_mem_bodyReversed (List.dropWhile_subset _ held)
  have clean : ∀ piece ∈ before.reverse ++ [stem], '/' ∉ piece := by
    intro piece held
    rcases List.mem_append.mp held with earlier | last
    · exact whole piece (List.mem_cons_of_mem _ (List.mem_reverse.mp earlier))
    · obtain rfl := List.mem_singleton.mp last
      intro slash
      apply whole name.toList List.mem_cons_self
      rw [name_eq]
      exact List.mem_append_left _ slash
  have text_eq : path.withoutExtension.text.toList =
      '/' :: glue '/' (before.reverse ++ [stem]) := by
    rw [withoutExtension, extended, kept]
    simp [front, absolute, cut]
  refine ⟨before.reverse, name, stem, trail_eq, written, name_eq,
    isAbsolute_iff.mpr ⟨_, text_eq⟩, ?_⟩
  · rw [pieces, text_eq, cutAt, if_pos rfl, cutAt_glue clean (by simp), List.cons_append]

/-- The pieces of a relative path come in place of a slash at the end. -/
theorem bodyReversed_join (absolute : base.isAbsolute = true)
    (open_ : relative.isAbsolute = false) :
    ∃ ends body, (∀ piece ∈ ends, isIdle piece = true) ∧ base.bodyReversed = ends ++ body ∧
      (base.join relative).bodyReversed = relative.pieces.reverse ++ body := by
  obtain ⟨front, joined, eq⟩ := text_join_toList absolute open_
  obtain ⟨first, body, cut⟩ := List.exists_cons_of_ne_nil (cutAt_ne_nil '/' front)
  have before {path : Path} (more : List (List Char)) (absolute : path.isAbsolute = true)
      (pieces_eq : path.pieces = cutAt '/' front ++ more) :
      path.bodyReversed = more.reverse ++ body.reverse := by
    rw [pieces_of_isAbsolute absolute, cut, List.cons_append] at pieces_eq
    rw [← List.reverse_append, ← (List.cons.inj pieces_eq).2, List.reverse_reverse]
  have whole : (base.join relative).bodyReversed = relative.pieces.reverse ++ body.reverse :=
    before _ (join_isAbsolute absolute) (by rw [pieces, joined, cutAt_append_cons]; rfl)
  rcases eq with eq | eq
  · refine ⟨[], body.reverse, by simp, before [] absolute ?_, whole⟩
    rw [pieces, eq, List.append_nil]
  · refine ⟨[[]], body.reverse, by simp [isIdle], before [[]] absolute ?_, whole⟩
    rw [pieces, eq, cutAt_append_cons]
    rfl

/-- After a relative path that goes along nothing, the extension is taken off the path in front of
it. -/
theorem withoutExtension_join (absolute : base.isAbsolute = true)
    (open_ : relative.isAbsolute = false) (idle : relative.trail = []) {ending : String}
    (extended : base.extension? = some ending) :
    (base.join relative).extension? = some ending ∧
      (base.join relative).withoutExtension = base.withoutExtension := by
  have extended' : (base.join relative).extension? = some ending := by
    rw [← extended, extension?, extension?, fileName?, fileName?,
      components_join absolute open_, idle, List.append_nil]
  have absolute' : (base.join relative).isAbsolute = true := join_isAbsolute absolute
  obtain ⟨ends, body, idle', body_eq, body_eq'⟩ := bodyReversed_join absolute open_
  have idle'' : ∀ piece ∈ relative.pieces.reverse, isIdle piece = true := fun piece held =>
    component?_eq_none_iff.mp (List.filterMap_eq_nil_iff.mp idle piece (List.mem_reverse.mp held))
  have same : (base.join relative).bodyReversed.dropWhile isIdle =
      base.bodyReversed.dropWhile isIdle := by
    rw [body_eq, body_eq', List.dropWhile_append_of_pos idle', List.dropWhile_append_of_pos idle'']
  obtain ⟨name, -, named, -⟩ := exists_fileName extended
  obtain ⟨before, kept, -⟩ := exists_last_piece absolute named
  refine ⟨extended', ?_⟩
  rw [withoutExtension, withoutExtension, extended, extended', same, kept, front, front,
    if_pos absolute, if_pos absolute']

end SealedBuild.Path
