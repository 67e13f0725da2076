import SealedBuild.FileSystem.Resolve
import SealedBuild.Proofs.Path.Components

/-!
# Paths of locations

A location is written as an absolute path with one slash in front of each of its names. As long as
the names are ordinary, they can be read off the path again: they are its components behind the root
and the steps of a walk along it, the parent of the path is the path of the place above, and a place
further down has a longer path.

Main statements: `components_toPath`, `steps_toPath`, `parent?_toPath_concat` and
`utf8ByteSize_toPath_le`.
-/

namespace SealedBuild

open Text

namespace Path

variable {path : Path} {names : List String} {name : String}

/-! ### Names as pieces -/

theorem toList_ne_nil (ordinary : IsOrdinary name) : name.toList ≠ [] :=
  fun empty => ordinary.written (String.toList_eq_nil_iff.mp empty)

theorem forall_mem_map_toList (ordinary : ∀ name ∈ names, IsOrdinary name) :
    ∀ piece ∈ names.map String.toList, piece ≠ [] ∧ '/' ∉ piece := by
  intro piece held
  obtain ⟨name, member, rfl⟩ := List.mem_map.mp held
  exact ⟨toList_ne_nil (ordinary name member), (ordinary name member).whole⟩

theorem cutAt_glue_names (ordinary : ∀ name ∈ names, IsOrdinary name) (written : names ≠ []) :
    cutAt '/' (glue '/' (names.map String.toList)) = names.map String.toList :=
  cutAt_glue (fun piece held => (forall_mem_map_toList ordinary piece held).2)
    (by simpa using written)

/-- A walk takes the names that are the pieces of a path, whether the path starts at the root or
not. -/
theorem steps_of_pieces {front : List (List Char)} (ordinary : ∀ name ∈ names, IsOrdinary name)
    (written : names ≠ []) (idle : ∀ piece ∈ front, piece = [])
    (cut : path.pieces = front ++ names.map String.toList) : path.steps = names := by
  have named := forall_mem_map_toList ordinary
  have names_eq : (names.map String.toList).map String.ofList = names := by
    rw [List.map_map]
    exact (List.map_congr_left fun name _ => String.ofList_toList).trans (List.map_id names)
  have kept : path.pieces.filter (· ≠ []) = names.map String.toList := by
    have none_of : front.filter (· ≠ []) = [] := by simpa using idle
    have all_of : (names.map String.toList).filter (· ≠ []) = names.map String.toList :=
      List.filter_eq_self.mpr fun piece held => by simpa using (named piece held).1
    rw [cut, List.filter_append, none_of, all_of, List.nil_append]
  have open_ : path.pieces.getLast? ≠ some [] := by
    rw [cut, List.getLast?_append, Option.or_of_isSome (by simpa using written)]
    exact fun ends => (named [] (List.mem_of_getLast? ends)).1 rfl
  rw [steps, kept, names_eq]
  exact if_neg fun both => open_ both.2

/-- The last name on the way of a path that ends with one name. -/
theorem directoryAndName_join {base : Path} (absolute : base.isAbsolute = true)
    (written : name ≠ "") (whole : '/' ∉ name.toList) :
    ∃ names, FileSystem.directoryAndName (base.join ⟨name⟩) = some (names, name) := by
  have open_ : Path.isAbsolute ⟨name⟩ = false := by
    rw [← Bool.not_eq_true, isAbsolute_iff]
    rintro ⟨rest, starts⟩
    exact whole (starts ▸ List.mem_cons_self)
  obtain ⟨front, joined, -⟩ := text_join_toList absolute open_
  have last : (base.join ⟨name⟩).pieces = cutAt '/' front ++ [name.toList] := by
    rw [pieces, joined, cutAt_append_cons, cutAt_of_not_mem whole]
  have busy : name.toList ≠ [] := fun empty => written (String.toList_eq_nil_iff.mp empty)
  have ends : (((base.join ⟨name⟩).pieces.filter (· ≠ [])).map String.ofList).getLast? =
      some name := by
    rw [last, List.filter_append, List.map_append, List.getLast?_append]
    simp [busy]
  exact ⟨_, by rw [FileSystem.directoryAndName, ends, Option.map_some]⟩

theorem toList_intercalate (names : List String) :
    ("/".intercalate names).toList = glue '/' (names.map String.toList) := by
  rw [String.toList_intercalate, glue_eq_intercalate]
  rfl

/-- Names that are written with slashes between them are the pieces of what is written. -/
theorem pieces_intercalate (whole : ∀ name ∈ names, '/' ∉ name.toList) (written : names ≠ []) :
    pieces ⟨"/".intercalate names⟩ = names.map String.toList := by
  rw [pieces, toList_intercalate]
  refine cutAt_glue (fun piece held => ?_) (by simpa using written)
  obtain ⟨name, member, rfl⟩ := List.mem_map.mp held
  exact whole name member

/-- A walk along names that are written with slashes between them takes these names. -/
theorem steps_intercalate (ordinary : ∀ name ∈ names, IsOrdinary name) (written : names ≠ []) :
    steps ⟨"/".intercalate names⟩ = names :=
  steps_of_pieces ordinary written (List.forall_mem_nil _)
    (pieces_intercalate (fun name member => (ordinary name member).whole) written)

end Path

namespace Location

open SealedBuild.Path (IsOrdinary)

variable {place above : Location} {name : String}

theorem toList_toPath (place : Location) :
    place.toPath.text.toList = '/' :: glue '/' (place.map String.toList) := by
  rw [toPath, String.toList_append, Path.toList_intercalate]
  rfl

theorem isAbsolute_toPath (place : Location) : place.toPath.isAbsolute = true :=
  Path.isAbsolute_iff.mpr ⟨_, toList_toPath place⟩

theorem text_toPath_ne (place : Location) : place.toPath.text ≠ "" := by
  intro empty
  have written := toList_toPath place
  rw [empty] at written
  cases written

/-! ### Reading the names off the path -/

theorem pieces_toPath (ordinary : ∀ name ∈ place, IsOrdinary name) (below : place ≠ []) :
    place.toPath.pieces = [[]] ++ place.map String.toList := by
  rw [Path.pieces, toList_toPath, cutAt, if_pos rfl, Path.cutAt_glue_names ordinary below]
  rfl

/-- A walk along the path of a location takes its names. -/
theorem steps_toPath (ordinary : ∀ name ∈ place, IsOrdinary name) : place.toPath.steps = place := by
  by_cases below : place = []
  · rw [below]
    rfl
  · exact Path.steps_of_pieces ordinary below (by simp) (pieces_toPath ordinary below)

theorem component?_of_isOrdinary (ordinary : IsOrdinary name) :
    Path.component? name.toList = some (.name name) := by
  have isDot (text : String) (same : name.toList = text.toList) : name = text :=
    String.toList_inj.mp same
  refine Path.component?_eq_name_iff.mpr ⟨rfl, ?_, fun same => ordinary.notDots (isDot ".." same)⟩
  rw [Path.isIdle, Bool.or_eq_false_iff, beq_eq_false_iff_ne, beq_eq_false_iff_ne]
  exact ⟨Path.toList_ne_nil ordinary, fun same => ordinary.notDot (isDot "." same)⟩

theorem filterMap_component? (ordinary : ∀ name ∈ place, IsOrdinary name) :
    (place.map String.toList).filterMap Path.component? = place.map .name := by
  induction place with
  | nil => rfl
  | cons name rest ih =>
      obtain ⟨first, later⟩ := List.forall_mem_cons.mp ordinary
      rw [List.map_cons, List.filterMap_cons, component?_of_isOrdinary first, ih later]
      rfl

/-- The components of the path of a location are its names, behind the root. -/
theorem components_toPath (ordinary : ∀ name ∈ place, IsOrdinary name) :
    place.toPath.components = .root :: place.map .name := by
  rw [Path.components_of_isAbsolute (isAbsolute_toPath place), Path.trail]
  by_cases below : place = []
  · rw [below]
    rfl
  · rw [pieces_toPath ordinary below, List.filterMap_append, filterMap_component? ordinary]
    rfl

/-! ### The place above -/

/-- Without its last name, the path of a location is the path of the place above. -/
theorem parent?_toPath_concat (ordinary : ∀ other ∈ above ++ [name], IsOrdinary other) :
    (above ++ [name]).toPath.parent? = some above.toPath := by
  have busy : ∀ other ∈ above ++ [name], ¬ Path.isIdle other.toList = true := fun other held =>
    Bool.eq_false_iff.mp (Path.component?_eq_name_iff.mp
      (component?_of_isOrdinary (ordinary other held))).2.1
  have front_eq : (above ++ [name]).toPath.front = ['/'] := if_pos (isAbsolute_toPath _)
  have body_eq : (above ++ [name]).toPath.bodyReversed =
      name.toList :: (above.map String.toList).reverse := by
    rw [Path.bodyReversed, front_eq, toList_toPath]
    change (cutAt '/' (glue '/' _)).reverse = _
    rw [Path.cutAt_glue_names ordinary (by simp), List.map_append, List.reverse_append]
    rfl
  have kept : (above.map String.toList).reverse.dropWhile Path.isIdle =
      (above.map String.toList).reverse := by
    cases last : (above.map String.toList).reverse with
    | nil => rfl
    | cons piece rest =>
        have held : piece ∈ above.map String.toList := by
          rw [← List.mem_reverse, last]
          exact List.mem_cons_self
        obtain ⟨other, held', rfl⟩ := List.mem_map.mp held
        rw [List.dropWhile_cons_of_neg (busy other (List.mem_append_left _ held'))]
  have text_eq : String.ofList (['/'] ++ glue '/' (above.map String.toList)) =
      above.toPath.text := by
    rw [List.singleton_append, ← toList_toPath, String.ofList_toList]
  rw [Path.parent?, body_eq, List.dropWhile_cons_of_neg (busy name (by simp)), front_eq]
  change some (Path.rebuild ['/'] _) = _
  rw [Path.rebuild, kept, List.reverse_reverse, text_eq]

/-! ### Lengths -/

/-- The path of a place in a directory continues the path of the directory. -/
theorem exists_text_toPath_concat (above : Location) (name : String) :
    ∃ more, (above ++ [name]).toPath.text = above.toPath.text ++ more := by
  have toList_eq : ∃ more, (above ++ [name]).toPath.text.toList =
      above.toPath.text.toList ++ more := by
    rw [toList_toPath, toList_toPath, List.map_append]
    by_cases top : above = []
    · exact ⟨name.toList, by rw [top]; rfl⟩
    · refine ⟨'/' :: name.toList, ?_⟩
      rw [List.map_singleton, glue_concat '/' (by simpa using top), List.cons_append]
  obtain ⟨more, eq⟩ := toList_eq
  refine ⟨String.ofList more, String.toList_inj.mp ?_⟩
  rw [eq, String.toList_append, String.toList_ofList]

/-- The path of a place further down is not shorter. -/
theorem utf8ByteSize_toPath_le (down : above <+: place) :
    above.toPath.text.utf8ByteSize ≤ place.toPath.text.utf8ByteSize := by
  obtain ⟨names, rfl⟩ := down
  induction names generalizing above with
  | nil => exact Nat.le_of_eq (by rw [List.append_nil])
  | cons name rest ih =>
      obtain ⟨more, eq⟩ := exists_text_toPath_concat above name
      calc above.toPath.text.utf8ByteSize
          ≤ (above ++ [name]).toPath.text.utf8ByteSize := by
            rw [eq, String.utf8ByteSize_append]
            exact Nat.le_add_right _ _
        _ ≤ (above ++ [name] ++ rest).toPath.text.utf8ByteSize := ih
        _ = (above ++ name :: rest).toPath.text.utf8ByteSize := by
            rw [List.append_assoc, List.singleton_append]

end Location

end SealedBuild
