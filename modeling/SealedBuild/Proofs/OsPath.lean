import SealedBuild.FileSystem.Basic
import SealedBuild.Proofs.Text.Encoding
import SealedBuild.Session

/-!
# Stored paths that are text

A path that the program has been given is text. It is shown as that text and can be written into a
document, and different paths in text are different as stored. None of this holds for all stored
paths.

Main statements: `OsPath.isText_iff` and `OsPath.exists_toJson?_iff`.
-/

namespace SealedBuild

/-- The path that names lead along. -/
def pathOf (names : List String) : Path := ⟨"/".intercalate names⟩

namespace OsPath

variable {path : OsPath} {document : Json}

/-- A stored path that is text. -/
def IsText (path : OsPath) : Prop := ∃ text : Path, path = ofPath text

theorem text?_eq_some_iff {text : String} : path.text? = some text ↔ path = ofPath ⟨text⟩ := by
  obtain ⟨bytes⟩ := path
  rw [text?, Bytes.text?_eq_some_iff, ofPath, mk.injEq]

@[simp] theorem text?_ofPath (path : Path) : (ofPath path).text? = some path.text :=
  text?_eq_some_iff.mpr rfl

@[simp] theorem display_ofPath (path : Path) : (ofPath path).display = path.text :=
  Bytes.lenientText_ofString path.text

theorem ofPath_inj {path path' : Path} : ofPath path = ofPath path' ↔ path = path' := by
  refine ⟨fun same => ?_, congrArg ofPath⟩
  have texts := congrArg display same
  rw [display_ofPath, display_ofPath] at texts
  exact congrArg Path.mk texts

theorem isText_ofPath (path : Path) : (ofPath path).IsText := ⟨path, rfl⟩

theorem isText_iff : path.IsText ↔ path.text?.isSome = true := by
  rw [Option.isSome_iff_exists]
  simp only [text?_eq_some_iff]
  exact ⟨fun ⟨text, eq⟩ => ⟨text.text, eq⟩, fun ⟨text, eq⟩ => ⟨⟨text⟩, eq⟩⟩

instance (path : OsPath) : Decidable path.IsText := decidable_of_iff _ isText_iff.symm

theorem IsText.ofPath_display (isText : path.IsText) : ofPath ⟨path.display⟩ = path := by
  obtain ⟨text, rfl⟩ := isText
  rw [display_ofPath]

/-- Paths in text that are shown alike are equal. -/
theorem IsText.eq_of_display_eq {path' : OsPath} (isText : path.IsText) (isText' : path'.IsText)
    (same : path.display = path'.display) : path = path' := by
  rw [← isText.ofPath_display, ← isText'.ofPath_display, same]

/-! ### Documents -/

theorem exists_toJson?_iff : (∃ document, path.toJson? = some document) ↔ path.IsText := by
  rw [isText_iff, toJson?, ← Option.isSome_iff_exists, Option.isSome_map]

/-- The document of a path is read back as the path. -/
theorem osPath?_of_toJson? (written : path.toJson? = some document) :
    Json.osPath? document = some path := by
  obtain ⟨text, isText, rfl⟩ := Option.map_eq_some_iff.mp written
  exact congrArg some (text?_eq_some_iff.mp isText).symm

/-! ### Joined paths -/

/-- Paths in text are joined as texts. -/
theorem join_ofPath (base relative : Path) :
    (ofPath base).join (ofPath relative) = ofPath (base.join relative) := by
  have slashes : String.utf8EncodeChar '/' = [slash] := rfl
  have first : (ofPath relative).bytes.head? = some slash ↔ relative.isAbsolute = true := by
    rw [ofPath, Bytes.ofString_eq_flatMap, ← Bytes.encoded,
      Bytes.head?_encoded_eq_some_iff slashes (by decide), Path.isAbsolute, beq_iff_eq]
  have last : (ofPath base).bytes.getLast? = some slash ↔
      base.text.toList.getLast? = some '/' := by
    rw [ofPath, Bytes.ofString_eq_flatMap, ← Bytes.encoded,
      Bytes.getLast?_encoded_eq_some_iff slashes (by decide)]
  have empty : (ofPath base).bytes = [] ↔ base.text = "" := Bytes.ofString_inj (t := "")
  have mark : slash :: (ofPath relative).bytes = Bytes.ofString ("/" ++ relative.text) :=
    (Bytes.ofString_append "/" relative.text).symm
  rw [join, Path.join]
  simp only [first, last, empty]
  split
  · rfl
  · split
    · exact congrArg mk (Bytes.ofString_append _ _).symm
    · rw [mark, String.append_assoc]
      exact congrArg mk (Bytes.ofString_append _ _).symm

/-- The path along names in text is the text of the names. -/
theorem ofNames_raw (names : Location) : ofNames names.raw = ofPath (pathOf names) := by
  refine congrArg mk ?_
  induction names with
  | nil => rfl
  | cons name rest ih =>
    cases rest with
    | nil => simp [Location.raw, pathOf]
    | cons next more =>
      have bytes : [slash].intercalate (Location.raw (name :: next :: more)) =
          Bytes.ofString name ++ [slash] ++
            [slash].intercalate (Location.raw (next :: more)) :=
        List.intercalate_cons_cons
      have text : pathOf (name :: next :: more) =
          ⟨name ++ "/" ++ (pathOf (next :: more)).text⟩ :=
        congrArg Path.mk String.intercalate_cons_cons
      rw [bytes, ih, text, Bytes.ofString_append, Bytes.ofString_append]
      rfl

end OsPath

/-- A mount whose paths are text. -/
structure Mount.IsText (mount : Mount) : Prop where
  hostPath : mount.hostPath.IsText
  containerPath : mount.containerPath.IsText

/-- The mounts of a request are given as text. -/
theorem Session.isText_of_mem_mounts {request : Request} {config : Config} {mount : Mount}
    (mem : mount ∈ (forRequest request config).mounts) : mount.IsText := by
  simp only [forRequest, List.mem_cons, List.not_mem_nil, or_false] at mem
  obtain rfl | rfl := mem <;> exact ⟨OsPath.isText_ofPath _, OsPath.isText_ofPath _⟩

end SealedBuild
