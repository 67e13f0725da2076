import SealedBuild.Proofs.Config.Problems
import SealedBuild.Proofs.Text.Pieces

/-!
# References to images

An image is referred to by a name, with the place that it is kept at in front of it, and with a tag
and a digest behind it. The parts are told apart by the marks between them, and a colon may stand
for three things: for a port in the place, for a tag, and for the digits of a digest. A reference
says nothing about the version if it has neither a tag nor a digest, and too little if its tag is
the floating one and it has no digest.

Main statement: `warnings_of_reference`.
-/

namespace SealedBuild

open Text

/-- A part of a reference, without any of the marks between parts. -/
structure ReferencePart where
  text : String
  written : text ≠ ""
  unmarked : ∀ mark ∈ ['/', ':', '@'], mark ∉ text.toList

/-- The digest of an image. Its digits are never the name of the floating tag. -/
structure ImageDigest where
  algorithm : ReferencePart
  digits : ReferencePart
  notFloating : digits.text ≠ "latest"

/-- A reference to an image: the place that it is kept at, which ends with a slash and may hold a
port, its name, and perhaps a tag and a digest. -/
structure ImageReference where
  place : String
  name : ReferencePart
  tag : Option ReferencePart
  digest : Option ImageDigest
  closed : place = "" ∨ place.toList.getLast? = some '/'
  unmarked : '@' ∉ place.toList

namespace ImageReference

variable {reference : ImageReference}

/-- A tag, as it is written. -/
def tagText (reference : ImageReference) : String :=
  reference.tag.elim "" fun tag => ":" ++ tag.text

/-- A digest, as it is written. -/
def digestText (reference : ImageReference) : String :=
  reference.digest.elim "" fun digest => "@" ++ digest.algorithm.text ++ ":" ++ digest.digits.text

/-- The reference, as it is written. -/
def text (reference : ImageReference) : String :=
  reference.place ++ reference.name.text ++ reference.tagText ++ reference.digestText

/-- Neither a tag nor a digest says which version is meant. -/
structure Unpinned (reference : ImageReference) : Prop where
  untagged : reference.tag = none
  undigested : reference.digest = none

/-- Only the floating tag says which version is meant. -/
structure Floating (reference : ImageReference) : Prop where
  tagged : reference.tag.map (·.text) = some "latest"
  undigested : reference.digest = none

theorem Floating.not_unpinned (floating : reference.Floating) : ¬ reference.Unpinned := by
  intro unpinned
  have tagged := floating.tagged
  rw [unpinned.untagged] at tagged
  cases tagged

/-! ### The last piece -/

/-- What is written behind the place. -/
def ending (reference : ImageReference) : List Char :=
  reference.name.text.toList ++ reference.tagText.toList ++ reference.digestText.toList

theorem toList_text (reference : ImageReference) :
    reference.text.toList = reference.place.toList ++ reference.ending := by
  simp only [text, ending, String.toList_append, List.append_assoc]

theorem slash_not_mem_ending (reference : ImageReference) : '/' ∉ reference.ending := by
  have clean (part : ReferencePart) : '/' ∉ part.text.toList := part.unmarked '/' (by simp)
  cases tagged : reference.tag <;> cases digested : reference.digest <;>
    simp [ending, tagText, digestText, tagged, digested, clean]

/-- The last piece between slashes is all that is written behind the place. -/
theorem getLast?_cutAt_text (reference : ImageReference) :
    (cutAt '/' reference.text.toList).getLast? = some reference.ending := by
  rw [toList_text]
  rcases reference.closed with empty | closed
  · rw [empty, String.toList_empty, List.nil_append,
      cutAt_of_not_mem reference.slash_not_mem_ending, List.getLast?_singleton]
  · obtain ⟨front, place_eq⟩ := List.getLast?_eq_some_iff.mp closed
    rw [place_eq, List.append_assoc, List.singleton_append,
      getLast?_cutAt_append_cons front reference.slash_not_mem_ending]

/-- A colon behind the place belongs to a tag or a digest. -/
theorem colon_mem_ending_iff :
    ':' ∈ reference.ending ↔ ¬ (reference.tag = none ∧ reference.digest = none) := by
  have clean (part : ReferencePart) : ':' ∉ part.text.toList := part.unmarked ':' (by simp)
  cases tagged : reference.tag <;> cases digested : reference.digest <;>
    simp [ending, tagText, digestText, tagged, digested, clean]

/-- Only a digest is marked by an at sign. -/
theorem at_mem_text_iff : '@' ∈ reference.text.toList ↔ reference.digest ≠ none := by
  have clean (part : ReferencePart) : '@' ∉ part.text.toList := part.unmarked '@' (by simp)
  have unmarked := reference.unmarked
  rw [toList_text]
  cases tagged : reference.tag <;> cases digested : reference.digest <;>
    simp [ending, tagText, digestText, tagged, digested, clean, unmarked]

theorem unpinned_iff : reference.Unpinned ↔
    ':' ∉ reference.ending ∧ '@' ∉ reference.text.toList := by
  rw [colon_mem_ending_iff, at_mem_text_iff]
  constructor
  · rintro ⟨untagged, undigested⟩
    simp [untagged, undigested]
  · rintro ⟨unmarked, undigested⟩
    exact ⟨(Classical.not_not.mp unmarked).1, Classical.not_not.mp undigested⟩

/-- What follows the last colon is the tag, or the digits of the digest, which are never those of
the floating tag. -/
theorem floating_iff : reference.Floating ↔ ":latest".toList <:+ reference.ending := by
  have clean (part : ReferencePart) : ':' ∉ part.text.toList := part.unmarked ':' (by simp)
  have floating : ":latest".toList = ':' :: "latest".toList := rfl
  have clean' : ':' ∉ "latest".toList := by decide
  rw [floating]
  cases digested : reference.digest with
  | some digest =>
      have ending_eq : reference.ending = (reference.name.text.toList ++ reference.tagText.toList ++
          "@".toList ++ digest.algorithm.text.toList) ++ ':' :: digest.digits.text.toList := by
        simp [ending, digestText, digested]
      rw [ending_eq, cons_suffix_append_cons_iff clean' (clean _), String.toList_inj]
      constructor
      · rintro ⟨-, undigested⟩
        exact absurd (digested.symm.trans undigested) (Option.some_ne_none digest)
      · intro same
        exact absurd same.symm digest.notFloating
  | none =>
      cases tagged : reference.tag with
      | some tag =>
          have ending_eq : reference.ending =
              reference.name.text.toList ++ ':' :: tag.text.toList := by
            simp [ending, tagText, digestText, tagged, digested]
          rw [ending_eq, cons_suffix_append_cons_iff clean' (clean _), String.toList_inj]
          constructor
          · rintro ⟨same, -⟩
            rw [tagged] at same
            exact (Option.some.inj same).symm
          · intro same
            exact ⟨by rw [tagged, Option.map_some, same], digested⟩
      | none =>
          constructor
          · rintro ⟨same, -⟩
            rw [tagged] at same
            cases same
          · intro ends
            have held : ':' ∈ reference.ending := ends.subset List.mem_cons_self
            exact absurd ⟨tagged, digested⟩ (colon_mem_ending_iff.mp held)

/-! ### Cautions -/

/-- A reference that is not blank is cautioned against in one of two ways, or not at all. -/
theorem imageCaution?_cases (written : isBlankText reference.text = false) :
    (reference.Unpinned ∧
      SandboxSettings.imageCaution? reference.text = some (.unpinnedImage reference.text)) ∨
    (reference.Floating ∧
      SandboxSettings.imageCaution? reference.text = some (.floatingImage reference.text)) ∨
    (¬ reference.Unpinned ∧ ¬ reference.Floating ∧
      SandboxSettings.imageCaution? reference.text = none) := by
  have unpinned : (!reference.ending.contains ':') = true ∧
      (!reference.text.toList.contains '@') = true ↔ reference.Unpinned := by
    rw [unpinned_iff]
    simp
  have floating : ":latest".toList.isSuffixOf reference.ending = true ↔ reference.Floating := by
    rw [floating_iff, List.isSuffixOf_iff_suffix]
  unfold SandboxSettings.imageCaution?
  dsimp only
  rw [written, if_neg Bool.false_ne_true, getLast?_cutAt_text, Option.getD_some]
  split
  next noVersion => exact .inl ⟨unpinned.mp noVersion, rfl⟩
  next version =>
    split
    next anyVersion => exact .inr (.inl ⟨floating.mp anyVersion, rfl⟩)
    next oneVersion =>
      exact .inr (.inr ⟨mt unpinned.mpr version, mt floating.mpr oneVersion, rfl⟩)

end ImageReference

/-- The two ways to caution against an image read differently. -/
theorem Caution.message_unpinnedImage_ne (image : String) :
    (Caution.unpinnedImage image).message ≠ (Caution.floatingImage image).message := by
  intro same
  exact absurd ((String.append_right_inj ("sandbox.image '" ++ image)).mp same) (by decide)

/-- An image is cautioned against as not pinned if it is referred to with neither a tag nor a
digest, and as floating if it is referred to with the floating tag and no digest. Nothing else is
said about it. -/
theorem warnings_of_reference {settings : SandboxSettings} {reference : ImageReference}
    (refers : settings.image = reference.text) (written : isBlankText settings.image = false) :
    ((Caution.unpinnedImage settings.image).message ∈ settings.validate.warnings ↔
      reference.Unpinned) ∧
    ((Caution.floatingImage settings.image).message ∈ settings.validate.warnings ↔
      reference.Floating) ∧
    settings.validate.warnings.length ≤ 1 ∧
    (¬ reference.Unpinned → ¬ reference.Floating → settings.validate.warnings = []) := by
  have warnings_eq : settings.validate.warnings =
      (SandboxSettings.imageCaution? settings.image).toList.map (·.message) := by
    rw [SandboxSettings.validate_eq, Validation.of]
  have apart := Caution.message_unpinnedImage_ne settings.image
  rw [warnings_eq]
  rw [refers] at written apart ⊢
  rcases ImageReference.imageCaution?_cases written with
    ⟨unpinned, found⟩ | ⟨floating, found⟩ | ⟨pinned, fixed, found⟩
  · have fixed : ¬ reference.Floating := fun floating => floating.not_unpinned unpinned
    simp [found, unpinned, fixed, apart.symm]
  · simp [found, floating, floating.not_unpinned, apart]
  · simp [found, pinned, fixed]

namespace Sample

theorem unmarked_of_all {text : String}
    (clean : (['/', ':', '@'].all fun mark => !text.toList.contains mark) = true) :
    ∀ mark ∈ ['/', ':', '@'], mark ∉ text.toList := by
  simpa [List.all_eq_true] using clean

/-- A reference with every part there is, to a registry with a port. -/
def imageInRegistry : ImageReference where
  place := "registry.local:5000/team/"
  name := ⟨"rust", by decide, unmarked_of_all (by decide)⟩
  tag := some ⟨"latest", by decide, unmarked_of_all (by decide)⟩
  digest := some ⟨⟨"sha256", by decide, unmarked_of_all (by decide)⟩,
    ⟨"0b5e", by decide, unmarked_of_all (by decide)⟩, by decide⟩
  closed := .inr rfl
  unmarked := by decide

end Sample

theorem warnings_of_image_in_registry :
    Sample.imageInRegistry.text = "registry.local:5000/team/rust:latest@sha256:0b5e" ∧
    isBlankText Sample.imageInRegistry.text = false ∧
    (SandboxSettings.validate { image := Sample.imageInRegistry.text }).warnings = [] := by
  have written : isBlankText Sample.imageInRegistry.text = false := by decide
  have refers : ({ image := Sample.imageInRegistry.text } : SandboxSettings).image =
      Sample.imageInRegistry.text := rfl
  obtain ⟨-, -, -, fixed⟩ := warnings_of_reference refers written
  refine ⟨by decide, written, fixed ?_ ?_⟩
  · rintro ⟨-, undigested⟩
    cases undigested
  · rintro ⟨-, undigested⟩
    cases undigested

end SealedBuild
