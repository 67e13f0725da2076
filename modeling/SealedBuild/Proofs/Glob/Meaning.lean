import SealedBuild.Glob
import SealedBuild.Proofs.Text.Pieces

/-!
# What path patterns describe

A pattern describes a text that consists of what its tokens take, one after the other. The relation
lets every token take whatever it may; matching instead marks, from the last token to the first, the
positions from which the tokens reach the end of the text. A position is an end of the text, so
marks are told by a predicate on texts, and each token takes the predicate of what follows it to its
own.

Main statement: `isMatch_iff`.
-/

namespace SealedBuild.Glob

open Text

/-- A token takes a part of a text, in front of a rest. Two stars take nothing, something that ends
in a slash, or all there is. -/
inductive Token.Takes : Token → List Char → List Char → Prop
  | char {c : Char} {rest : List Char} : Takes (.char c) [c] rest
  | anyChar {c : Char} {rest : List Char} : Takes .anyChar [c] rest
  | within {ranges : List (Char × Char)} {c : Char} {rest : List Char}
      (inside : inRanges ranges c = true) : Takes (.within ranges) [c] rest
  | except {ranges : List (Char × Char)} {c : Char} {rest : List Char}
      (outside : inRanges ranges c = false) : Takes (.except ranges) [c] rest
  | anySequence {part rest : List Char} : Takes .anySequence part rest
  | noComponent {rest : List Char} : Takes .anyComponents [] rest
  | someComponents {part rest : List Char} : Takes .anyComponents (part ++ ['/']) rest
  | allComponents {part : List Char} : Takes .anyComponents part []

/-- Tokens describe a text that consists of what they take, in order. -/
inductive Describes : List Token → List Char → Prop
  | nil : Describes [] []
  | cons {token : Token} {tokens : List Token} {part rest : List Char}
      (takes : token.Takes part rest) (onward : Describes tokens rest) :
      Describes (token :: tokens) (part ++ rest)

/-! ### Marks -/

/-- There is one mark for each end of a text, the whole text first, and the ends that are marked are
those with the property. -/
inductive Marked (P : List Char → Prop) : List Char → List Bool → Prop
  | nil {mark : Bool} (marks_iff : mark = true ↔ P []) : Marked P [] [mark]
  | cons {c : Char} {s : List Char} {mark : Bool} {marks : List Bool}
      (marks_iff : mark = true ↔ P (c :: s)) (later : Marked P s marks) :
      Marked P (c :: s) (mark :: marks)

variable {P Q : List Char → Prop} {s : List Char} {marks marks' : List Bool} {token : Token}
  {tokens : List Token}

namespace Marked

theorem headD_iff (marked : Marked P s marks) : marks.headD false = true ↔ P s := by
  cases marked with
  | nil marks_iff => exact marks_iff
  | cons marks_iff later => exact marks_iff

theorem getLast?_iff (marked : Marked P s marks) :
    marks.getLast?.getD false = true ↔ P [] := by
  induction marked with
  | nil marks_iff => exact marks_iff
  | cons marks_iff later ih =>
      cases later with
      | nil marks_iff => exact ih
      | cons marks_iff later => exact ih

theorem congr (marked : Marked P s marks) (same : ∀ t, P t ↔ Q t) : Marked Q s marks := by
  induction marked with
  | nil marks_iff => exact .nil (marks_iff.trans (same _))
  | cons marks_iff later ih => exact .cons (marks_iff.trans (same _)) ih

theorem endMarks (s : List Char) : Marked (· = []) s (endMarks s) := by
  induction s with
  | nil => exact .nil (by simp)
  | cons c rest ih => exact .cons (by simp) ih

theorem beforeOne (wanted : Char → Bool) (marked : Marked P s marks) :
    Marked (fun t => ∃ c rest, t = c :: rest ∧ wanted c = true ∧ P rest) s
      (beforeOne wanted s marks) := by
  induction marked with
  | nil marks_iff => exact .nil (by simp)
  | cons marks_iff later ih =>
      refine .cons ?_ ih
      rw [Bool.and_eq_true, later.headD_iff]
      constructor
      · rintro ⟨isWanted, held⟩
        exact ⟨_, _, rfl, isWanted, held⟩
      · rintro ⟨_, _, ⟨⟩, isWanted, held⟩
        exact ⟨isWanted, held⟩

theorem beforeAny (marked : Marked P s marks) :
    Marked (fun t => ∃ part rest, t = part ++ rest ∧ P rest) s (beforeAny marks) := by
  induction marked with
  | nil marks_iff =>
      refine .nil ?_
      simp [Glob.beforeAny, marks_iff, and_assoc]
  | @cons c s mark marks marks_iff later ih =>
      refine .cons ?_ ih
      rw [Bool.or_eq_true, ih.headD_iff, marks_iff]
      constructor
      · rintro (held | ⟨part, rest, rfl, held⟩)
        · exact ⟨[], c :: s, rfl, held⟩
        · exact ⟨c :: part, rest, rfl, held⟩
      · rintro ⟨part, rest, eq, held⟩
        cases part with
        | nil =>
            obtain rfl : c :: s = rest := eq
            exact .inl held
        | cons d part =>
            obtain ⟨rfl, rfl⟩ := List.cons.inj eq
            exact .inr ⟨part, rest, rfl, held⟩

theorem beforeSlash (marked : Marked P s marks) :
    Marked (fun t => ∃ part rest, t = part ++ '/' :: rest ∧ P rest) s (beforeSlash s marks) := by
  induction marked with
  | nil marks_iff => exact .nil (by simp)
  | @cons c s mark marks marks_iff later ih =>
      refine .cons ?_ ih
      rw [Bool.or_eq_true, Bool.and_eq_true, beq_iff_eq, ih.headD_iff, later.headD_iff]
      constructor
      · rintro (⟨rfl, held⟩ | ⟨part, rest, rfl, held⟩)
        · exact ⟨[], s, rfl, held⟩
        · exact ⟨c :: part, rest, rfl, held⟩
      · rintro ⟨part, rest, eq, held⟩
        cases part with
        | nil =>
            obtain ⟨rfl, rfl⟩ := List.cons.inj eq
            exact .inl ⟨rfl, held⟩
        | cons d part =>
            obtain ⟨rfl, rfl⟩ := List.cons.inj eq
            exact .inr ⟨part, rest, rfl, held⟩

theorem join (other : Bool) (marked : Marked P s marks) (marked' : Marked Q s marks') :
    Marked (fun t => P t ∨ Q t ∨ other = true) s
      (List.zipWith (fun here later => here || later || other) marks marks') := by
  induction marked generalizing marks' with
  | nil marks_iff =>
      cases marked' with
      | nil marks_iff' => exact .nil (by simp [marks_iff, marks_iff', or_assoc])
  | cons marks_iff later ih =>
      cases marked' with
      | cons marks_iff' later' =>
          exact .cons (by simp [marks_iff, marks_iff', or_assoc]) (ih later')

/-- A token marks the texts at whose front it can take something so that a marked one is left. -/
theorem before (token : Token) (marked : Marked P s marks) :
    Marked (fun t => ∃ part rest, t = part ++ rest ∧ token.Takes part rest ∧ P rest) s
      (token.before s marks) := by
  -- Tokens for one character differ only in which characters they want.
  have single {wanted : Char → Bool}
      (takes_iff : ∀ part rest, token.Takes part rest ↔ ∃ c, part = [c] ∧ wanted c = true) :
      Marked (fun t => ∃ part rest, t = part ++ rest ∧ token.Takes part rest ∧ P rest) s
        (Glob.beforeOne wanted s marks) := by
    refine (marked.beforeOne wanted).congr fun t => ?_
    constructor
    · rintro ⟨c, rest, rfl, isWanted, held⟩
      exact ⟨[c], rest, rfl, (takes_iff _ _).mpr ⟨c, rfl, isWanted⟩, held⟩
    · rintro ⟨part, rest, rfl, takes, held⟩
      obtain ⟨c, rfl, isWanted⟩ := (takes_iff _ _).mp takes
      exact ⟨c, rest, rfl, isWanted, held⟩
  cases token with
  | char d =>
      refine single fun part rest => ⟨?_, ?_⟩
      · rintro ⟨⟩
        exact ⟨d, rfl, beq_self_eq_true d⟩
      · rintro ⟨c, rfl, same⟩
        obtain rfl := eq_of_beq same
        exact .char
  | anyChar =>
      refine single fun part rest => ⟨?_, ?_⟩
      · rintro ⟨⟩
        exact ⟨_, rfl, rfl⟩
      · rintro ⟨c, rfl, -⟩
        exact .anyChar
  | within ranges =>
      refine single fun part rest => ⟨?_, ?_⟩
      · intro takes
        cases takes with
        | within inside => exact ⟨_, rfl, inside⟩
      · rintro ⟨c, rfl, inside⟩
        exact .within inside
  | except ranges =>
      refine single fun part rest => ⟨?_, ?_⟩
      · intro takes
        cases takes with
        | except outside => exact ⟨_, rfl, by simpa using outside⟩
      · rintro ⟨c, rfl, outside⟩
        exact .except (by simpa using outside)
  | anySequence =>
      refine marked.beforeAny.congr fun t => ⟨?_, ?_⟩
      · rintro ⟨part, rest, rfl, held⟩
        exact ⟨part, rest, rfl, .anySequence, held⟩
      · rintro ⟨part, rest, rfl, -, held⟩
        exact ⟨part, rest, rfl, held⟩
  | anyComponents =>
      refine (marked.join _ marked.beforeSlash).congr fun t => ?_
      rw [marked.getLast?_iff]
      constructor
      · rintro (held | ⟨part, rest, rfl, held⟩ | atEnd)
        · exact ⟨[], t, rfl, .noComponent, held⟩
        · exact ⟨part ++ ['/'], rest, by simp, .someComponents, held⟩
        · exact ⟨t, [], by simp, .allComponents, atEnd⟩
      · rintro ⟨part, rest, rfl, takes, held⟩
        cases takes with
        | noComponent => exact .inl held
        | @someComponents part rest => exact .inr (.inl ⟨part, rest, by simp, held⟩)
        | allComponents => exact .inr (.inr held)

theorem startsOf (tokens : List Token) (s : List Char) :
    Marked (Describes tokens) s (startsOf tokens s) := by
  induction tokens with
  | nil =>
      refine (endMarks s).congr fun t => ⟨?_, ?_⟩
      · rintro rfl
        exact .nil
      · rintro ⟨⟩
        rfl
  | cons token tokens ih =>
      refine (ih.before token).congr fun t => ⟨?_, ?_⟩
      · rintro ⟨part, rest, rfl, takes, onward⟩
        exact .cons takes onward
      · intro describes
        cases describes with
        | cons takes onward => exact ⟨_, _, rfl, takes, onward⟩

end Marked

/-- A pattern matches the texts that its tokens describe. -/
theorem isMatch_iff {glob : Glob} {text : String} :
    glob.isMatch text = true ↔ Describes glob.tokens text.toList :=
  (Marked.startsOf glob.tokens text.toList).headD_iff

/-! ### Patterns of a simple form -/

variable {word : List Char}

theorem describes_nil_iff : Describes [] s ↔ s = [] := by
  constructor
  · rintro ⟨⟩
    rfl
  · rintro rfl
    exact .nil

theorem describes_cons_iff {token : Token} : Describes (token :: tokens) s ↔
    ∃ part rest, s = part ++ rest ∧ token.Takes part rest ∧ Describes tokens rest := by
  constructor
  · intro describes
    cases describes with
    | cons takes onward => exact ⟨_, _, rfl, takes, onward⟩
  · rintro ⟨part, rest, rfl, takes, onward⟩
    exact .cons takes onward

/-- Characters describe a text that starts with them. -/
theorem describes_chars_append_iff : Describes (word.map .char ++ tokens) s ↔
    ∃ rest, s = word ++ rest ∧ Describes tokens rest := by
  induction word generalizing s with
  | nil => simp
  | cons c word ih =>
      rw [List.map_cons, List.cons_append, describes_cons_iff]
      constructor
      · rintro ⟨part, rest, rfl, takes, onward⟩
        obtain ⟨behind, rfl, last⟩ := ih.mp onward
        cases takes with
        | char => exact ⟨behind, rfl, last⟩
      · rintro ⟨rest, rfl, onward⟩
        exact ⟨[c], word ++ rest, rfl, .char, ih.mpr ⟨rest, rfl, onward⟩⟩

theorem describes_chars_iff : Describes (word.map .char) s ↔ s = word := by
  have iff : Describes (word.map .char ++ []) s ↔ ∃ rest, s = word ++ rest ∧ Describes [] rest :=
    describes_chars_append_iff
  simpa only [List.append_nil, describes_nil_iff, exists_eq_right] using iff

theorem describes_anySequence_cons_iff : Describes (.anySequence :: tokens) s ↔
    ∃ rest, rest <:+ s ∧ Describes tokens rest := by
  rw [describes_cons_iff]
  constructor
  · rintro ⟨part, rest, rfl, -, onward⟩
    exact ⟨rest, List.suffix_append _ _, onward⟩
  · rintro ⟨rest, ⟨part, rfl⟩, onward⟩
    exact ⟨part, rest, rfl, .anySequence, onward⟩

/-- Two stars with something behind them describe a text if that describes the text from one of its
pieces on. -/
theorem describes_anyComponents_cons_iff (something : ¬ Describes tokens []) :
    Describes (.anyComponents :: tokens) s ↔
      ∃ rest, cutAt '/' rest <:+ cutAt '/' s ∧ Describes tokens rest := by
  simp only [cutAt_suffix_iff]
  rw [describes_cons_iff]
  constructor
  · rintro ⟨part, rest, rfl, takes, onward⟩
    cases takes with
    | noComponent => exact ⟨rest, .inl rfl, onward⟩
    | @someComponents part => exact ⟨rest, .inr ⟨part, by simp⟩, onward⟩
    | allComponents => exact absurd onward something
  · rintro ⟨rest, rfl | ⟨part, rfl⟩, onward⟩
    · exact ⟨[], rest, rfl, .noComponent, onward⟩
    · exact ⟨part ++ ['/'], rest, by simp, .someComponents, onward⟩

theorem describes_anything (s : List Char) : Describes [.anySequence] s :=
  describes_anySequence_cons_iff.mpr ⟨[], List.nil_suffix, .nil⟩

theorem describes_anything' (s : List Char) : Describes [.anyComponents] s := by
  have all : Describes [.anyComponents] (s ++ []) := .cons .allComponents .nil
  rwa [List.append_nil] at all

end SealedBuild.Glob
