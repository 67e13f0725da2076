import Mathlib.Data.List.Infix
import SealedBuild.Proofs.Outcome
import SealedBuild.Toml.Statement

/-!
# What reading leaves of a text

A reader takes something off the front of a text and leaves the rest as it is: what follows the
value that was read is an end of the text. This holds of every reader, from the parts of a string up
to whole statements, and it is proved for each of them from the readers that it calls.

Main statements: `leaves_readStatement`, and `exists_mark_of_readStatement`, by which a statement is
not read off nothing either: a bracket or an equals sign goes with it.
-/

namespace SealedBuild.Toml

variable {α β : Type} {s t : List Char} {scan : Scan α}

/-- A scan over a text leaves an end of it. -/
def Leaves (scan : Scan α) (s : List Char) : Prop :=
  ∀ value rest, scan = .ok (value, rest) → rest <:+ s

theorem leaves_error (error : Error) : Leaves (.error error : Scan α) s := by
  intro value rest found
  cases found

theorem leaves_ok {value : α} {rest : List Char} (ends : rest <:+ s) :
    Leaves (.ok (value, rest) : Scan α) s := by
  intro other rest' found
  cases found
  exact ends

theorem Leaves.mono (leaves : Leaves scan s) (ends : s <:+ t) : Leaves scan t :=
  fun value rest found => (leaves value rest found).trans ends

theorem Leaves.cons (leaves : Leaves scan s) (c : Char) : Leaves scan (c :: s) :=
  leaves.mono (List.suffix_cons c s)

/-- What is read may be taken for something else without touching the rest. -/
theorem Leaves.map (leaves : Leaves scan s) (f : α → β) :
    Leaves (Except.map (fun (value, rest) => (f value, rest)) scan) s := by
  intro value rest found
  obtain ⟨pair, scanned, same⟩ := ok_of_map found
  obtain ⟨-, rfl⟩ := Prod.mk.inj same
  exact leaves pair.1 pair.2 scanned

theorem Leaves.keep {scan : Scan (List Char)} (leaves : Leaves scan s) (c : Char) :
    Leaves (keep c scan) s := by
  intro text rest found
  cases scan with
  | error error => cases found
  | ok pair =>
    cases found
    exact leaves pair.1 pair.2 rfl

/-! ### Strings -/

section Strings

variable {next : Reading → Scan (List Char)}

theorem leaves_afterBackslash (leaves : ∀ mode, Leaves (next mode) s) (c : Char) :
    Leaves (afterBackslash next c) s := by
  unfold afterBackslash
  split
  · exact (leaves .plain).keep _
  · split_ifs
    · exact leaves _
    · exact leaves _
    · exact leaves_error _

theorem leaves_afterDigit (leaves : ∀ mode, Leaves (next mode) s) (more value : Nat) (c : Char) :
    Leaves (afterDigit next more value c) s := by
  unfold afterDigit
  dsimp only
  split
  · exact leaves_error _
  · cases more with
    | zero =>
      dsimp only
      split_ifs
      · exact (leaves .plain).keep _
      · exact leaves_error _
    | succ more => exact leaves _

theorem leaves_readLineString (kind : Quotation) (mode : Reading) (s : List Char) :
    Leaves (readLineString kind mode s) s := by
  induction s generalizing mode with
  | nil =>
    unfold readLineString
    exact leaves_error _
  | cons c rest ih =>
    unfold readLineString
    cases mode with
    | plain =>
      dsimp only
      split_ifs
      · exact leaves_ok (List.suffix_cons c rest)
      · exact (ih .escaped).cons c
      · exact ((ih .plain).cons c).keep c
      · exact leaves_error _
    | escaped => exact (leaves_afterBackslash ih c).cons c
    | codePoint more value => exact (leaves_afterDigit ih more value c).cons c
    | joining ended => exact leaves_error _

theorem closing_suffix (mark : Char) (s : List Char) : (closing mark s).2 <:+ s := by
  unfold closing
  split
  · split_ifs
    · exact (List.suffix_cons _ _).trans (List.suffix_cons _ _)
    · exact List.suffix_cons _ _
    · exact List.suffix_rfl
  · split_ifs
    · exact List.nil_suffix
    · exact List.suffix_rfl
  · exact List.suffix_rfl

theorem leaves_afterPlain (leaves : ∀ mode, Leaves (next mode) s) (kind : Quotation) (c : Char) :
    Leaves (afterPlain kind next c s) s := by
  unfold afterPlain
  split_ifs
  · exact leaves_ok ((closing_suffix c (s.drop 2)).trans (List.drop_suffix 2 s))
  · exact leaves _
  · exact leaves _
  · exact leaves_error _
  · exact (leaves .plain).keep c
  · exact leaves_error _

theorem leaves_readTextBlock (kind : Quotation) (mode : Reading) (s : List Char) :
    Leaves (readTextBlock kind mode s) s := by
  induction s generalizing mode with
  | nil =>
    unfold readTextBlock
    exact leaves_error _
  | cons c rest ih =>
    unfold readTextBlock
    cases mode with
    | plain => exact (leaves_afterPlain ih kind c).cons c
    | escaped =>
      dsimp only
      split_ifs
      · exact (ih _).cons c
      · exact (leaves_afterBackslash ih c).cons c
    | codePoint more value => exact (leaves_afterDigit ih more value c).cons c
    | joining ended =>
      dsimp only
      split_ifs
      · exact (ih _).cons c
      · exact (leaves_afterPlain ih kind c).cons c
      · exact leaves_error _

theorem dropLineEnd_suffix (s : List Char) : dropLineEnd s <:+ s := by
  unfold dropLineEnd
  split
  · exact List.suffix_cons _ _
  · exact (List.suffix_cons _ _).trans (List.suffix_cons _ _)
  · exact List.suffix_rfl

theorem leaves_readQuoted (kind : Quotation) (s : List Char) : Leaves (readQuoted kind s) s := by
  have text : Leaves (if s.take 2 = [kind.mark, kind.mark]
      then readTextBlock kind .plain (dropLineEnd (s.drop 2)) else readLineString kind .plain s)
      s := by
    split_ifs
    · exact (leaves_readTextBlock kind .plain _).mono
        ((dropLineEnd_suffix _).trans (List.drop_suffix 2 s))
    · exact leaves_readLineString kind .plain s
  exact text.map String.ofList

end Strings

/-! ### Blanks, comments and keys -/

theorem skipSpace_suffix (s : List Char) : skipSpace s <:+ s := List.dropWhile_suffix _

theorem skipComment_suffix (s : List Char) : skipComment s <:+ s := by
  unfold skipComment
  split
  · exact (List.dropWhile_suffix _).trans (List.suffix_cons _ _)
  · exact List.suffix_rfl

/-- What follows a line end follows a line feed. -/
theorem cons_suffix_of_afterLineEnd? {rest : List Char} (after : afterLineEnd? s = some rest) :
    '\n' :: rest <:+ s := by
  unfold afterLineEnd? at after
  split at after
  · rw [Option.some.inj after]
  · rw [Option.some.inj after]
    exact List.suffix_cons _ _
  · cases after

/-- A line that holds a comment at most is left behind with its end. -/
theorem feed_suffix_of_afterLineEnd? {rest : List Char}
    (ended : afterLineEnd? (skipComment (skipSpace s)) = some rest) : '\n' :: rest <:+ s :=
  calc
    '\n' :: rest <:+ skipComment (skipSpace s) := cons_suffix_of_afterLineEnd? ended
    _ <:+ skipSpace s := skipComment_suffix _
    _ <:+ s := skipSpace_suffix s

/-- What follows a line that has ended follows a line feed, unless nothing follows it. -/
theorem eq_nil_or_suffix_of_endLine {rest : List Char} (ended : endLine s = .ok rest) :
    rest = [] ∨ '\n' :: rest <:+ s := by
  unfold endLine at ended
  split at ended
  · exact .inl (Except.ok.inj ended).symm
  · split at ended
    · rename_i after
      obtain rfl := Except.ok.inj ended
      exact .inr (feed_suffix_of_afterLineEnd? after)
    · cases ended

theorem skipLines_suffix (more : Nat) (s : List Char) : skipLines more s <:+ s := by
  induction more generalizing s with
  | zero => exact List.suffix_rfl
  | succ more ih =>
    unfold skipLines
    split
    · rename_i rest after
      calc
        skipLines more rest <:+ rest := ih rest
        _ <:+ '\n' :: rest := List.suffix_cons _ _
        _ <:+ s := feed_suffix_of_afterLineEnd? after
    · exact skipSpace_suffix s

theorem skipGap_suffix (s : List Char) : skipGap s <:+ s := skipLines_suffix s.length s

theorem leaves_readName (s : List Char) : Leaves (readName s) s := by
  unfold readName
  split
  · exact ((leaves_readLineString .basic .plain _).cons _).map String.ofList
  · exact ((leaves_readLineString .literal .plain _).cons _).map String.ofList
  · split
    · exact leaves_error _
    · exact leaves_ok (List.dropWhile_suffix _)

theorem leaves_readNames (more : Nat) (s : List Char) : Leaves (readNames more s) s := by
  induction more generalizing s with
  | zero => exact leaves_error _
  | succ more ih =>
    unfold readNames
    split
    · exact leaves_error _
    · rename_i name rest read
      have left : skipSpace rest <:+ s :=
        (skipSpace_suffix rest).trans
          ((leaves_readName _ name rest read).trans (skipSpace_suffix s))
      split
      · rename_i rest' dot
        have left' : rest' <:+ s := (List.suffix_cons '.' rest').trans (dot ▸ left)
        exact ((ih rest').mono left').map (name :: ·)
      · exact leaves_ok left

theorem leaves_readKey (s : List Char) : Leaves (readKey s) s := by
  unfold readKey
  split
  · exact leaves_error _
  · rename_i names rest read
    split
    · exact leaves_ok (leaves_readNames _ s names rest read)
    · exact leaves_error _

/-! ### Values -/

theorem leaves_readScalar (s : List Char) : Leaves (readScalar s) s := by
  have left : s.dropWhile isScalarChar <:+ s := List.dropWhile_suffix _
  unfold readScalar
  dsimp only
  split
  · rename_i next _ blank
    have left' : next <:+ s := (List.suffix_cons ' ' next).trans (blank ▸ left)
    split_ifs
    · exact leaves_ok ((List.dropWhile_suffix _).trans left')
    · exact leaves_error _
    · exact leaves_ok left
  · split
    · exact leaves_ok left
    · exact leaves_error _

section Items

variable {readItem : List Char → Scan Value}

theorem leaves_readItems (leaves : ∀ s, Leaves (readItem s) s) (more : Nat) (s : List Char) :
    Leaves (readItems readItem more s) s := by
  induction more generalizing s with
  | zero => exact leaves_error _
  | succ more ih =>
    unfold readItems
    split
    · rename_i rest closed
      exact leaves_ok ((List.suffix_cons ']' rest).trans (closed ▸ skipGap_suffix s))
    · split
      · exact leaves_error _
      · rename_i item rest read
        have left : skipGap rest <:+ s :=
          (skipGap_suffix rest).trans ((leaves _ item rest read).trans (skipGap_suffix s))
        split
        · rename_i rest' comma
          have left' : rest' <:+ s := (List.suffix_cons ',' rest').trans (comma ▸ left)
          exact ((ih rest').mono left').map (item :: ·)
        · rename_i rest' closed
          exact leaves_ok ((List.suffix_cons ']' rest').trans (closed ▸ left))
        · exact leaves_error _

/-- The equals sign of a pair stands before what reading it leaves. -/
theorem exists_equals_of_readPair (leaves : ∀ s, Leaves (readItem s) s)
    {pair : DottedKey × Value} {rest : List Char} (read : readPair readItem s = .ok (pair, rest)) :
    ∃ after, '=' :: after <:+ s ∧ rest <:+ after := by
  unfold readPair at read
  split at read
  · cases read
  · rename_i key after keyed
    refine ⟨after, leaves_readKey s key _ keyed, ?_⟩
    exact ((leaves (skipSpace after)).mono (skipSpace_suffix after)).map _ pair rest read
  · cases read

theorem leaves_readPair (leaves : ∀ s, Leaves (readItem s) s) (s : List Char) :
    Leaves (readPair readItem s) s := by
  intro pair rest read
  obtain ⟨after, equals, left⟩ := exists_equals_of_readPair leaves read
  exact left.trans ((List.suffix_cons '=' after).trans equals)

theorem leaves_readPairs (leaves : ∀ s, Leaves (readItem s) s) (more : Nat) (s : List Char) :
    Leaves (readPairs readItem more s) s := by
  induction more generalizing s with
  | zero => exact leaves_error _
  | succ more ih =>
    unfold readPairs
    split
    · exact leaves_error _
    · rename_i pair rest read
      have left : skipSpace rest <:+ s :=
        (skipSpace_suffix rest).trans (leaves_readPair leaves s pair rest read)
      split
      · rename_i rest' comma
        have left' : rest' <:+ s := (List.suffix_cons ',' rest').trans (comma ▸ left)
        exact ((ih rest').mono left').map (pair :: ·)
      · rename_i rest' closed
        exact leaves_ok ((List.suffix_cons _ rest').trans (closed ▸ left))
      · exact leaves_error _

theorem leaves_readInlineTable (leaves : ∀ s, Leaves (readItem s) s) (s : List Char) :
    Leaves (readInlineTable readItem s) s := by
  unfold readInlineTable
  split
  · rename_i rest closed
    exact leaves_ok ((List.suffix_cons _ rest).trans (closed ▸ skipSpace_suffix s))
  · split
    · exact leaves_error _
    · rename_i pairs rest read
      intro value rest' found
      obtain ⟨entries, -, same⟩ := ok_of_map found
      obtain ⟨-, rfl⟩ := Prod.mk.inj same
      exact leaves_readPairs leaves _ s pairs rest read

end Items

theorem leaves_readValueWith {readItem : Option (List Char → Scan Value)}
    (leaves : ∀ read ∈ readItem, ∀ s, Leaves (read s) s) (s : List Char) :
    Leaves (readValueWith readItem s) s := by
  unfold readValueWith
  split
  · exact leaves_error _
  · exact leaves_error _
  · exact ((leaves_readItems (leaves _ rfl) _ _).cons _).map Value.array
  · exact (leaves_readInlineTable (leaves _ rfl) _).cons _
  · exact ((leaves_readQuoted .basic _).cons _).map Value.string
  · exact ((leaves_readQuoted .literal _).cons _).map Value.string
  · exact leaves_readScalar s

theorem leaves_readValue (depth : Nat) (s : List Char) : Leaves (readValue depth s) s := by
  induction depth generalizing s with
  | zero => exact leaves_readValueWith (by simp) s
  | succ depth ih =>
    apply leaves_readValueWith
    intro read held
    obtain rfl := Option.some.inj held
    exact ih

/-! ### Statements -/

theorem leaves_readHeader (s : List Char) : Leaves (readHeader s) s := by
  unfold readHeader
  split
  · split
    · rename_i key rest read
      have left := leaves_readKey _ key _ read
      exact (leaves_ok ((List.suffix_cons _ rest).trans ((List.suffix_cons _ _).trans left))).cons _
    · exact leaves_error _
    · exact leaves_error _
  · split
    · rename_i key rest read
      exact leaves_ok ((List.suffix_cons _ rest).trans (leaves_readKey s key _ read))
    · exact leaves_error _
    · exact leaves_error _

/-- Whether a character is the mark of a statement: the bracket of a header, or the equals sign of a
pair. -/
def isMark (c : Char) : Bool := c == '[' || c == '='

/-- The mark of a statement stands before what reading it leaves. -/
theorem exists_mark_of_readStatement {statement : Statement} {rest : List Char}
    (read : readStatement s = .ok (statement, rest)) :
    ∃ mark after, isMark mark = true ∧ mark :: after <:+ s ∧ rest <:+ after := by
  unfold readStatement at read
  split at read
  · rename_i after
    refine ⟨'[', after, rfl, List.suffix_rfl, ?_⟩
    exact (leaves_readHeader after).map _ statement rest read
  · obtain ⟨⟨pair, rest'⟩, paired, same⟩ := ok_of_map read
    obtain ⟨-, rfl⟩ := Prod.mk.inj same
    obtain ⟨after, equals, left⟩ := exists_equals_of_readPair (leaves_readValue _) paired
    exact ⟨'=', after, rfl, equals, left⟩

theorem leaves_readStatement (s : List Char) : Leaves (readStatement s) s := by
  intro statement rest read
  obtain ⟨mark, after, -, marked, left⟩ := exists_mark_of_readStatement read
  exact left.trans ((List.suffix_cons mark after).trans marked)

end SealedBuild.Toml
