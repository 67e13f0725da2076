import SealedBuild.Proofs.Regex.Matching

/-!
# Expressions that look at the word alone

What an expression without conditions describes does not depend on where it stands. It describes the
words of a kind, and the kind can be told part by part: single characters, a text spelled out, one
kind or another, a kind that may be missing, and any number of characters of a set.
-/

namespace SealedBuild.Regex

open Unicode

variable {L L' : List Char → Prop} {a b item : Node} {c d : Char}

/-- The words of a kind, wherever they stand. -/
def Anywhere (L : List Char → Prop) : Pattern := fun _ word _ => L word

theorem anywhere_congr (same : ∀ word, L word ↔ L' word) : Anywhere L = Anywhere L' :=
  congrArg Anywhere (funext fun word => propext (same word))

theorem then_anywhere (L L' : List Char → Prop) :
    Then (Anywhere L) (Anywhere L') =
      Anywhere fun word => ∃ first rest, word = first ++ rest ∧ L first ∧ L' rest := rfl

theorem describes_sequence (a b : Node) :
    (Node.sequence a b).Describes = Then a.Describes b.Describes := rfl

theorem describes_choice (described : a.Describes = Anywhere L)
    (described' : b.Describes = Anywhere L') :
    (Node.choice a b).Describes = Anywhere fun word => L word ∨ L' word := by
  rw [Node.Describes, described, described']
  rfl

theorem contains_single_iff : (CharSet.single c).contains d = true ↔ d = c := by
  rw [CharSet.single, CharSet.contains, decide_eq_true_iff]
  constructor
  · rintro ⟨low, high⟩
    exact Char.le_antisymm high low
  · rintro rfl
    exact ⟨Char.le_refl _, Char.le_refl _⟩

theorem describes_set (members : CharSet) :
    (Node.set members).Describes =
      Anywhere fun word => ∃ c, word = [c] ∧ members.contains c = true := rfl

theorem describes_single (c : Char) : (Node.set (.single c)).Describes = Anywhere (· = [c]) := by
  rw [describes_set]
  refine anywhere_congr fun word => ⟨?_, fun same => ⟨c, same, contains_single_iff.mpr rfl⟩⟩
  rintro ⟨d, rfl, member⟩
  rw [contains_single_iff.mp member]

/-- The expression of a text in front of another expression. -/
def Node.spelled (text : List Char) (rest : Node) : Node :=
  text.foldr (fun c node => .sequence (.set (.single c)) node) rest

theorem describes_spelled (text : List Char) (rest : Node) :
    (Node.spelled text rest).Describes = Then (Anywhere (· = text)) rest.Describes := by
  induction text with
  | nil => exact (then_nil _).symm
  | cons c text ih =>
      have joined : Then (Anywhere (· = [c])) (Anywhere (· = text)) = Anywhere (· = c :: text) := by
        rw [then_anywhere]
        exact anywhere_congr fun word => by simp
      rw [← joined, then_assoc, ← ih, ← describes_single]
      rfl

theorem describes_optional (described : item.Describes = Anywhere L) :
    (Node.counted item 0 (some 1)).Describes = Anywhere fun word => word = [] ∨ L word := by
  funext before word after
  refine propext ⟨?_, ?_⟩
  · rintro ⟨n, -, few, repeated⟩
    match n, few 1 rfl with
    | 0, _ => exact .inl repeated
    | 1, _ =>
        obtain ⟨first, _, rfl, one, rfl⟩ := repeated
        rw [described] at one
        exact .inr (by rwa [List.append_nil])
  · rintro (none | held)
    · exact ⟨0, Nat.zero_le _, fun _ _ => Nat.zero_le _, none⟩
    · refine ⟨1, Nat.zero_le _, fun limit given => ?_, word, [], (List.append_nil _).symm, ?_, rfl⟩
      · obtain rfl := Option.some.inj given
        exact Nat.le_max_right _ _
      · rwa [described]

theorem describes_many (members : CharSet) (low : Nat) :
    (Node.counted (.set members) low none).Describes =
      Anywhere fun word => low ≤ word.length ∧ ∀ c ∈ word, members.contains c = true := by
  funext before word after
  refine propext ⟨?_, ?_⟩
  · rintro ⟨n, least, -, repeated⟩
    obtain ⟨rfl, held⟩ := repeated_set_iff.mp repeated
    exact ⟨least, held⟩
  · rintro ⟨least, held⟩
    exact ⟨word.length, least, by simp, repeated_set_iff.mpr ⟨rfl, held⟩⟩

end SealedBuild.Regex
