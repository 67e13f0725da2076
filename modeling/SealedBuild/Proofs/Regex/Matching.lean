import SealedBuild.Regex

/-!
# What expressions describe

An expression describes a word where it stands: between the characters before it and those after it,
since a condition looks at both sides. Matching instead takes marks of positions to marks of
positions. It marks exactly the ends of the described words that start at a marked position, so an
expression matches in a line if and only if it describes some part of the line.

Repetitions are not followed forever. A repetition that takes no character can be left out, and
among the others there are no more than the text has characters; once a round adds no mark, no later
one does.

Main statement: `isMatch_iff`.
-/

namespace SealedBuild.Regex

open Unicode

/-- A relation between the characters before a word, the word, and the characters after it. -/
abbrev Pattern := List Char → List Char → List Char → Prop

/-- A word of the first pattern and then one of the second. -/
def Then (R R' : Pattern) : Pattern := fun before word after =>
  ∃ first rest, word = first ++ rest ∧ R before first (rest ++ after) ∧
    R' (before ++ first) rest after

/-- A number of words of a pattern, one after the other. -/
def Repeated (R : Pattern) : Nat → Pattern
  | 0 => fun _ word _ => word = []
  | n + 1 => Then R (Repeated R n)

/-- An expression describes a word between the characters before it and those after it. -/
def Node.Describes : Node → Pattern
  | .empty => fun _ word _ => word = []
  | .set members => fun _ word _ => ∃ c, word = [c] ∧ members.contains c = true
  | .look condition => fun before word after =>
    word = [] ∧ condition.holds before.getLast? after.head? = true
  | .sequence a b => Then a.Describes b.Describes
  | .choice a b => fun before word after =>
    a.Describes before word after ∨ b.Describes before word after
  | .counted item low high => fun before word after =>
    ∃ n, low ≤ n ∧ (∀ limit ∈ high, n ≤ max low limit) ∧ Repeated item.Describes n before word after

variable {R R' : Pattern} {before word after s : List Char} {n : Nat}

/-! ### Sequences of words -/

theorem then_nil (R : Pattern) : Then (fun _ word _ => word = []) R = R := by
  funext before word after
  refine propext ⟨?_, fun described => ⟨[], word, rfl, rfl, by rwa [List.append_nil]⟩⟩
  rintro ⟨_, rest, rfl, rfl, described⟩
  rwa [List.append_nil] at described

theorem then_assoc (R R' R'' : Pattern) : Then (Then R R') R'' = Then R (Then R' R'') := by
  funext before word after
  refine propext ⟨?_, ?_⟩
  · rintro ⟨_, third, rfl, ⟨first, second, rfl, one, two⟩, three⟩
    refine ⟨first, second ++ third, List.append_assoc _ _ _, ?_, second, third, rfl, two, ?_⟩
    · rwa [List.append_assoc]
    · rwa [List.append_assoc]
  · rintro ⟨first, _, rfl, one, second, third, rfl, two, three⟩
    refine ⟨first ++ second, third, (List.append_assoc _ _ _).symm, ⟨first, second, rfl, ?_, two⟩,
      ?_⟩
    · rwa [← List.append_assoc]
    · rwa [← List.append_assoc]

theorem then_repeated (R : Pattern) (m n : Nat) :
    Then (Repeated R m) (Repeated R n) = Repeated R (m + n) := by
  induction m with
  | zero => rw [Nat.zero_add]; exact then_nil _
  | succ m ih => rw [Nat.succ_add, Repeated, Repeated, then_assoc, ih]

/-- Words without characters can be left out, and no more than the characters are left. -/
theorem Repeated.exists_le (repeated : Repeated R n before word after) :
    ∃ k ≤ word.length, Repeated R k before word after := by
  induction n generalizing before word with
  | zero => exact ⟨0, Nat.zero_le _, repeated⟩
  | succ n ih =>
      obtain ⟨first, rest, rfl, one, others⟩ := repeated
      obtain ⟨k, few, others⟩ := ih others
      cases first with
      | nil => exact ⟨k, few, by rwa [List.append_nil] at others⟩
      | cons c first =>
          refine ⟨k + 1, ?_, c :: first, rest, rfl, one, others⟩
          rw [List.length_append, List.length_cons]
          omega

/-- At most so many words of a pattern, one after the other. -/
def AtMost (R : Pattern) (count : Nat) : Pattern := fun before word after =>
  ∃ n ≤ count, Repeated R n before word after

theorem atMost_zero (R : Pattern) : AtMost R 0 = fun _ word _ => word = [] := by
  funext before word after
  simp only [AtMost, Nat.le_zero_eq, exists_eq_left, Repeated]

theorem then_atMost (R : Pattern) (count : Nat) :
    Then (fun before word after => word = [] ∨ R before word after) (AtMost R count) =
      AtMost R (count + 1) := by
  funext before word after
  refine propext ⟨?_, ?_⟩
  · rintro ⟨first, rest, rfl, rfl | one, n, few, others⟩
    · exact ⟨n, Nat.le_succ_of_le few, by rwa [List.append_nil] at others⟩
    · exact ⟨n + 1, Nat.succ_le_succ few, first, rest, rfl, one, others⟩
  · rintro ⟨n, few, described⟩
    cases n with
    | zero => exact ⟨[], word, rfl, .inl rfl, 0, Nat.zero_le _, described⟩
    | succ n =>
        obtain ⟨first, rest, rfl, one, others⟩ := described
        exact ⟨first, rest, rfl, .inr one, n, Nat.le_of_succ_le_succ few, others⟩

theorem repeated_set_iff {members : CharSet} :
    Repeated (Node.set members).Describes n before word after ↔
      word.length = n ∧ ∀ c ∈ word, members.contains c = true := by
  induction n generalizing before word with
  | zero =>
      rw [List.length_eq_zero_iff]
      exact ⟨fun none => ⟨none, by simp [show word = [] from none]⟩, fun none => none.1⟩
  | succ n ih =>
      constructor
      · rintro ⟨_, rest, rfl, ⟨c, rfl, member⟩, others⟩
        obtain ⟨length, members⟩ := ih.mp others
        exact ⟨congrArg Nat.succ length, List.forall_mem_cons.mpr ⟨member, members⟩⟩
      · rintro ⟨length, members⟩
        cases word with
        | nil => cases length
        | cons c rest =>
            obtain ⟨member, members⟩ := List.forall_mem_cons.mp members
            exact ⟨[c], rest, rfl, ⟨c, rfl, member⟩, ih.mpr ⟨Nat.succ.inj length, members⟩⟩

/-- So many words and then some more of them, counted together. -/
theorem then_more_iff {p : Nat → Prop} {low : Nat} :
    Then (Repeated R low) (fun before word after => ∃ more, p more ∧
        Repeated R more before word after) before word after ↔
      ∃ n, low ≤ n ∧ p (n - low) ∧ Repeated R n before word after := by
  constructor
  · rintro ⟨first, rest, rfl, exactly, more, held, others⟩
    refine ⟨low + more, Nat.le_add_right _ _, by rwa [Nat.add_sub_cancel_left], ?_⟩
    rw [← then_repeated]
    exact ⟨first, rest, rfl, exactly, others⟩
  · rintro ⟨n, least, held, described⟩
    obtain ⟨more, rfl⟩ := Nat.exists_eq_add_of_le least
    rw [Nat.add_sub_cancel_left] at held
    rw [← then_repeated] at described
    obtain ⟨first, rest, rfl, exactly, others⟩ := described
    exact ⟨first, rest, rfl, exactly, more, held, others⟩

theorem describes_counted_some_iff {item : Node} {low limit : Nat} :
    (Node.counted item low (some limit)).Describes before word after ↔
      Then (Repeated item.Describes low) (AtMost item.Describes (limit - low))
        before word after := by
  refine Iff.trans ?_ then_more_iff.symm
  refine exists_congr fun n => and_congr_right fun least => and_congr_left fun _ => ?_
  simp only [Option.mem_some_iff, forall_eq']
  omega

theorem describes_counted_none_iff {item : Node} {low : Nat} :
    (Node.counted item low none).Describes before word after ↔
      Then (Repeated item.Describes low)
        (fun before word after => ∃ n, Repeated item.Describes n before word after)
        before word after := by
  have more : Then (Repeated item.Describes low)
      (fun before word after => ∃ n, True ∧ Repeated item.Describes n before word after)
      before word after ↔ ∃ n, low ≤ n ∧ True ∧ Repeated item.Describes n before word after :=
    then_more_iff
  simp only [true_and] at more
  rw [more]
  exact exists_congr fun n => and_congr_right fun _ => and_iff_right (by simp)

/-! ### Marks -/

/-- There is one mark for each position of a text, and the positions that are marked are those with
the property. A position is told by the characters before it and those after it. -/
inductive Marked (P : List Char → List Char → Prop) : List Char → List Char → Marks → Prop
  | nil {before : List Char} {mark : Bool} (marks_iff : mark = true ↔ P before []) :
      Marked P before [] [mark]
  | cons {before : List Char} {c : Char} {s : List Char} {mark : Bool} {marks : Marks}
      (marks_iff : mark = true ↔ P before (c :: s)) (later : Marked P (before ++ [c]) s marks) :
      Marked P before (c :: s) (mark :: marks)

/-- The positions behind a word that starts at one with the property. -/
def Behind (P : List Char → List Char → Prop) (R : Pattern) (before after : List Char) : Prop :=
  ∃ earlier word, before = earlier ++ word ∧ P earlier (word ++ after) ∧ R earlier word after

variable {P Q : List Char → List Char → Prop} {marks marks' : Marks} {here : Bool}
  {wanted : Char → Bool}

namespace Marked

theorem congr (marked : Marked P before s marks)
    (same : ∀ earlier later, before ++ s = earlier ++ later → (P earlier later ↔ Q earlier later)) :
    Marked Q before s marks := by
  induction marked with
  | nil marks_iff => exact .nil (marks_iff.trans (same _ _ rfl))
  | cons marks_iff later ih =>
      refine .cons (marks_iff.trans (same _ _ rfl)) (ih fun earlier later split => same _ _ ?_)
      rw [← split, List.append_assoc, List.singleton_append]

/-- The same marks tell the same positions. -/
theorem iff_of_marked (marked : Marked P before s marks) (marked' : Marked Q before s marks)
    {part rest : List Char} (split : s = part ++ rest) :
    P (before ++ part) rest ↔ Q (before ++ part) rest := by
  induction marked generalizing part with
  | nil marks_iff =>
      obtain ⟨rfl, rfl⟩ := List.append_eq_nil_iff.mp split.symm
      cases marked' with
      | nil marks_iff' => rw [List.append_nil, ← marks_iff, marks_iff']
  | cons marks_iff later ih =>
      cases marked' with
      | cons marks_iff' later' =>
          cases part with
          | nil =>
              obtain rfl : _ = rest := split
              rw [List.append_nil, ← marks_iff, marks_iff']
          | cons d part =>
              obtain ⟨rfl, within⟩ := List.cons.inj split
              rw [List.append_cons]
              exact ih later' within

theorem any_iff (marked : Marked P before s marks) :
    marks.any id = true ↔ ∃ part rest, s = part ++ rest ∧ P (before ++ part) rest := by
  induction marked with
  | nil marks_iff =>
      rw [List.any_cons, List.any_nil, Bool.or_false, id, marks_iff]
      constructor
      · exact fun held => ⟨[], [], rfl, by rwa [List.append_nil]⟩
      · rintro ⟨part, rest, split, held⟩
        obtain ⟨rfl, rfl⟩ := List.append_eq_nil_iff.mp split.symm
        rwa [List.append_nil] at held
  | cons marks_iff later ih =>
      rw [List.any_cons, Bool.or_eq_true, id, marks_iff, ih]
      constructor
      · rintro (held | ⟨part, rest, rfl, held⟩)
        · exact ⟨[], _, rfl, by rwa [List.append_nil]⟩
        · exact ⟨_ :: part, rest, rfl, by rwa [List.append_cons]⟩
      · rintro ⟨part, rest, split, held⟩
        cases part with
        | nil =>
            obtain rfl : _ = rest := split
            exact .inl (by rwa [List.append_nil] at held)
        | cons d part =>
            obtain ⟨rfl, within⟩ := List.cons.inj split
            exact .inr ⟨part, rest, within, by rwa [List.append_cons] at held⟩

theorem replicate (before s : List Char) :
    Marked (fun _ _ => True) before s (List.replicate (s.length + 1) true) := by
  induction s generalizing before with
  | nil => exact .nil (by simp)
  | cons c s ih => exact .cons (by simp) (ih _)

theorem join (marked : Marked P before s marks) (marked' : Marked Q before s marks') :
    Marked (fun earlier later => P earlier later ∨ Q earlier later) before s
      (Marks.join marks marks') := by
  induction marked generalizing marks' with
  | nil marks_iff =>
      cases marked' with
      | nil marks_iff' => exact .nil (by rw [Bool.or_eq_true, marks_iff, marks_iff'])
  | cons marks_iff later ih =>
      cases marked' with
      | cons marks_iff' later' =>
          exact .cons (by rw [Bool.or_eq_true, marks_iff, marks_iff']) (ih later')

theorem filter (condition : Look) (marked : Marked P before s marks) :
    Marked (fun earlier later => P earlier later ∧
        condition.holds earlier.getLast? later.head? = true) before s
      (Marks.filter condition before.getLast? s marks) := by
  induction marked with
  | nil marks_iff => exact .nil (by rw [Bool.and_eq_true, marks_iff]; rfl)
  | cons marks_iff later ih =>
      rw [List.getLast?_append, List.getLast?_singleton, Option.some_or] at ih
      exact .cons (by rw [Bool.and_eq_true, marks_iff]; rfl) ih

theorem advanceFrom (marked : Marked P before s marks) (first : here = true ↔ Q before s)
    (next : ∀ earlier c later, before ++ s = earlier ++ c :: later →
      (Q (earlier ++ [c]) later ↔ P earlier (c :: later) ∧ wanted c = true)) :
    Marked Q before s (Marks.advanceFrom wanted here s marks) := by
  induction marked generalizing here with
  | nil marks_iff => exact .nil first
  | cons marks_iff later ih =>
      refine .cons first (ih ?_ fun earlier c later split => next _ _ _ ?_)
      · rw [Bool.and_eq_true, marks_iff, next _ _ _ rfl]
      · rw [← split, List.append_assoc, List.singleton_append]

theorem sweep (marked : Marked P before s marks)
    (first : Q before s ↔ here = true ∨ P before s)
    (next : ∀ earlier c later, before ++ s = earlier ++ c :: later →
      (Q (earlier ++ [c]) later ↔
        (Q earlier (c :: later) ∧ wanted c = true) ∨ P (earlier ++ [c]) later)) :
    Marked Q before s (Marks.sweep wanted here s marks) := by
  induction marked generalizing here with
  | nil marks_iff => exact .nil (by rw [Bool.or_eq_true, marks_iff, first])
  | @cons before c s mark marks marks_iff later ih =>
      have reached : (here || mark) = true ↔ Q before (c :: s) := by
        rw [Bool.or_eq_true, marks_iff, first]
      refine .cons reached (ih ?_ fun earlier c later split => next _ _ _ ?_)
      · rw [Bool.and_eq_true, reached, next _ _ _ rfl]
      · rw [← split, List.append_assoc, List.singleton_append]

end Marked

/-! ### What a step does to the marks -/

theorem behind_then (P : List Char → List Char → Prop) (R R' : Pattern) :
    Behind (Behind P R) R' = Behind P (Then R R') := by
  funext before after
  refine propext ⟨?_, ?_⟩
  · rintro ⟨_, second, rfl, ⟨earlier, first, rfl, held, one⟩, two⟩
    refine ⟨earlier, first ++ second, List.append_assoc _ _ _, ?_, first, second, rfl, one, two⟩
    rwa [List.append_assoc]
  · rintro ⟨earlier, _, rfl, held, first, second, rfl, one, two⟩
    refine ⟨earlier ++ first, second, (List.append_assoc _ _ _).symm,
      ⟨earlier, first, rfl, ?_, one⟩, two⟩
    rwa [← List.append_assoc]

theorem behind_nil (P : List Char → List Char → Prop) :
    Behind P (fun _ word _ => word = []) = P := by
  funext before after
  refine propext ⟨?_, fun held => ⟨before, [], (List.append_nil _).symm, held, rfl⟩⟩
  rintro ⟨earlier, _, rfl, held, rfl⟩
  rwa [List.append_nil]

/-- A step takes marks of positions to marks of those behind a word of the pattern. -/
structure Carries (s : List Char) (step : Marks → Marks) (R : Pattern) : Prop where
  marked : ∀ {P : List Char → List Char → Prop} {marks : Marks}, Marked P [] s marks →
    Marked (Behind P R) [] s (step marks)

variable {step step' : Marks → Marks}

namespace Carries

theorem congr (carries : Carries s step R)
    (same : ∀ before word after, s = before ++ word ++ after →
      (R before word after ↔ R' before word after)) : Carries s step R' := by
  refine ⟨fun {P marks} marked => (carries.marked marked).congr fun earlier later split => ?_⟩
  constructor
  · rintro ⟨before, word, rfl, held, described⟩
    exact ⟨before, word, rfl, held, (same _ _ _ split).mp described⟩
  · rintro ⟨before, word, rfl, held, described⟩
    exact ⟨before, word, rfl, held, (same _ _ _ split).mpr described⟩

theorem comp (carries : Carries s step R) (carries' : Carries s step' R') :
    Carries s (fun marks => step' (step marks)) (Then R R') := by
  refine ⟨fun {P marks} marked => ?_⟩
  rw [← behind_then]
  exact carries'.marked (carries.marked marked)

theorem choice (carries : Carries s step R) (carries' : Carries s step' R') :
    Carries s (fun marks => Marks.join (step marks) (step' marks))
      (fun before word after => R before word after ∨ R' before word after) := by
  refine ⟨fun {P marks} marked =>
    ((carries.marked marked).join (carries'.marked marked)).congr fun earlier later split => ?_⟩
  simp only [Behind, and_or_left, exists_or]

theorem iterate (carries : Carries s step R) (n : Nat) :
    Carries s (Marks.iterate step n) (Repeated R n) := by
  induction n with
  | zero =>
      refine ⟨fun {P marks} marked => ?_⟩
      rw [Repeated, behind_nil]
      exact marked
  | succ n ih =>
      refine ⟨fun {P marks} marked => ?_⟩
      unfold Marks.iterate
      split
      next => exact (carries.comp ih).marked marked
      next unmarked =>
        -- without a marked position there is nothing behind it either
        refine marked.congr fun earlier later split => ?_
        have nowhere {part rest : List Char} (split : s = part ++ rest) : ¬ P part rest :=
          fun held => unmarked (marked.any_iff.mpr ⟨part, rest, split, held⟩)
        refine ⟨fun held => absurd held (nowhere split), ?_⟩
        rintro ⟨before, word, rfl, held, -⟩
        exact absurd held (nowhere (split.trans (List.append_assoc _ _ _)))

theorem nil : Carries s (fun marks => marks) (fun _ word _ => word = []) := by
  refine ⟨fun {P marks} marked => ?_⟩
  rwa [behind_nil]

/-- Once a round adds no mark, all positions are marked that further rounds lead to. -/
theorem closed (carries : Carries s step R) (marked : Marked P [] s marks)
    (same : Marks.join marks (step marks) = marks) (described : Repeated R n before word after)
    (split : s = before ++ word ++ after) (held : P before (word ++ after)) :
    P (before ++ word) after := by
  induction n generalizing before word with
  | zero =>
      obtain rfl : word = [] := described
      rwa [List.append_nil]
  | succ n ih =>
      obtain ⟨first, rest, rfl, one, others⟩ := described
      have split' : s = before ++ first ++ (rest ++ after) := by
        rw [split]
        simp only [List.append_assoc]
      have added := marked.join (carries.marked marked)
      rw [same] at added
      rw [List.append_assoc] at held
      have next : P (before ++ first) (rest ++ after) :=
        (added.iff_of_marked marked split').mp (.inr ⟨before, first, rfl, held, one⟩)
      rw [← List.append_assoc] at split' ⊢
      exact ih others split' next

theorem closure (carries : Carries s step R) (count : Nat) :
    Carries s (Marks.closure step count) (AtMost R count) := by
  induction count with
  | zero =>
      refine ⟨fun {P marks} marked => ?_⟩
      rw [atMost_zero, behind_nil]
      exact marked
  | succ count ih =>
      refine ⟨fun {P marks} marked => ?_⟩
      unfold Marks.closure
      dsimp only
      split
      next same =>
        refine marked.congr fun earlier later split => ?_
        constructor
        · exact fun held => ⟨earlier, [], (List.append_nil _).symm, held, 0, Nat.zero_le _, rfl⟩
        · rintro ⟨before, word, rfl, held, n, -, described⟩
          exact carries.closed marked same described split held
      next =>
        -- a round may also stay where it is, so one more round allows one more word at most
        rw [← then_atMost]
        exact ((nil.choice carries).comp ih).marked marked

theorem advance (members : CharSet) :
    Carries s (Marks.advance members.contains s) (Node.set members).Describes := by
  refine ⟨fun {P marks} marked => marked.advanceFrom ?_ fun earlier c later split => ?_⟩
  · constructor
    · rintro ⟨⟩
    · rintro ⟨before, _, none, -, c, rfl, -⟩
      exact absurd none.symm (List.append_ne_nil_of_right_ne_nil _ (List.cons_ne_nil _ _))
  · constructor
    · rintro ⟨before, _, same, held, d, rfl, member⟩
      obtain ⟨rfl, rfl⟩ := List.append_singleton_inj.mp same
      exact ⟨held, member⟩
    · rintro ⟨held, member⟩
      exact ⟨earlier, [c], rfl, held, c, rfl, member⟩

theorem filter (condition : Look) :
    Carries s (Marks.filter condition none s) (Node.look condition).Describes := by
  refine ⟨fun {P marks} marked => (marked.filter condition).congr fun earlier later split => ?_⟩
  constructor
  · rintro ⟨held, holds⟩
    exact ⟨earlier, [], (List.append_nil _).symm, held, rfl, holds⟩
  · rintro ⟨before, _, rfl, held, rfl, holds⟩
    rw [List.append_nil]
    exact ⟨held, holds⟩

theorem sweep (members : CharSet) :
    Carries s (Marks.sweep members.contains false s)
      (fun _ word _ => ∀ c ∈ word, members.contains c = true) := by
  refine ⟨fun {P marks} marked => marked.sweep ?_ fun earlier c later split => ?_⟩
  · constructor
    · rintro ⟨before, word, none, held, -⟩
      obtain ⟨rfl, rfl⟩ := List.append_eq_nil_iff.mp none.symm
      exact .inr held
    · rintro (none | held)
      · cases none
      · exact ⟨[], [], rfl, held, by simp⟩
  · constructor
    · rintro ⟨before, word, same, held, members⟩
      rcases List.eq_nil_or_concat word with rfl | ⟨word, d, rfl⟩
      · rw [List.append_nil] at same
        subst same
        exact .inr held
      · rw [List.concat_eq_append] at same held members
        rw [← List.append_assoc] at same
        obtain ⟨rfl, rfl⟩ := List.append_singleton_inj.mp same
        obtain ⟨members, member⟩ := List.forall_mem_append.mp members
        refine .inl ⟨⟨before, word, rfl, ?_, members⟩, member c List.mem_cons_self⟩
        rwa [List.append_assoc] at held
    · rintro (⟨⟨before, word, rfl, held, members⟩, member⟩ | held)
      · refine ⟨before, word ++ [c], List.append_assoc _ _ _, ?_, ?_⟩
        · rwa [List.append_assoc]
        · exact List.forall_mem_append.mpr ⟨members, by simpa using member⟩
      · exact ⟨earlier ++ [c], [], (List.append_nil _).symm, held, by simp⟩

theorem counted_some {item : Node} (carries : Carries s step item.Describes) (low limit : Nat) :
    Carries s (fun marks => Marks.closure step (limit - low) (Marks.iterate step low marks))
      (Node.counted item low (some limit)).Describes :=
  ((carries.iterate low).comp (carries.closure (limit - low))).congr
    fun _ _ _ _ => describes_counted_some_iff.symm

/-- A text has no place for more repetitions than it has characters, unless they take none. -/
theorem counted_none {item : Node} (carries : Carries s step item.Describes) (low : Nat) :
    Carries s (fun marks => Marks.closure step (s.length + 1) (Marks.iterate step low marks))
      (Node.counted item low none).Describes := by
  have more : Carries s (Marks.closure step (s.length + 1))
      (fun before word after => ∃ n, Repeated item.Describes n before word after) := by
    refine (carries.closure _).congr fun before word after split => ?_
    constructor
    · rintro ⟨n, -, described⟩
      exact ⟨n, described⟩
    · rintro ⟨n, described⟩
      obtain ⟨k, few, described⟩ := described.exists_le
      have short : word.length ≤ s.length := by
        rw [split]
        simp only [List.length_append]
        omega
      exact ⟨k, by omega, described⟩
  exact ((carries.iterate low).comp more).congr fun _ _ _ _ => describes_counted_none_iff.symm

/-- An unlimited repetition of single characters is done in one go. -/
theorem counted_set (members : CharSet) (low : Nat) :
    Carries s (fun marks => Marks.sweep members.contains false s
        (Marks.iterate (Marks.advance members.contains s) low marks))
      (Node.counted (.set members) low none).Describes := by
  have more : Carries s (Marks.sweep members.contains false s)
      (fun before word after => ∃ n, Repeated (Node.set members).Describes n before word after) :=
    (Carries.sweep members).congr fun before word after split => by simp [repeated_set_iff]
  exact (((Carries.advance members).iterate low).comp more).congr
    fun _ _ _ _ => describes_counted_none_iff.symm

end Carries

/-- The marks that an expression makes are those of the ends of the words that it describes. -/
theorem carries_ends (s : List Char) (node : Node) : Carries s (node.ends s) node.Describes := by
  induction node with
  | empty => exact Carries.nil
  | set members => exact Carries.advance members
  | look condition => exact Carries.filter condition
  | sequence a b ihA ihB => exact ihA.comp ihB
  | choice a b ihA ihB => exact ihA.choice ihB
  | counted item low high ih =>
      cases high with
      | some limit => cases item <;> exact ih.counted_some low limit
      | none =>
          cases item with
          | set members => exact Carries.counted_set members low
          | _ => exact ih.counted_none low

/-- An expression matches somewhere in a text if and only if it describes a part of it. -/
theorem occursIn_iff {node : Node} :
    node.occursIn s = true ↔
      ∃ before word after, s = before ++ word ++ after ∧ node.Describes before word after := by
  rw [Node.occursIn, ((carries_ends s node).marked (Marked.replicate [] s)).any_iff]
  constructor
  · rintro ⟨_, after, split, before, word, rfl, -, described⟩
    exact ⟨before, word, after, split, described⟩
  · rintro ⟨before, word, after, split, described⟩
    exact ⟨before ++ word, after, split, before, word, rfl, trivial, described⟩

/-- A line matches if and only if the expression describes a part of it. -/
theorem isMatch_iff {regex : Regex} {line : String} :
    regex.isMatch line = true ↔ ∃ before word after, line.toList = before ++ word ++ after ∧
      regex.node.Describes before word after := occursIn_iff

end SealedBuild.Regex
