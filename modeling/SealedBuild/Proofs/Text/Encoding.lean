import SealedBuild.Text.Bytes

/-!
# Texts and their bytes

The bytes of a text are the encodings of its characters, one after the other. Both ways to read
bytes lead back from them to the text: the strict one reads exactly the bytes of texts, and the
lenient one replaces nothing in them.

A lenient reader takes a character at a time. That it finds the characters of a text is shown for
one character first, with anything behind it; each length of an encoding is a case of its own, as it
is for the reader.

Main statements: `text?_eq_some_iff` and `lenientText_ofString`.
-/

namespace SealedBuild.Bytes

variable {bytes : Bytes} {s : String} {c : Char}

/-- Bytes are text if they are the bytes of a text. -/
theorem text?_eq_some_iff : bytes.text? = some s ↔ bytes = ofString s := by
  have array : (⟨bytes.toArray⟩ : ByteArray) = s.toByteArray ↔ bytes = ofString s := by
    rw [ofString, String.toUTF8_eq_toByteArray, ByteArray.ext_iff, ← Array.toList_inj]
  rw [text?, String.fromUTF8?, ← array]
  constructor
  · intro read
    split at read
    · obtain rfl := Option.some.inj read
      rfl
    · cases read
  · intro eq
    rw [dif_pos (eq ▸ s.isValidUTF8)]
    exact congrArg some (String.toByteArray_inj.mp eq)

@[simp] theorem text?_ofString (s : String) : (ofString s).text? = some s :=
  text?_eq_some_iff.mpr rfl

theorem ofString_inj {s t : String} : ofString s = ofString t ↔ s = t := by
  refine ⟨fun same => ?_, congrArg ofString⟩
  simpa using congrArg text? same

theorem ofString_eq_flatMap (s : String) :
    ofString s = s.toList.flatMap String.utf8EncodeChar := by
  have bytes : s.toUTF8 = s.toList.utf8Encode := by
    simp
  rw [ofString, bytes, List.utf8Encode]
  simp

theorem ofString_append (s t : String) : ofString (s ++ t) = ofString s ++ ofString t := by
  rw [ofString_eq_flatMap, ofString_eq_flatMap, ofString_eq_flatMap, String.toList_append,
    List.flatMap_append]

/-! ### Bytes that stand for themselves -/

/-- The bytes of characters. -/
def encoded (s : List Char) : Bytes := s.flatMap String.utf8EncodeChar

theorem encoded_append (s t : List Char) : encoded (s ++ t) = encoded s ++ encoded t :=
  List.flatMap_append

theorem ofString_ofList (s : List Char) : ofString (String.ofList s) = encoded s := by
  rw [ofString_eq_flatMap, String.toList_ofList, encoded]

/-- A byte below 128 stands for itself, wherever it occurs. -/
theorem utf8EncodeChar_of_mem {c : Char} {b : UInt8} (held : b ∈ String.utf8EncodeChar c)
    (small : b.toNat < 0x80) : c.toNat = b.toNat ∧ String.utf8EncodeChar c = [b] := by
  have code : c.toNat = c.val.toNat := rfl
  unfold String.utf8EncodeChar at held ⊢
  rw [code]
  generalize c.val.toNat = n at held ⊢
  by_cases low : n ≤ 0x7f
  · rw [if_pos low] at held ⊢
    obtain rfl := List.mem_singleton.mp held
    rw [UInt8.toNat_ofNat']
    exact ⟨by omega, rfl⟩
  -- In a longer encoding all bytes are above 127.
  · exfalso
    rw [if_neg low] at held
    split at held
    · simp only [List.mem_cons, List.not_mem_nil, or_false] at held
      rcases held with rfl | rfl <;> rw [UInt8.toNat_ofNat'] at small <;> omega
    · split at held
      · simp only [List.mem_cons, List.not_mem_nil, or_false] at held
        rcases held with rfl | rfl | rfl <;> rw [UInt8.toNat_ofNat'] at small <;> omega
      · simp only [List.mem_cons, List.not_mem_nil, or_false] at held
        rcases held with rfl | rfl | rfl | rfl <;> rw [UInt8.toNat_ofNat'] at small <;> omega

/-- Bytes hold a byte below 128 if the text holds its character. -/
theorem mem_encoded_iff {c : Char} {b : UInt8} (alone : String.utf8EncodeChar c = [b])
    (small : b.toNat < 0x80) {s : List Char} : b ∈ encoded s ↔ c ∈ s := by
  have code : c.toNat = b.toNat :=
    (utf8EncodeChar_of_mem (alone ▸ List.mem_singleton_self b) small).1
  rw [encoded, List.mem_flatMap]
  constructor
  · rintro ⟨d, held, mem⟩
    have same : d.toNat = c.toNat := (utf8EncodeChar_of_mem mem small).1.trans code.symm
    obtain rfl : d = c := Char.toNat_inj.mp same
    exact held
  · exact fun held => ⟨c, held, alone ▸ List.mem_singleton_self b⟩

theorem encoded_singleton_ne_nil (c : Char) : encoded [c] ≠ [] := by
  simp [encoded]

theorem head?_encoded_eq_some_iff {b : UInt8} (alone : String.utf8EncodeChar c = [b])
    (small : b.toNat < 0x80) {s : List Char} :
    (encoded s).head? = some b ↔ s.head? = some c := by
  cases s with
  | nil => simp [encoded]
  | cons d s =>
    have split : encoded (d :: s) = encoded [d] ++ encoded s := encoded_append [d] s
    have front : (encoded (d :: s)).head? = (encoded [d]).head? := by
      rw [split, List.head?_append, List.head?_eq_some_head (encoded_singleton_ne_nil d),
        Option.some_or]
    rw [List.head?_cons, Option.some.injEq, front]
    constructor
    · intro first
      have mem := (mem_encoded_iff alone small).mp (List.mem_of_head? first)
      exact (List.mem_singleton.mp mem).symm
    · rintro rfl
      simp [encoded, alone]

theorem getLast?_encoded_eq_some_iff {b : UInt8} (alone : String.utf8EncodeChar c = [b])
    (small : b.toNat < 0x80) {s : List Char} :
    (encoded s).getLast? = some b ↔ s.getLast? = some c := by
  rcases List.eq_nil_or_concat s with rfl | ⟨init, d, rfl⟩
  · simp [encoded]
  · have back : (encoded (init ++ [d])).getLast? = (encoded [d]).getLast? := by
      rw [encoded_append, List.getLast?_append,
        List.getLast?_eq_some_getLast (encoded_singleton_ne_nil d), Option.some_or]
    rw [List.concat_eq_append, List.getLast?_concat, Option.some.injEq, back]
    constructor
    · intro last
      have mem := (mem_encoded_iff alone small).mp (List.mem_of_getLast? last)
      exact (List.mem_singleton.mp mem).symm
    · rintro rfl
      simp [encoded, alone]

/-! ### Reading one character -/

theorem toNat_ofNat {n : Nat} (isByte : n < 256) : (UInt8.ofNat n).toNat = n :=
  UInt8.toNat_ofNat_of_lt' isByte

/-- The digits of a number in base 64 are read one after the other. -/
theorem continuation_cons {low high count value digit taken code : Nat} {rest : Bytes}
    (least : low ≤ digit % 64 + 0x80) (greatest : digit % 64 + 0x80 ≤ high)
    (more : continuation 0x80 0xbf count (value * 64 + digit % 64) rest = (taken, some code)) :
    continuation low high (count + 1) value (UInt8.ofNat (digit % 64 + 0x80) :: rest) =
      (taken + 1, some code) := by
  rw [continuation, toNat_ofNat (by omega), if_pos ⟨least, greatest⟩, Nat.add_sub_cancel, more]

/-- A character is read if its first byte promises further bytes and these are there. -/
theorem firstChar_of_lead {first low high count value taken code : Nat} {rest : Bytes}
    (isByte : first < 256) (isLong : 0x80 ≤ first)
    (isLead : lead (UInt8.ofNat first) = some (low, high, count, value))
    (more : continuation low high count value rest = (taken, some code)) :
    firstChar (UInt8.ofNat first) rest = (Char.ofNat code, taken) := by
  rw [firstChar, toNat_ofNat isByte, if_neg (Nat.not_lt_of_le isLong), isLead]
  simp only [more]

/-- The first byte of three leaves room for the two others only where they spell a character. -/
theorem exists_lead_three {code : Nat} (least : 0x800 ≤ code) (greatest : code < 0x10000)
    (noSurrogate : ¬ (0xd800 ≤ code ∧ code < 0xe000)) : ∃ low high,
      lead (UInt8.ofNat (code / 4096 % 16 + 0xe0)) = some (low, high, 2, code / 4096) ∧
      low ≤ code / 64 % 64 + 0x80 ∧ code / 64 % 64 + 0x80 ≤ high := by
  unfold lead
  rw [toNat_ofNat (by omega)]
  by_cases lowest : code / 4096 = 0
  · exact ⟨0xa0, 0xbf, by simp [lowest], by omega, by omega⟩
  by_cases split : code / 4096 = 0xd
  · exact ⟨0x80, 0x9f, by simp [split], by omega, by omega⟩
  · have value : code / 4096 % 16 + 0xe0 - 0xe0 = code / 4096 := by omega
    refine ⟨0x80, 0xbf, ?_, by omega, by omega⟩
    dsimp only
    rw [if_neg (by omega), if_neg (by omega), if_neg (by omega), if_neg (by omega),
      if_pos (by omega), value]

/-- The first byte of four leaves room for the three others only where they spell a character. -/
theorem exists_lead_four {code : Nat} (least : 0x10000 ≤ code) (greatest : code < 0x110000) :
    ∃ low high,
      lead (UInt8.ofNat (code / 262144 % 8 + 0xf0)) = some (low, high, 3, code / 262144) ∧
      low ≤ code / 4096 % 64 + 0x80 ∧ code / 4096 % 64 + 0x80 ≤ high := by
  unfold lead
  rw [toNat_ofNat (by omega)]
  by_cases lowest : code / 262144 = 0
  · exact ⟨0x90, 0xbf, by simp [lowest], by omega, by omega⟩
  by_cases last : code / 262144 = 4
  · exact ⟨0x80, 0x8f, by simp [last], by omega, by omega⟩
  · have value : code / 262144 % 8 + 0xf0 - 0xf0 = code / 262144 := by omega
    refine ⟨0x80, 0xbf, ?_, by omega, by omega⟩
    dsimp only
    rw [if_neg (by omega), if_neg (by omega), if_neg (by omega), if_neg (by omega),
      if_neg (by omega), if_neg (by omega), if_pos (by omega), value]

/-- The codes of characters, without the surrogates. -/
theorem code_bounds (c : Char) :
    c.toNat < 0x110000 ∧ ¬ (0xd800 ≤ c.toNat ∧ c.toNat < 0xe000) := by
  have code : c.toNat = c.val.toNat := rfl
  rcases c.valid with low | ⟨low, high⟩ <;> rw [code] <;> omega

/-- The encoding of a character is read back, whatever is behind it. -/
theorem firstChar_utf8EncodeChar (c : Char) (rest : Bytes) :
    ∃ b more, String.utf8EncodeChar c = b :: more ∧
      firstChar b (more ++ rest) = (c, more.length) := by
  have ⟨greatest, noSurrogate⟩ := code_bounds c
  have back {code : Nat} (same : code = c.toNat) : Char.ofNat code = c :=
    same ▸ Char.ofNat_toNat c
  have code : c.val.toNat = c.toNat := rfl
  unfold String.utf8EncodeChar
  rw [code]
  generalize c.toNat = n at greatest noSurrogate back
  dsimp only
  split
  next one =>
    refine ⟨_, [], rfl, ?_⟩
    rw [firstChar, toNat_ofNat (by omega), if_pos (by omega), back rfl]
    rfl
  next more =>
  split
  next two =>
    refine ⟨_, [UInt8.ofNat (n % 64 + 0x80)], rfl, ?_⟩
    have isLead : lead (UInt8.ofNat (n / 64 % 32 + 0xc0)) = some (0x80, 0xbf, 1, n / 64) := by
      have value : n / 64 % 32 + 0xc0 - 0xc0 = n / 64 := by omega
      unfold lead
      rw [toNat_ofNat (by omega)]
      dsimp only
      rw [if_neg (by omega), if_pos (by omega), value]
    rw [List.singleton_append, firstChar_of_lead (by omega) (by omega) isLead
      (continuation_cons (by omega) (by omega) rfl), back (by omega)]
    rfl
  next more =>
  split
  next three =>
    refine ⟨_, [UInt8.ofNat (n / 64 % 64 + 0x80), UInt8.ofNat (n % 64 + 0x80)], rfl, ?_⟩
    obtain ⟨low, high, isLead, fits, fits'⟩ := exists_lead_three (by omega) (by omega) noSurrogate
    rw [List.cons_append, List.singleton_append, firstChar_of_lead (by omega) (by omega) isLead
      (continuation_cons fits fits' (continuation_cons (by omega) (by omega) rfl)),
      back (by omega)]
    rfl
  next more =>
    refine ⟨_, [UInt8.ofNat (n / 4096 % 64 + 0x80), UInt8.ofNat (n / 64 % 64 + 0x80),
      UInt8.ofNat (n % 64 + 0x80)], rfl, ?_⟩
    obtain ⟨low, high, isLead, fits, fits'⟩ := exists_lead_four (by omega) greatest
    rw [List.cons_append, List.cons_append, List.singleton_append,
      firstChar_of_lead (by omega) (by omega) isLead (continuation_cons fits fits'
        (continuation_cons (by omega) (by omega) (continuation_cons (by omega) (by omega) rfl))),
      back (by omega)]
    rfl

/-! ### Reading a text -/

theorem lenientChars_utf8EncodeChar_append (c : Char) (rest : Bytes) :
    lenientChars (String.utf8EncodeChar c ++ rest) = c :: lenientChars rest := by
  obtain ⟨b, more, encoded, first⟩ := firstChar_utf8EncodeChar c rest
  rw [encoded, List.cons_append, lenientChars, first, List.drop_left]

/-- Read leniently, the bytes of a text are the text. -/
@[simp] theorem lenientText_ofString (s : String) : (ofString s).lenientText = s := by
  have chars (text : List Char) :
      lenientChars (text.flatMap String.utf8EncodeChar) = text := by
    induction text with
    | nil => rw [List.flatMap_nil, lenientChars]
    | cons c text ih => rw [List.flatMap_cons, lenientChars_utf8EncodeChar_append, ih]
  rw [lenientText, ofString_eq_flatMap, chars, String.ofList_toList]

end SealedBuild.Bytes
