import SealedBuild.Json

/-!
# Documents and their written form

The written form of a document determines the document. The reason is that the written form ends
where it does: whatever is written behind a document, the text cannot be taken apart in another way.
A character inside a string is told by its escape, a string ends at the first quote that is not
escaped, and a number ends in front of anything but a digit. The rest is an induction on documents,
in which the items of an array and the members of an object are entries of one kind.

Main statement: `render_injective`.
-/

namespace SealedBuild.Json

open Unicode

variable {rest rest' : List Char}

/-! ### Strings -/

/-- Reads what a backslash stands for together with what is written behind it. -/
def readEscape? : List Char → Option (Char × List Char)
  | 'u' :: a :: b :: c :: d :: rest => some (Char.ofNat (hexValue [a, b, c, d]), rest)
  | 'n' :: rest => some ('\n', rest)
  | 'r' :: rest => some ('\r', rest)
  | 't' :: rest => some ('\t', rest)
  | 'b' :: rest => some (Char.ofNat 8, rest)
  | 'f' :: rest => some (Char.ofNat 12, rest)
  | c :: rest => some (c, rest)
  | [] => none

/-- Reads one character inside a string. -/
def readChar? : List Char → Option (Char × List Char)
  | [] => none
  | c :: rest => if c = '\\' then readEscape? rest else some (c, rest)

/-- The four digits of a control character. -/
theorem hexDigits_of_control : ∀ n < 0x20,
    let digits := List.replicate (4 - (Text.hexDigits n).length) '0' ++ Text.hexDigits n
    digits.length = 4 ∧ hexValue digits = n := by
  decide

/-- A character is read back from its escape. -/
theorem readChar?_escapedChar (c : Char) (rest : List Char) :
    readChar? (escapedChar c ++ rest) = some (c, rest) := by
  obtain rfl | notQuote := Decidable.em (c = '"')
  · rfl
  obtain rfl | notBackslash := Decidable.em (c = '\\')
  · rfl
  obtain rfl | notLineFeed := Decidable.em (c = '\n')
  · rfl
  obtain rfl | notReturn := Decidable.em (c = '\r')
  · rfl
  obtain rfl | notTab := Decidable.em (c = '\t')
  · rfl
  obtain rfl | notBackspace := Decidable.em (c = (Char.ofNat 8))
  · rfl
  obtain rfl | notFormFeed := Decidable.em (c = (Char.ofNat 12))
  · rfl
  rw [escapedChar, if_neg notQuote, if_neg notBackslash, if_neg notLineFeed, if_neg notReturn,
    if_neg notTab, if_neg notBackspace, if_neg notFormFeed]
  by_cases isControl : c.toNat < 0x20
  · obtain ⟨four, value⟩ := hexDigits_of_control c.toNat isControl
    rw [if_pos isControl]
    dsimp only
    rw [List.append_assoc ['\\', 'u']]
    generalize List.replicate (4 - (Text.hexDigits c.toNat).length) '0' ++
      Text.hexDigits c.toNat = digits at four value ⊢
    match digits, four with
    | [a, b, c', d], _ =>
      have read : readChar? (['\\', 'u'] ++ [a, b, c', d] ++ rest) =
          some (Char.ofNat (hexValue [a, b, c', d]), rest) := rfl
      rw [read, value, Char.ofNat_toNat]
  · rw [if_neg isControl]
    exact if_neg notBackslash

theorem head?_escapedChar_ne (c : Char) (rest : List Char) :
    (escapedChar c ++ rest).head? ≠ some '"' := by
  intro head
  obtain ⟨more, written⟩ := List.head?_eq_some_iff.mp head
  have read := readChar?_escapedChar c rest
  rw [written] at read
  obtain rfl : '"' = c := congrArg Prod.fst (Option.some.inj read)
  have backslash : (escapedChar '"' ++ rest).head? = some '\\' := rfl
  rw [backslash] at head
  exact absurd head (by decide)

/-- The characters of a string end at the first quote that belongs to no escape. -/
theorem flatMap_escapedChar_inj {s s' : List Char}
    (same : s.flatMap escapedChar ++ '"' :: rest = s'.flatMap escapedChar ++ '"' :: rest') :
    s = s' ∧ rest = rest' := by
  induction s generalizing s' with
  | nil =>
      cases s' with
      | nil => exact ⟨rfl, (List.cons.inj same).2⟩
      | cons c' s' =>
          rw [List.flatMap_cons, List.append_assoc] at same
          exact absurd (congrArg List.head? same).symm (head?_escapedChar_ne c' _)
  | cons c s ih =>
      rw [List.flatMap_cons, List.append_assoc] at same
      cases s' with
      | nil => exact absurd (congrArg List.head? same) (head?_escapedChar_ne c _)
      | cons c' s' =>
          rw [List.flatMap_cons, List.append_assoc] at same
          have read := readChar?_escapedChar c (s.flatMap escapedChar ++ '"' :: rest)
          rw [same, readChar?_escapedChar] at read
          obtain ⟨rfl, later⟩ := Prod.mk.inj (Option.some.inj read)
          obtain ⟨rfl, rest_eq⟩ := ih later.symm
          exact ⟨rfl, rest_eq⟩

theorem toList_quote (s : String) :
    (quote s).toList = '"' :: (s.toList.flatMap escapedChar ++ ['"']) := by
  rw [quote, String.toList_ofList, List.cons_append]

/-- A string can be told from its written form, whatever comes behind it. -/
theorem quote_append_inj {s s' : String}
    (same : (quote s).toList ++ rest = (quote s').toList ++ rest') : s = s' ∧ rest = rest' := by
  rw [toList_quote, toList_quote, List.cons_append, List.cons_append, List.append_assoc,
    List.append_assoc] at same
  obtain ⟨chars, rest_eq⟩ := flatMap_escapedChar_inj (List.cons.inj same).2
  exact ⟨String.toList_inj.mp chars, rest_eq⟩

/-! ### Numbers -/

/-- Nothing that continues a number. -/
def Stops (rest : List Char) : Prop := ∀ c, rest.head? = some c → c.isDigit = false

theorem stops_nil : Stops [] := by simp [Stops]

theorem stops_cons {c : Char} (notDigit : c.isDigit = false) : Stops (c :: rest) := by
  rintro c ⟨⟩
  exact notDigit

theorem toDigits_append_inj {m n : Nat} (stops : Stops rest) (stops' : Stops rest')
    (same : Nat.toDigits 10 m ++ rest = Nat.toDigits 10 n ++ rest') : m = n ∧ rest = rest' := by
  have taken (n : Nat) {rest : List Char} (stops : Stops rest) :
      (Nat.toDigits 10 n ++ rest).takeWhile Char.isDigit = Nat.toDigits 10 n := by
    rw [List.takeWhile_append_of_pos fun c => Nat.isDigit_of_mem_toDigits (by decide) (by decide)]
    cases rest with
    | nil => simp
    | cons c more => simp [stops c rfl]
  have digits : Nat.toDigits 10 m = Nat.toDigits 10 n := by
    rw [← taken m stops, same, taken n stops']
  refine ⟨?_, List.append_cancel_left (digits ▸ same)⟩
  rw [← Nat.ofDigitChars_ten_toDigits (n := m), digits, Nat.ofDigitChars_ten_toDigits]

theorem exists_toDigits_eq_cons (n : Nat) :
    ∃ c more, Nat.toDigits 10 n = c :: more ∧ c.isDigit = true := by
  obtain ⟨c, more, digits⟩ := List.exists_cons_of_ne_nil (Nat.toDigits_ne_nil (n := n) (b := 10))
  refine ⟨c, more, digits, ?_⟩
  exact Nat.isDigit_of_mem_toDigits (by decide) (by decide) (digits ▸ List.mem_cons_self)

theorem toList_toString_of_nonneg {n : Int} (nonneg : 0 ≤ n) :
    (toString n).toList = Nat.toDigits 10 n.toNat := by
  obtain ⟨k, rfl⟩ := Int.eq_ofNat_of_zero_le nonneg
  exact Nat.toList_repr

theorem toList_toString_of_neg {n : Int} (neg : n < 0) :
    (toString n).toList = '-' :: Nat.toDigits 10 (-n).toNat := by
  obtain ⟨k, rfl⟩ := Int.eq_negSucc_of_lt_zero neg
  have written : (toString (Int.negSucc k)).toList = ("-" ++ (k + 1).repr).toList := rfl
  rw [written, String.toList_append, Nat.toList_repr]
  rfl

/-- A number can be told from its written form if no digit comes behind it. -/
theorem toString_append_inj {m n : Int} (stops : Stops rest) (stops' : Stops rest')
    (same : (toString m).toList ++ rest = (toString n).toList ++ rest') :
    m = n ∧ rest = rest' := by
  have unsigned {k : Nat} {more more' : List Char} :
      '-' :: more ≠ Nat.toDigits 10 k ++ more' := by
    obtain ⟨c, others, digits, isDigit⟩ := exists_toDigits_eq_cons k
    rw [digits]
    rintro ⟨⟩
    exact absurd isDigit (by decide)
  rcases Int.lt_or_le m 0 with neg | nonneg <;> rcases Int.lt_or_le n 0 with neg' | nonneg'
  · rw [toList_toString_of_neg neg, toList_toString_of_neg neg'] at same
    obtain ⟨abs, rest_eq⟩ := toDigits_append_inj stops stops' (List.cons.inj same).2
    exact ⟨by omega, rest_eq⟩
  · rw [toList_toString_of_neg neg, toList_toString_of_nonneg nonneg'] at same
    exact absurd same unsigned
  · rw [toList_toString_of_nonneg nonneg, toList_toString_of_neg neg'] at same
    exact absurd same.symm unsigned
  · rw [toList_toString_of_nonneg nonneg, toList_toString_of_nonneg nonneg'] at same
    obtain ⟨abs, rest_eq⟩ := toDigits_append_inj stops stops' same
    exact ⟨by omega, rest_eq⟩

/-! ### Entries -/

variable {α : Type} {write : α → String}

/-- A value can be told from what is written for it, if nothing that continues a number comes
behind it. -/
def Told (write : α → String) (value : α) : Prop :=
  ∀ {other : α} {rest rest' : List Char}, Stops rest → Stops rest' →
    (write value).toList ++ rest = (write other).toList ++ rest' → value = other ∧ rest = rest'

/-- Entries on lines of their own, with commas between them. -/
def onLines (entries : List String) : String := ",\n".intercalate entries

theorem onLines_map_cons_cons (write : α → String) (entry next : α) (more : List α) :
    onLines ((entry :: next :: more).map write) =
      write entry ++ ",\n" ++ onLines ((next :: more).map write) :=
  String.intercalate_cons_cons

/-- What is written for an item of an array. -/
def itemLine (level : Nat) (item : Json) : String := indent level ++ renderAt level item

/-- What is written for a member of an object. -/
def memberLine (level : Nat) (member : String × Json) : String :=
  indent level ++ quote member.1 ++ ": " ++ renderAt level member.2

theorem renderItems_eq (level : Nat) (items : List Json) :
    renderItems level items = onLines (items.map (itemLine level)) := by
  induction items with
  | nil => rfl
  | cons item items ih =>
      cases items with
      | nil => rfl
      | cons next items => rw [renderItems, ih, onLines_map_cons_cons, itemLine]

theorem renderMembers_eq (level : Nat) (members : List (String × Json)) :
    renderMembers level members = onLines (members.map (memberLine level)) := by
  induction members with
  | nil => rfl
  | cons member members ih =>
      cases members with
      | nil => rfl
      | cons next members => rw [renderMembers, ih, onLines_map_cons_cons, memberLine]

/-- Behind an entry the list of entries ends, or a comma follows and the other entries. -/
theorem exists_behind_entry (write : α → String) (entry : α) (more : List α) (rest : List Char) :
    ∃ behind, (onLines ((entry :: more).map write)).toList ++ '\n' :: rest =
        (write entry).toList ++ behind ∧ Stops behind ∧
      ((more = [] ∧ behind = '\n' :: rest) ∨
        (more ≠ [] ∧
          behind = ',' :: '\n' :: ((onLines (more.map write)).toList ++ '\n' :: rest))) := by
  cases more with
  | nil => exact ⟨'\n' :: rest, rfl, stops_cons rfl, .inl ⟨rfl, rfl⟩⟩
  | cons next more =>
      refine ⟨_, ?_, stops_cons rfl, .inr ⟨List.cons_ne_nil _ _, rfl⟩⟩
      rw [onLines_map_cons_cons, String.toList_append, String.toList_append, List.append_assoc,
        List.append_assoc]
      rfl

/-- If each entry can be told from what is written for it, so can the list of them, which ends at
the first entry without a comma. -/
theorem onLines_append_inj {entries entries' : List α}
    (told : ∀ entry ∈ entries, Told write entry) (written : entries ≠ [])
    (written' : entries' ≠ [])
    (same : (onLines (entries.map write)).toList ++ '\n' :: rest =
      (onLines (entries'.map write)).toList ++ '\n' :: rest') :
    entries = entries' ∧ rest = rest' := by
  induction entries generalizing entries' with
  | nil => exact absurd rfl written
  | cons entry more ih =>
      cases entries' with
      | nil => exact absurd rfl written'
      | cons entry' more' =>
          obtain ⟨behind, eq, stops, ending⟩ := exists_behind_entry write entry more rest
          obtain ⟨behind', eq', stops', ending'⟩ := exists_behind_entry write entry' more' rest'
          rw [eq, eq'] at same
          obtain ⟨rfl, rfl⟩ := told entry List.mem_cons_self stops stops' same
          rcases ending with ⟨rfl, last⟩ | ⟨further, comma⟩ <;>
            rcases ending' with ⟨rfl, last'⟩ | ⟨further', comma'⟩
          · rw [last] at last'
            exact ⟨rfl, (List.cons.inj last').2⟩
          · rw [last] at comma'
            cases comma'
          · rw [comma] at last'
            cases last'
          · rw [comma] at comma'
            obtain ⟨rfl, rest_eq⟩ := ih (fun entry held => told entry (List.mem_cons_of_mem _ held))
              further further' (List.cons.inj (List.cons.inj comma').2).2
            exact ⟨rfl, rest_eq⟩

/-! ### Documents -/

/-- The kinds of documents. -/
inductive Kind
  | null
  | bool
  | number
  | string
  | array
  | object
  deriving DecidableEq

/-- The kind of a document. -/
def kind : Json → Kind
  | null => .null
  | bool _ => .bool
  | number _ => .number
  | string _ => .string
  | array _ => .array
  | object _ => .object

/-- The kind of the documents that start with a character. -/
def Kind.ofChar (c : Char) : Kind :=
  if c = 'n' then .null
  else if c = 't' ∨ c = 'f' then .bool
  else if c = '"' then .string
  else if c = '[' then .array
  else if c = '\x7b' then .object
  else .number

theorem Kind.ofChar_of_isDigit {c : Char} (isDigit : c.isDigit = true) : ofChar c = .number := by
  have other (d : Char) (notDigit : d.isDigit = false) : c ≠ d := by
    rintro rfl
    exact absurd isDigit (notDigit ▸ Bool.false_ne_true)
  simp [ofChar, other 'n' rfl, other 't' rfl, other 'f' rfl, other '"' rfl, other '[' rfl,
    other '\x7b' rfl]

/-- What is written for entries between two brackets. -/
def bracketed (level : Nat) (opening closing : Char) (entries : String) : List Char :=
  opening :: '\n' :: (entries.toList ++ '\n' :: ((indent level).toList ++ [closing]))

theorem toList_renderAt_array {items : List Json} (written : items ≠ []) (level : Nat) :
    (renderAt level (array items)).toList =
      bracketed level '[' ']' (onLines (items.map (itemLine (level + 1)))) := by
  cases items with
  | nil => exact absurd rfl written
  | cons item more =>
      rw [renderAt, renderItems_eq]
      simp [bracketed, String.toList_append]

theorem toList_renderAt_object {members : List (String × Json)} (written : members ≠ [])
    (level : Nat) : (renderAt level (object members)).toList =
      bracketed level '\x7b' '\x7d' (onLines (members.map (memberLine (level + 1)))) := by
  cases members with
  | nil => exact absurd rfl written
  | cons member more =>
      rw [renderAt, renderMembers_eq]
      simp [bracketed, String.toList_append]

/-- The first character of a written document tells its kind. -/
theorem kind_of_renderAt (level : Nat) (document : Json) :
    (renderAt level document).toList.head?.map Kind.ofChar = some document.kind := by
  cases document with
  | null =>
      rw [renderAt]
      rfl
  | bool value =>
      rw [renderAt]
      cases value <;> rfl
  | number value =>
      rw [renderAt]
      rcases Int.lt_or_le value 0 with neg | nonneg
      · rw [toList_toString_of_neg neg]
        rfl
      · obtain ⟨c, more, digits, isDigit⟩ := exists_toDigits_eq_cons value.toNat
        rw [toList_toString_of_nonneg nonneg, digits, List.head?_cons, Option.map_some,
          Kind.ofChar_of_isDigit isDigit]
        rfl
  | string value =>
      rw [renderAt, toList_quote]
      rfl
  | array items =>
      by_cases empty : items = []
      · rw [empty, renderAt]
        rfl
      · rw [toList_renderAt_array empty]
        rfl
  | object members =>
      by_cases empty : members = []
      · rw [empty, renderAt]
        rfl
      · rw [toList_renderAt_object empty]
        rfl

/-- Entries between brackets can be told from what is written if each entry can. -/
theorem bracketed_append_inj {level : Nat} {opening closing : Char} {entries entries' : List α}
    (told : ∀ entry ∈ entries, Told write entry) (written : entries ≠ [])
    (written' : entries' ≠ [])
    (same : bracketed level opening closing (onLines (entries.map write)) ++ rest =
      bracketed level opening closing (onLines (entries'.map write)) ++ rest') :
    entries = entries' ∧ rest = rest' := by
  simp only [bracketed, List.cons_append, List.append_assoc, List.cons.injEq, true_and] at same
  obtain ⟨rfl, closed⟩ := onLines_append_inj told written written' same
  exact ⟨rfl, (List.cons.inj (List.append_cancel_left closed)).2⟩

theorem kind_eq_of_append_eq {document other : Json} {level : Nat}
    (same : (renderAt level document).toList ++ rest = (renderAt level other).toList ++ rest') :
    document.kind = other.kind := by
  have first (document : Json) (rest : List Char) :
      ((renderAt level document).toList ++ rest).head?.map Kind.ofChar = some document.kind := by
    have kind := kind_of_renderAt level document
    cases text : (renderAt level document).toList with
    | nil => simp [text] at kind
    | cons c more => simpa [text] using kind
  have kinds := first document rest
  rw [same, first other rest'] at kinds
  exact (Option.some.inj kinds).symm

theorem told_itemLine {level : Nat} {item : Json} (told : Told (renderAt level) item) :
    Told (itemLine level) item := by
  intro other rest rest' stops stops' same
  simp only [itemLine, String.toList_append, List.append_assoc] at same
  exact told stops stops' (List.append_cancel_left same)

theorem told_memberLine {level : Nat} {member : String × Json}
    (told : Told (renderAt level) member.2) : Told (memberLine level) member := by
  intro other rest rest' stops stops' same
  simp only [memberLine, String.toList_append, List.append_assoc] at same
  obtain ⟨names, same⟩ := quote_append_inj (List.append_cancel_left same)
  obtain ⟨values, rest_eq⟩ := told stops stops' (List.append_cancel_left same)
  exact ⟨Prod.ext names values, rest_eq⟩

theorem told_array {items : List Json} (level : Nat)
    (told : ∀ item ∈ items, Told (renderAt (level + 1)) item) :
    Told (renderAt level) (array items) := by
  intro other rest rest' stops stops' same
  have kinds := kind_eq_of_append_eq same
  cases other with
  | array items' =>
      by_cases empty : items = [] <;> by_cases empty' : items' = []
      · rw [empty, empty'] at same ⊢
        exact ⟨rfl, List.append_cancel_left same⟩
      · rw [empty, renderAt, toList_renderAt_array empty'] at same
        cases (List.cons.inj same).2
      · rw [empty', renderAt, toList_renderAt_array empty] at same
        cases (List.cons.inj same).2
      · rw [toList_renderAt_array empty, toList_renderAt_array empty'] at same
        obtain ⟨rfl, rest_eq⟩ := bracketed_append_inj
          (fun item held => told_itemLine (told item held)) empty empty' same
        exact ⟨rfl, rest_eq⟩
  | _ => cases kinds

theorem told_object {members : List (String × Json)} (level : Nat)
    (told : ∀ member ∈ members, Told (renderAt (level + 1)) member.2) :
    Told (renderAt level) (object members) := by
  intro other rest rest' stops stops' same
  have kinds := kind_eq_of_append_eq same
  cases other with
  | object members' =>
      by_cases empty : members = [] <;> by_cases empty' : members' = []
      · rw [empty, empty'] at same ⊢
        exact ⟨rfl, List.append_cancel_left same⟩
      · rw [empty, renderAt, toList_renderAt_object empty'] at same
        cases (List.cons.inj same).2
      · rw [empty', renderAt, toList_renderAt_object empty] at same
        cases (List.cons.inj same).2
      · rw [toList_renderAt_object empty, toList_renderAt_object empty'] at same
        obtain ⟨rfl, rest_eq⟩ := bracketed_append_inj
          (fun member held => told_memberLine (told member held)) empty empty' same
        exact ⟨rfl, rest_eq⟩
  | _ => cases kinds

/-- Every document can be told from its written form. The recursion is on the items of an array and
the values of an object. -/
theorem told_renderAt (level : Nat) (document : Json) : Told (renderAt level) document := by
  cases document with
  | array items => exact told_array level fun item held => told_renderAt (level + 1) item
  | object members =>
      exact told_object level fun member held => told_renderAt (level + 1) member.2
  | null =>
      intro other rest rest' stops stops' same
      cases other with
      | null => exact ⟨rfl, List.append_cancel_left same⟩
      | _ => cases kind_eq_of_append_eq same
  | bool value =>
      intro other rest rest' stops stops' same
      cases other with
      | bool value' =>
          rw [renderAt, renderAt] at same
          cases value <;> cases value'
          · exact ⟨rfl, List.append_cancel_left same⟩
          · cases same
          · cases same
          · exact ⟨rfl, List.append_cancel_left same⟩
      | _ => cases kind_eq_of_append_eq same
  | number value =>
      intro other rest rest' stops stops' same
      cases other with
      | number value' =>
          rw [renderAt, renderAt] at same
          obtain ⟨rfl, rest_eq⟩ := toString_append_inj stops stops' same
          exact ⟨rfl, rest_eq⟩
      | _ => cases kind_eq_of_append_eq same
  | string value =>
      intro other rest rest' stops stops' same
      cases other with
      | string value' =>
          rw [renderAt, renderAt] at same
          obtain ⟨rfl, rest_eq⟩ := quote_append_inj same
          exact ⟨rfl, rest_eq⟩
      | _ => cases kind_eq_of_append_eq same
termination_by document
decreasing_by
  · have within := List.sizeOf_lt_of_mem held
    rw [array.sizeOf_spec]
    omega
  · have within := List.sizeOf_lt_of_mem held
    have value : sizeOf member.2 < sizeOf member := by
      obtain ⟨name, value⟩ := member
      change sizeOf value < sizeOf (name, value)
      rw [Prod.mk.sizeOf_spec]
      omega
    rw [object.sizeOf_spec]
    omega

/-- Two documents that are written alike are the same. -/
theorem render_injective : Function.Injective render := by
  intro document other same
  exact (told_renderAt 0 document stops_nil stops_nil
    (congrArg (fun text => text.toList ++ []) same)).1

end SealedBuild.Json
