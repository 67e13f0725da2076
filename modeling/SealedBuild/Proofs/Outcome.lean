import Mathlib.Data.List.Forall2

/-!
# Computations that may fail

Computations in a row come to a value if each of them does, and stop at the first one that fails; a
list is gone through in the same way, member by member. Every reader of settings, arguments and
manifests is put together like this.
-/

namespace SealedBuild

variable {α β ε : Type} {error : ε}

/-! ### In a row -/

section Row

variable {first : Except ε α} {next : α → Except ε β} {result : β}

/-- Of two readings in a row, one is what fails. -/
theorem error_of_bind (failed : first >>= next = .error error) :
    first = .error error ∨ ∃ value, first = .ok value ∧ next value = .error error := by
  cases first with
  | error other => exact Or.inl (congrArg Except.error (Except.error.inj failed))
  | ok value => exact Or.inr ⟨value, rfl, failed⟩

/-- A reading that succeeds hands its value to the next one. -/
theorem bind_of_ok {value : α} {outcome : Except ε β} (done : first = .ok value)
    (following : next value = outcome) : first >>= next = outcome := by
  rw [done]
  exact following

/-- Two readings in a row succeed if both do. -/
theorem ok_of_bind (done : first >>= next = .ok result) :
    ∃ value, first = .ok value ∧ next value = .ok result := by
  cases first with
  | error error => cases done
  | ok value => exact ⟨value, rfl, done⟩

/-- What is made of a reading comes of one that succeeds. -/
theorem ok_of_map {f : α → β} (done : first.map f = .ok result) :
    ∃ value, first = .ok value ∧ f value = result := by
  cases first with
  | error error => cases done
  | ok value => exact ⟨value, rfl, Except.ok.inj done⟩

end Row

/-! ### Along a list -/

section Members

variable {f : α → Except ε β} {l m : List α} {l' m' : List β}

/-- A list is mapped by an action that fails only if the action fails for one of its members. -/
theorem exists_of_mapM_error (failed : l.mapM f = .error error) :
    ∃ member ∈ l, f member = .error error := by
  induction l with
  | nil => cases failed
  | cons member rest ih =>
    rw [List.mapM_cons] at failed
    rcases error_of_bind failed with first | ⟨value, -, failed⟩
    · exact ⟨member, List.mem_cons_self, first⟩
    · rcases error_of_bind failed with later | ⟨values, -, ended⟩
      · obtain ⟨found, held, refused⟩ := ih later
        exact ⟨found, List.mem_cons_of_mem _ held, refused⟩
      · cases ended

/-- The members of a list that a function has gone through one by one, in their places. -/
theorem getElem?_of_mapM_ok (mapped : l.mapM f = .ok l') (k : Nat) (b : β) :
    l'[k]? = some b ↔ ∃ a, l[k]? = some a ∧ f a = .ok b := by
  induction l generalizing l' k with
  | nil =>
    cases mapped
    simp
  | cons a rest ih =>
    rw [List.mapM_cons] at mapped
    obtain ⟨b', first, mapped⟩ := ok_of_bind mapped
    obtain ⟨more, later, ended⟩ := ok_of_bind mapped
    obtain rfl := Except.ok.inj ended
    cases k with
    | zero => simp [first]
    | succ k => simpa using ih later k

theorem mem_of_mapM_ok (mapped : l.mapM f = .ok l') (b : β) : b ∈ l' ↔ ∃ a ∈ l, f a = .ok b := by
  simp only [List.mem_iff_getElem?, getElem?_of_mapM_ok mapped]
  constructor
  · rintro ⟨k, a, at', eq⟩
    exact ⟨a, ⟨k, at'⟩, eq⟩
  · rintro ⟨a, ⟨k, at'⟩, eq⟩
    exact ⟨k, a, at', eq⟩

/-- A list of more members is mapped to one of more members. -/
theorem subset_of_mapM_ok (mapped : l.mapM f = .ok l') (mapped' : m.mapM f = .ok m')
    (subset : l ⊆ m) : l' ⊆ m' := by
  intro b held
  obtain ⟨a, member, made⟩ := (mem_of_mapM_ok mapped b).mp held
  exact (mem_of_mapM_ok mapped' b).mpr ⟨a, subset member, made⟩

end Members

/-! ### Along a list, without errors -/

section Partial

variable {f : α → Option β} {g : β → Option α} {l m : List α} {l' : List β}

/-- A list is mapped member by member. -/
theorem mapM_eq_some_iff :
    l.mapM f = some l' ↔ List.Forall₂ (fun a b => f a = some b) l l' := by
  induction l generalizing l' with
  | nil => simp [eq_comm]
  | cons a rest ih =>
    simp only [List.mapM_cons, Option.bind_eq_bind, Option.bind_eq_some_iff, Option.pure_def,
      Option.some.injEq, ih]
    constructor
    · rintro ⟨b, first, more, later, rfl⟩
      exact .cons first later
    · rintro (_ | ⟨first, later⟩)
      exact ⟨_, first, _, later, rfl⟩

theorem exists_mapM_iff :
    (∃ l', l.mapM f = some l') ↔ ∀ a ∈ l, ∃ b, f a = some b := by
  simp only [mapM_eq_some_iff]
  induction l with
  | nil => simp
  | cons a rest ih =>
    rw [List.forall_mem_cons, ← ih]
    constructor
    · rintro ⟨_, _ | ⟨first, later⟩⟩
      exact ⟨⟨_, first⟩, _, later⟩
    · rintro ⟨⟨b, first⟩, more, later⟩
      exact ⟨b :: more, .cons first later⟩

/-- If each member is read back, so is the list of them. -/
theorem mapM_of_mapM (reads : ∀ a b, f a = some b → g b = some a) (written : l.mapM f = some l') :
    l'.mapM g = some l :=
  mapM_eq_some_iff.mpr ((mapM_eq_some_iff.mp written).flip.imp fun b a => reads a b)

/-- If different members are written differently, so are different lists of them. -/
theorem eq_of_mapM_eq_some (differ : ∀ a a' b, f a = some b → f a' = some b → a = a')
    (written : l.mapM f = some l') (written' : m.mapM f = some l') : l = m := by
  have unique : Relator.LeftUnique fun a b => f a = some b := fun a a' b => differ a a' b
  exact unique.forall₂ (mapM_eq_some_iff.mp written) (mapM_eq_some_iff.mp written')

end Partial

/-! ### Outcomes that are computed -/

variable {outcome : Except ε α} {value : α}

/-- What has come out of a computation that ends well, and as wanted. -/
theorem exists_of_toOption_any {wanted : α → Bool}
    (well : outcome.toOption.any wanted = true) : ∃ a, outcome = .ok a ∧ wanted a = true := by
  cases outcome with
  | ok a => exact ⟨a, rfl, well⟩
  | error error => cases well

theorem eq_ok_of_toOption (found : outcome.toOption = some value) : outcome = .ok value := by
  cases outcome with
  | error error => cases found
  | ok other => exact congrArg Except.ok (Option.some.inj found)

end SealedBuild
