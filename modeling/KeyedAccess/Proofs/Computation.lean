import Mathlib.Data.List.Forall2

/-!
# Computations that may fail

A computation that is made of others gives a value exactly if each of them does, and a list is
mapped to values place by place.
-/

namespace KeyedAccess

variable {α β ε : Type}

/-- Two computations in a row give a value exactly if both do. -/
theorem bind_eq_ok_iff {first : Except ε α} {next : α → Except ε β} {value : β} :
    (first >>= next) = .ok value ↔ ∃ found, first = .ok found ∧ next found = .ok value := by
  cases first with
  | error e => exact iff_of_false nofun fun ⟨_, hfound, _⟩ => by cases hfound
  | ok found =>
    constructor
    · exact fun h => ⟨found, rfl, h⟩
    · rintro ⟨_, ⟨⟩, h⟩
      exact h

/-- A computation that only goes on with a value gives one exactly if it finds one. -/
theorem exists_bind_pure_iff {first : Except ε α} {make : α → β} :
    (∃ value, (first >>= fun found => pure (make found)) = .ok value) ↔
      ∃ found, first = .ok found := by
  constructor
  · rintro ⟨value, h⟩
    obtain ⟨found, hfound, -⟩ := bind_eq_ok_iff.mp h
    exact ⟨found, hfound⟩
  · rintro ⟨found, hfound⟩
    exact ⟨make found, bind_eq_ok_iff.mpr ⟨found, hfound, rfl⟩⟩

/-- A computation gives the value that it leaves. -/
theorem eq_ok_of_toOption {r : Except ε α} {value : α} (h : r.toOption = some value) :
    r = .ok value := by
  cases r with
  | error e => cases h
  | ok found => exact congrArg Except.ok (Option.some.inj h)

/-- A list is mapped to values exactly if each element is mapped to the value at its place. -/
theorem mapM_eq_ok_iff {f : α → Except ε β} {l : List α} {values : List β} :
    l.mapM f = .ok values ↔ List.Forall₂ (fun x value => f x = .ok value) l values := by
  induction l generalizing values with
  | nil =>
    rw [List.forall₂_nil_left_iff]
    constructor
    · rintro ⟨⟩
      rfl
    · rintro rfl
      rfl
  | cons x l ih =>
    rw [List.mapM_cons, bind_eq_ok_iff]
    simp only [bind_eq_ok_iff, ih]
    constructor
    · rintro ⟨value, hvalue, others, hothers, ⟨⟩⟩
      exact .cons hvalue hothers
    · rintro (_ | ⟨hvalue, hothers⟩)
      exact ⟨_, hvalue, _, hothers, rfl⟩

/-- A list is mapped to some values exactly if each of its elements is. -/
theorem exists_mapM_iff {f : α → Except ε β} {l : List α} :
    (∃ values, l.mapM f = .ok values) ↔ ∀ x ∈ l, ∃ value, f x = .ok value := by
  simp only [mapM_eq_ok_iff]
  induction l with
  | nil => exact iff_of_true ⟨[], .nil⟩ nofun
  | cons x l ih =>
    rw [List.forall_mem_cons, ← ih]
    constructor
    · rintro ⟨_, _ | ⟨hvalue, hothers⟩⟩
      exact ⟨⟨_, hvalue⟩, _, hothers⟩
    · rintro ⟨⟨value, hvalue⟩, others, hothers⟩
      exact ⟨value :: others, .cons hvalue hothers⟩

/-- Each value that a list is mapped to comes from one of its elements. -/
theorem exists_of_mapM {f : α → Except ε β} {l : List α} {values : List β}
    (h : l.mapM f = .ok values) {value : β} (hvalue : value ∈ values) :
    ∃ x ∈ l, f x = .ok value := by
  rw [mapM_eq_ok_iff] at h
  induction h with
  | nil => cases hvalue
  | cons hfirst _ ih =>
    rcases List.mem_cons.mp hvalue with rfl | hvalue
    · exact ⟨_, List.mem_cons_self, hfirst⟩
    · obtain ⟨x, hx, hf⟩ := ih hvalue
      exact ⟨x, List.mem_cons_of_mem _ hx, hf⟩

end KeyedAccess
