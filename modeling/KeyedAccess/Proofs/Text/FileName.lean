import KeyedAccess.Proofs.Text.Normal
import KeyedAccess.Text.SnakeCase

/-!
# Identifiers in file names

A file that is named after a class holds the class name as it is, or its snake-case form. Neither
can hold a slash or the character NUL: an identifier holds none, its compatibility form holds none,
because the only characters that such a form turns into a slash are none of identifiers, and the
lower-case mapping leads to none.
-/

namespace KeyedAccess.Text

/-- A text whose characters can all stand in the name of a file. -/
def NamesFile (text : List Char) : Prop := ∀ c ∈ text, isNamePoint c.toNat = true

instance (text : List Char) : Decidable (NamesFile text) :=
  inferInstanceAs (Decidable (∀ c ∈ text, isNamePoint c.toNat = true))

/-- Such a text holds neither a slash nor the character NUL. -/
theorem NamesFile.not_mem {text : List Char} (h : NamesFile text) :
    '/' ∉ text ∧ Char.ofNat 0 ∉ text :=
  ⟨fun hm => absurd (h _ hm) (by decide), fun hm => absurd (h _ hm) (by decide)⟩

/-- A text in two parts is such a one if both parts are. -/
@[simp] theorem namesFile_append {front back : List Char} :
    NamesFile (front ++ back) ↔ NamesFile front ∧ NamesFile back :=
  List.forall_mem_append

/-- The compatibility form of an identifier can stand in the name of a file. -/
theorem namesFile_compatibilityForm {text : List Char} (h : ∀ c ∈ text, IsIdentifierChar c) :
    NamesFile (compatibilityForm text) :=
  fun c hc => (isFormPoint_iff.mp (isFormPoint_of_mem_compatibilityForm h c hc)).1

/-! ## Snake case -/

/-- The simple lower-case mapping leads to no slash and no NUL. -/
theorem isNamePoint_lowerChar {c : Char} (h : isNamePoint c.toNat = true) :
    isNamePoint (lowerChar c).toNat = true := by
  rw [lowerChar]
  split
  · delta Char.toLower
    split
    · next hr =>
      have hle : c.toNat ≤ 90 := hr.2
      have hsum : (c.val + ('a'.val - 'A'.val)).toNat = c.toNat + 32 :=
        Nat.mod_eq_of_lt (by change c.toNat + 32 < 4294967296; omega)
      change isNamePoint (c.val + ('a'.val - 'A'.val)).toNat = true
      rw [hsum, isNamePoint_iff, Nat.isValidChar]
      have hge : 65 ≤ c.toNat := hr.1
      omega
    · exact h
  · split
    · next run hrun =>
      obtain ⟨line, hline, hmem⟩ := List.mem_flatMap.mp (List.mem_of_find?_eq_some hrun)
      have hordinary := List.all_eq_true.mp (checkedEntries.lower line hline) run hmem
      have htakes : run.takes c.toNat = true :=
        CaseRun.takes_iff.mpr (by simpa [and_assoc] using List.find?_some hrun)
      obtain ⟨hsmall, hvalid, -⟩ := CaseRun.imageOf_of_isOrdinary hordinary htakes
      have hname : isNamePoint (run.imageOf c.toNat) = true :=
        isNamePoint_iff.mpr ⟨by omega, by omega, hvalid⟩
      exact isNamePoint_ofNat hname
    · exact h

/-- So does the mapping in a context. -/
theorem namesFile_lowerAt {before : List Char} {c : Char} {after : List Char}
    (h : isNamePoint c.toNat = true) : NamesFile (lowerAt before c after) := by
  rw [lowerAt]
  split
  · split <;> exact fun d hd => List.mem_singleton.mp hd ▸ (by decide)
  · split
    · exact List.forall_mem_cons.mpr ⟨by decide, fun d hd => List.mem_singleton.mp hd ▸ (by decide)⟩
    · exact fun d hd => List.mem_singleton.mp hd ▸ isNamePoint_lowerChar h

/-- A character of a lowered text is what some character of the text is lowered to. -/
theorem exists_of_mem_lowerFrom {before text : List Char} {d : Char}
    (h : d ∈ lowerFrom before text) : ∃ c ∈ text, ∃ front after, d ∈ lowerAt front c after := by
  induction text generalizing before with
  | nil => cases h
  | cons c after ih =>
    rw [lowerFrom, List.mem_append] at h
    rcases h with h | h
    · exact ⟨c, List.mem_cons_self, before, after, h⟩
    · obtain ⟨c', hc', hlowered⟩ := ih h
      exact ⟨c', List.mem_cons_of_mem c hc', hlowered⟩

/-- Separating words adds nothing but underscores. -/
theorem eq_or_mem_of_mem_separateAfter {before d : Char} {text : List Char}
    (h : d ∈ separateAfter before text) : d = '_' ∨ d ∈ text := by
  induction text generalizing before with
  | nil => exact Or.inr h
  | cons c rest ih =>
    have hkept : d ∈ c :: separateAfter c rest → d = '_' ∨ d ∈ c :: rest := fun hd =>
      (List.mem_cons.mp hd).elim (fun hc => Or.inr (hc ▸ List.mem_cons_self))
        fun hrest => (ih hrest).imp_right (List.mem_cons_of_mem c)
    rw [separateAfter] at h
    split at h
    · exact (List.mem_cons.mp h).elim Or.inl hkept
    · exact hkept h

/-- So does separating all words. -/
theorem eq_or_mem_of_mem_separateWords {d : Char} {text : List Char}
    (h : d ∈ separateWords text) : d = '_' ∨ d ∈ text := by
  cases text with
  | nil => exact Or.inr h
  | cons c rest =>
    rcases List.mem_cons.mp h with rfl | h
    · exact Or.inr List.mem_cons_self
    · exact (eq_or_mem_of_mem_separateAfter h).imp_right (List.mem_cons_of_mem c)

/-- The snake-case form of a name of a file can stand in one. -/
theorem namesFile_snakeCase {name : String} (h : NamesFile name.toList) :
    NamesFile (snakeCase name).toList := by
  rw [snakeCase, String.toList_ofList]
  intro d hd
  obtain ⟨c, hc, front, after, hlowered⟩ := exists_of_mem_lowerFrom hd
  have hname : isNamePoint c.toNat = true := by
    rcases eq_or_mem_of_mem_separateWords hc with rfl | hc
    · decide
    · exact h c hc
  exact namesFile_lowerAt hname d hlowered

end KeyedAccess.Text
