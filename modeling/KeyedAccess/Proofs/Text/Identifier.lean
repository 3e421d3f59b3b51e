import KeyedAccess.Proofs.Text.Tables
import KeyedAccess.Script.Number
import KeyedAccess.Text.Identifier
import KeyedAccess.Text.Line

/-!
# The characters of identifiers

What a program text may rely on where an identifier stands: its characters go on with a word, none
of them ends a line, and a text in ASCII is its own compatibility form.
-/

namespace KeyedAccess.Text

/-- A check of all characters of a text runs through the text, not through all characters. -/
instance (priority := 2000) decidableForallText (text : List Char) (p : Char → Prop)
    [DecidablePred p] : Decidable (∀ c ∈ text, p c) :=
  List.decidableBAll p text

/-- So does a check of the first character, if there is one. -/
instance (priority := 2000) decidableForallFirst (first : Option Char) (p : Char → Prop)
    [DecidablePred p] : Decidable (∀ c ∈ first, p c) :=
  Option.decidableForallMem first

/-- A line ends with a control character, or beyond ASCII with one of three code points. -/
theorem eq_of_isLineBoundary {c : Char} (h : isLineBoundary c = true) :
    c.toNat < 32 ∨ c.toNat ∈ wideBoundaries := by
  simp only [isLineBoundary, Bool.or_eq_true, Bool.and_eq_true, decide_eq_true_eq, beq_iff_eq] at h
  rcases h with (((h | h) | h) | h) | h
  · exact Or.inl (by omega)
  · exact Or.inl (by omega)
  · exact Or.inr (by simp [h, wideBoundaries])
  · exact Or.inr (by simp [h, wideBoundaries])
  · exact Or.inr (by simp [h, wideBoundaries])

/-- The letters of ASCII by their code points. -/
theorem isAlpha_iff {c : Char} : c.isAlpha = true ↔
    65 ≤ c.toNat ∧ c.toNat ≤ 90 ∨ 97 ≤ c.toNat ∧ c.toNat ≤ 122 := by
  change (decide ('A'.val ≤ c.val ∧ c.val ≤ 'Z'.val) ||
    decide ('a'.val ≤ c.val) && decide (c.val ≤ 'z'.val)) = true ↔ _
  simp only [Bool.or_eq_true, Bool.and_eq_true, decide_eq_true_eq, UInt32.le_iff_toNat_le]
  rfl

/-- The characters of names in ASCII are printed ones of ASCII. -/
theorem range_of_isAsciiNameChar {c : Char} (h : isAsciiNameChar c = true) :
    48 ≤ c.toNat ∧ c.toNat < 128 := by
  simp only [isAsciiNameChar, Char.isAlphanum, Char.isDigit, Bool.or_eq_true, Bool.and_eq_true,
    decide_eq_true_eq, isAlpha_iff, beq_iff_eq, UInt32.le_iff_toNat_le] at h
  rcases h with (h | h) | rfl
  · omega
  · exact ⟨h.1, Nat.lt_of_le_of_lt h.2 (by decide)⟩
  · decide

/-- A character of an identifier, at its beginning or behind it. -/
def IsIdentifierChar (c : Char) : Prop := isIdentifierStart c = true ∨ isIdentifierChar c = true

/-- In ASCII a character of an identifier is one of a name, and beyond it none of the ends of
lines and none that turns into a sign. -/
theorem IsIdentifierChar.cases {c : Char} (h : IsIdentifierChar c) :
    isAsciiNameChar c = true ∨ 128 ≤ c.toNat ∧ c.toNat ∉ foreignPoints := by
  by_cases hc : c.toNat < 128
  · left
    rcases h with h | h
    · rw [isIdentifierStart, if_pos hc, isAsciiNameStart, Bool.or_eq_true] at h
      rw [isAsciiNameChar, Char.isAlphanum, Bool.or_eq_true, Bool.or_eq_true]
      exact h.imp Or.inl id
    · rwa [isIdentifierChar, if_pos hc] at h
  · refine Or.inr ⟨Nat.le_of_not_lt hc, fun hm => ?_⟩
    rcases h with h | h
    · rw [isIdentifierStart, if_neg hc, checkedSets.start _ hm] at h
      cases h
    · rw [isIdentifierChar, if_neg hc, checkedSets.rest _ hm] at h
      cases h

/-- No character of an identifier ends a line. -/
theorem IsIdentifierChar.not_isLineBoundary {c : Char} (h : IsIdentifierChar c) :
    isLineBoundary c = false := by
  refine Bool.eq_false_iff.mpr fun hb => ?_
  rcases h.cases with hc | hc
  · obtain ⟨hle, hlt⟩ := range_of_isAsciiNameChar hc
    rcases eq_of_isLineBoundary hb with hb | hb
    · omega
    · simp only [wideBoundaries, List.mem_cons, List.not_mem_nil, or_false] at hb
      omega
  · rcases eq_of_isLineBoundary hb with hb | hb
    · omega
    · exact hc.2 (List.mem_append_left _ (List.mem_append_left _ hb))

/-- The characters of an identifier are those at its beginning and behind it. -/
theorem isIdentifierChar_of_mem {text : List Char} (h : isIdentifier text = true) {c : Char}
    (hc : c ∈ text) : IsIdentifierChar c := by
  cases text with
  | nil => cases hc
  | cons first rest =>
    rw [isIdentifier, Bool.and_eq_true] at h
    rcases List.mem_cons.mp hc with rfl | hc
    · exact Or.inl h.1
    · exact Or.inr (List.all_eq_true.mp h.2 c hc)

/-- A name in ASCII is an identifier. -/
theorem isIdentifier_of_ascii {c : Char} {rest : List Char} (hc : isAsciiNameStart c = true)
    (hr : ∀ d ∈ rest, isAsciiNameChar d = true) : isIdentifier (c :: rest) = true := by
  have hstart : isAsciiNameChar c = true := by
    rw [isAsciiNameStart, Bool.or_eq_true] at hc
    rw [isAsciiNameChar, Char.isAlphanum, Bool.or_eq_true, Bool.or_eq_true]
    exact hc.imp Or.inl id
  rw [isIdentifier, Bool.and_eq_true, List.all_eq_true]
  refine ⟨?_, fun d hd => ?_⟩
  · rw [isIdentifierStart, if_pos (range_of_isAsciiNameChar hstart).2, hc]
  · rw [isIdentifierChar, if_pos (range_of_isAsciiNameChar (hr d hd)).2, hr d hd]

/-- A text in ASCII is its own compatibility form. -/
theorem compatibilityForm_of_ascii {text : List Char} (h : ∀ c ∈ text, c.toNat < 128) :
    compatibilityForm text = text := by
  rw [compatibilityForm, if_pos]
  exact List.all_eq_true.mpr fun c hc => decide_eq_true (h c hc)

end KeyedAccess.Text

namespace KeyedAccess.Script

open Text

/-- The characters of identifiers go on with a word. -/
theorem isWordChar_of_isIdentifierChar {c : Char} (h : IsIdentifierChar c) :
    isWordChar c = true := by
  rw [isWordChar, Bool.or_eq_true]
  rcases h.cases with hc | hc
  · exact Or.inl hc
  · exact Or.inr (decide_eq_true hc.1)

end KeyedAccess.Script
