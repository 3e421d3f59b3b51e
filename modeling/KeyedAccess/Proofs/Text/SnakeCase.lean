import KeyedAccess.Proofs.Text.Lowercase

/-!
# Snake case only separates

The snake-case form of a name is its lower-case form with underscores between words. An underscore
that is put in stands between two letters or digits of ASCII; these end the search for a cased
letter in both directions, so the capital sigmas of the name are lowered as they are without the
underscores.
-/

namespace KeyedAccess.Text

/-! ## Texts with underscores put in -/

/-- The second text is the first with underscores put in, each between two characters that are no
underscores. -/
inductive Spaced : List Char → List Char → Prop
  /-- Nothing is put into the empty text. -/
  | nil : Spaced [] []
  /-- A character is kept. -/
  | keep {c : Char} {text spaced : List Char} (rest : Spaced text spaced) :
    Spaced (c :: text) (c :: spaced)
  /-- An underscore is put between two characters. -/
  | separate {c d : Char} {text spaced : List Char} (front : c ≠ '_') (back : d ≠ '_')
    (rest : Spaced (d :: text) (d :: spaced)) : Spaced (c :: d :: text) (c :: '_' :: d :: spaced)

/-- A common beginning is kept. -/
theorem Spaced.append_left {text spaced : List Char} (h : Spaced text spaced) (front : List Char) :
    Spaced (front ++ text) (front ++ spaced) := by
  induction front with
  | nil => exact h
  | cons c front ih => exact Spaced.keep ih

/-- Nothing but underscores is put in. -/
theorem Spaced.filter_eq {text spaced : List Char} (h : Spaced text spaced) :
    spaced.filter (· ≠ '_') = text.filter (· ≠ '_') := by
  induction h with
  | nil => rfl
  | keep rest ih => rw [List.filter_cons, List.filter_cons, ih]
  | @separate c d text spaced front back rest ih =>
    have hkept (tail : List Char) : (c :: tail).filter (· ≠ '_') = c :: tail.filter (· ≠ '_') :=
      List.filter_cons_of_pos (decide_eq_true front)
    rw [hkept, hkept, List.filter_cons_of_neg (by decide), ih]

/-! ## Beginnings of words -/

/-- A word begins with a capital letter behind a letter or digit. -/
theorem of_beginsWord {before c : Char} {after : Option Char}
    (h : beginsWord before c after = true) :
    before.toNat ∈ letterOrDigitPoints ∧ isAsciiUpper c = true := by
  rw [beginsWord, Bool.and_eq_true] at h
  refine ⟨mem_letterOrDigitPoints.mpr ?_, h.1⟩
  simp only [Bool.or_eq_true, Bool.and_eq_true, isAsciiUpper_iff] at h
  rcases h.2 with (h | h) | h
  · rw [isAsciiLower, Bool.and_eq_true, decide_eq_true_eq, decide_eq_true_eq] at h
    exact Or.inr (Or.inr h)
  · rw [isAsciiDigit, Bool.and_eq_true, decide_eq_true_eq, decide_eq_true_eq] at h
    exact Or.inl h
  · exact Or.inr (Or.inl h.1)

/-- A capital letter is a letter. -/
theorem mem_letterOrDigitPoints_of_isAsciiUpper {c : Char} (h : isAsciiUpper c = true) :
    c.toNat ∈ letterOrDigitPoints :=
  mem_letterOrDigitPoints.mpr (Or.inr (Or.inl (isAsciiUpper_iff.mp h)))

private theorem meetsCased_cons {c : Char} (h : c.toNat ∈ letterOrDigitPoints) (rest : List Char) :
    meetsCased (c :: rest) = isCased c := by
  rw [meetsCased, if_neg (Bool.eq_false_iff.mp (checkedSets.caseIgnorable _ h))]

/-- A letter or digit is lowered without its context, and not to an underscore. -/
theorem exists_lowerAt {c : Char} (h : c.toNat ∈ letterOrDigitPoints) :
    ∃ d, d ≠ '_' ∧ ∀ before after, lowerAt before c after = [d] := by
  rw [mem_letterOrDigitPoints] at h
  refine ⟨lowerChar c, lowerChar_ne_underscore fun heq => ?_, lowerAt_of_not_mem fun hm => ?_⟩
  · rw [heq] at h
    revert h
    decide
  · simp only [specialCapitals, List.mem_cons, List.not_mem_nil, or_false] at hm
    omega

/-! ## Separated words -/

/-- What is met to the right is the same with the words behind separated. -/
theorem meetsCased_separateAfter (c : Char) (rest : List Char) :
    meetsCased (c :: separateAfter c rest) = meetsCased (c :: rest) := by
  induction rest generalizing c with
  | nil => rfl
  | cons d rest ih =>
    by_cases hc : caseIgnorable.contains c.toNat = true
    · -- no word begins behind a character that is looked through
      have hstays : beginsWord c d rest.head? = false := by
        refine Bool.eq_false_iff.mpr fun hb => ?_
        rw [checkedSets.caseIgnorable _ (of_beginsWord hb).1] at hc
        cases hc
      have hthrough (tail : List Char) : meetsCased (c :: tail) = meetsCased tail := by
        rw [meetsCased, if_pos hc]
      rw [separateAfter, hstays, if_neg Bool.false_ne_true, hthrough, hthrough, ih]
    · rw [meetsCased, if_neg hc, meetsCased, if_neg hc]

/-- What a character is lowered to depends on no more of what is before it than what is met there,
and a letter or digit is lowered without it. -/
theorem lowerAt_congr {before before' after after' : List Char} {c : Char}
    (hb : meetsCased before = meetsCased before' ∨ c.toNat ∈ letterOrDigitPoints)
    (ha : meetsCased after = meetsCased after') :
    lowerAt before c after = lowerAt before' c after' := by
  rcases hb with hb | hc
  · rw [lowerAt, lowerAt, hb, ha]
  · obtain ⟨d, -, hd⟩ := exists_lowerAt hc
    rw [hd, hd]

-- The induction is on the text behind a character. The contexts of the two runs differ by the
-- underscores, and agree in what is met there except right behind an underscore.
/-- With the words behind it separated a text is lowered to the same with underscores put in. -/
theorem spaced_lowerFrom {before before' : List Char} {c : Char} {rest : List Char}
    (h : meetsCased before = meetsCased before' ∨ c.toNat ∈ letterOrDigitPoints) :
    Spaced (lowerFrom before (c :: rest)) (lowerFrom before' (c :: separateAfter c rest)) := by
  induction rest generalizing before before' c with
  | nil =>
    rw [separateAfter, lowerFrom, lowerFrom, lowerAt_congr h rfl]
    exact Spaced.append_left Spaced.nil _
  | cons d rest ih =>
    rw [separateAfter]
    by_cases hword : beginsWord c d rest.head? = true
    · obtain ⟨hc, hupper⟩ := of_beginsWord hword
      have hd := mem_letterOrDigitPoints_of_isAsciiUpper hupper
      obtain ⟨small, hsmall, hlower⟩ := exists_lowerAt hc
      obtain ⟨small', hsmall', hlower'⟩ := exists_lowerAt hd
      have hrest : Spaced (lowerFrom (c :: before) (d :: rest))
          (lowerFrom ('_' :: c :: before') (d :: separateAfter d rest)) := ih (Or.inr hd)
      rw [lowerFrom, lowerFrom, hlower', hlower'] at hrest
      rw [if_pos hword, lowerFrom, lowerFrom, lowerFrom, lowerFrom, lowerFrom, hlower, hlower,
        hlower', hlower', IsSmall.lowerAt (isSmall_of_ascii (by decide) (by decide))]
      exact Spaced.separate hsmall hsmall' hrest
    · have hmet : meetsCased (c :: before) = meetsCased (c :: before') := by
        rcases h with h | hc
        · rw [meetsCased, meetsCased, h]
        · rw [meetsCased_cons hc, meetsCased_cons hc]
      rw [if_neg hword, lowerFrom, lowerAt_congr h (meetsCased_separateAfter d rest).symm]
      exact Spaced.append_left (ih (Or.inl hmet)) _

/-- The snake-case form of a name is its lower-case form with underscores put in. -/
theorem spaced_snakeCase (name : String) : Spaced (lower name.toList) (snakeCase name).toList := by
  rw [snakeCase, String.toList_ofList]
  cases name.toList with
  | nil => exact Spaced.nil
  | cons c rest => exact spaced_lowerFrom (Or.inl rfl)

/-! ## Small texts -/

/-- No word begins in a text of small characters. -/
theorem separateAfter_of_isSmall {before : Char} {text : List Char} (h : ∀ c ∈ text, IsSmall c) :
    separateAfter before text = text := by
  induction text generalizing before with
  | nil => rfl
  | cons c rest ih =>
    obtain ⟨hc, hrest⟩ := List.forall_mem_cons.mp h
    rw [separateAfter, if_neg, ih hrest]
    rw [beginsWord, hc.isAsciiUpper_eq_false, Bool.false_and]
    exact Bool.false_ne_true

/-- A name of small characters is its own snake-case form. -/
theorem snakeCase_of_isSmall {name : String} (h : ∀ c ∈ name.toList, IsSmall c) :
    snakeCase name = name := by
  have hwords : separateWords name.toList = name.toList := by
    cases htext : name.toList with
    | nil => rfl
    | cons c rest =>
      rw [htext] at h
      rw [separateWords, separateAfter_of_isSmall (List.forall_mem_cons.mp h).2]
  rw [snakeCase, hwords, lower, lowerFrom_of_isSmall h, String.ofList_toList]

/-- The snake-case form of a name has small characters. -/
theorem isSmall_of_mem_snakeCase {name : String} {c : Char} (h : c ∈ (snakeCase name).toList) :
    IsSmall c := by
  rw [snakeCase, String.toList_ofList] at h
  exact isSmall_of_mem_lowerFrom h

/-! ## Names in ASCII -/

/-- The characters of names in ASCII by their code points. -/
theorem isAsciiNameChar_iff {c : Char} :
    isAsciiNameChar c = true ↔ c.toNat ∈ letterOrDigitPoints ∨ c.toNat = 95 := by
  have hdigit : c.isDigit = true ↔ 48 ≤ c.toNat ∧ c.toNat ≤ 57 := by
    rw [Char.isDigit, Bool.and_eq_true, decide_eq_true_eq, decide_eq_true_eq]
    rfl
  rw [isAsciiNameChar, Char.isAlphanum, Bool.or_eq_true, Bool.or_eq_true, isAlpha_iff, hdigit,
    beq_iff_eq, mem_letterOrDigitPoints, ← Char.toNat_inj]
  change _ ∨ c.toNat = 95 ↔ _
  omega

/-- A name in ASCII does not begin with a digit. -/
theorem isAsciiNameStart_iff {c : Char} :
    isAsciiNameStart c = true ↔ isAsciiNameChar c = true ∧ ¬ c.toNat ≤ 57 := by
  rw [isAsciiNameStart, Bool.or_eq_true, isAlpha_iff, beq_iff_eq, ← Char.toNat_inj,
    isAsciiNameChar_iff, mem_letterOrDigitPoints]
  change _ ∨ c.toNat = 95 ↔ _
  omega

/-- A text is a name in ASCII. -/
def IsAsciiName (text : List Char) : Prop :=
  isIdentifier text = true ∧ ∀ c ∈ text, c.toNat < 128

instance (text : List Char) : Decidable (IsAsciiName text) :=
  inferInstanceAs (Decidable (_ ∧ _))

@[simp] private theorem isAsciiName_cons {c : Char} {rest : List Char} : IsAsciiName (c :: rest) ↔
    isAsciiNameStart c = true ∧ ∀ d ∈ rest, isAsciiNameChar d = true := by
  constructor
  · rintro ⟨hname, hascii⟩
    obtain ⟨hc, hrest⟩ := List.forall_mem_cons.mp hascii
    rw [isIdentifier, Bool.and_eq_true, List.all_eq_true, isIdentifierStart, if_pos hc] at hname
    refine ⟨hname.1, fun d hd => ?_⟩
    have hd' := hname.2 d hd
    rwa [isIdentifierChar, if_pos (hrest d hd)] at hd'
  · rintro ⟨hc, hrest⟩
    refine ⟨isIdentifier_of_ascii hc hrest, List.forall_mem_cons.mpr ⟨?_, fun d hd => ?_⟩⟩
    · exact (range_of_isAsciiNameChar (isAsciiNameStart_iff.mp hc).1).2
    · exact (range_of_isAsciiNameChar (hrest d hd)).2

/-- A character of a name in ASCII is lowered to one, and to a beginning if it is one. -/
theorem isAsciiNameChar_lowerChar {c : Char} (h : isAsciiNameChar c = true) :
    isAsciiNameChar (lowerChar c) = true ∧
      (isAsciiNameStart c = true → isAsciiNameStart (lowerChar c) = true) := by
  by_cases hu : isAsciiUpper c = true
  · have hto := toNat_lowerChar_of_isAsciiUpper hu
    rw [isAsciiUpper_iff] at hu
    rw [isAsciiNameStart_iff, isAsciiNameStart_iff, isAsciiNameChar_iff, mem_letterOrDigitPoints]
    omega
  · rw [lowerChar_of_ascii (range_of_isAsciiNameChar h).2 (Bool.eq_false_iff.mpr hu)]
    exact ⟨h, id⟩

/-- A character of a name in ASCII is none of the two capitals. -/
theorem lowerAt_of_isAsciiNameChar {c : Char} (h : isAsciiNameChar c = true)
    (before after : List Char) : lowerAt before c after = [lowerChar c] := by
  refine lowerAt_of_not_mem (fun hm => ?_) before after
  have hlt := (range_of_isAsciiNameChar h).2
  simp only [specialCapitals, List.mem_cons, List.not_mem_nil, or_false] at hm
  omega

/-- The characters of names in ASCII are lowered to such characters. -/
theorem isAsciiNameChar_of_mem_lowerFrom {before text : List Char}
    (h : ∀ c ∈ text, isAsciiNameChar c = true) :
    ∀ c ∈ lowerFrom before text, isAsciiNameChar c = true := by
  intro d hd
  obtain ⟨c, hc, front, after, hlowered⟩ := exists_of_mem_lowerFrom hd
  rw [lowerAt_of_isAsciiNameChar (h c hc), List.mem_singleton] at hlowered
  exact hlowered ▸ (isAsciiNameChar_lowerChar (h c hc)).1

/-- The snake-case form of a name in ASCII is one. -/
theorem isAsciiName_snakeCase {name : String} (h : IsAsciiName name.toList) :
    IsAsciiName (snakeCase name).toList := by
  rw [snakeCase, String.toList_ofList]
  cases htext : name.toList with
  | nil =>
    rw [htext] at h
    exact h
  | cons c rest =>
    rw [htext, isAsciiName_cons] at h
    have hc := (isAsciiNameStart_iff.mp h.1).1
    have hspaced : ∀ d ∈ separateAfter c rest, isAsciiNameChar d = true := by
      intro d hd
      rcases eq_or_mem_of_mem_separateAfter hd with rfl | hd
      · decide
      · exact h.2 d hd
    rw [separateWords, lower, lowerFrom, lowerAt_of_isAsciiNameChar hc, List.singleton_append,
      isAsciiName_cons]
    exact ⟨(isAsciiNameChar_lowerChar hc).2 h.1, isAsciiNameChar_of_mem_lowerFrom hspaced⟩

/-! ## The snake-case form -/

/-- The snake-case form of a name is its lower-case form with underscores put in, each between two
characters that are none, so that the two are the same but for underscores. It is its own
snake-case form. For a name in ASCII it is such a name again, without capital letters. -/
theorem snakeCase_separates (name : String) :
    (snakeCase name).toList.filter (· ≠ '_') = (lower name.toList).filter (· ≠ '_') ∧
      snakeCase (snakeCase name) = snakeCase name ∧
      Spaced (lower name.toList) (snakeCase name).toList ∧
      (IsAsciiName name.toList → IsAsciiName (snakeCase name).toList ∧
        ∀ c ∈ (snakeCase name).toList, isAsciiUpper c = false) := by
  refine ⟨(spaced_snakeCase name).filter_eq, ?_, spaced_snakeCase name, fun h => ?_⟩
  · exact snakeCase_of_isSmall fun c hc => isSmall_of_mem_snakeCase hc
  · exact ⟨isAsciiName_snakeCase h, fun c hc => (isSmall_of_mem_snakeCase hc).isAsciiUpper_eq_false⟩

/-- An abbreviation before a word becomes a word of its own. -/
theorem snakeCase_separates_abbreviation :
    snakeCase "HTTPHeader" = "http_header" ∧ IsAsciiName "HTTPHeader".toList ∧
      IsAsciiName (snakeCase "HTTPHeader").toList ∧
      ∀ c ∈ (snakeCase "HTTPHeader").toList, isAsciiUpper c = false :=
  have hname : IsAsciiName "HTTPHeader".toList := by decide
  ⟨by decide, hname, (snakeCase_separates "HTTPHeader").2.2.2 hname⟩

end KeyedAccess.Text
