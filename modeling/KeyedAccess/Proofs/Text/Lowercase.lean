import KeyedAccess.Proofs.Text.FileName

/-!
# Small texts

A lowered text is lower-cased to itself. The runs of the simple mapping lead to no code point that
a run takes, so one step of the mapping is enough, and the two capitals that are lowered in a way of
their own are not among the images.
-/

namespace KeyedAccess.Text

/-! ## Runs of the mapping -/

/-- The images of a run lie outside the other run, or between its code points. -/
def CaseRun.avoids (run other : CaseRun) : Bool :=
  Nat.blt (run.imageOf run.last) other.first || Nat.blt other.last run.image ||
    Nat.beq other.step 2 && !Nat.beq (run.image % 2) (other.first % 2) &&
      (Nat.beq run.step 2 || Nat.beq run.first run.last)

/-- So the other takes none of them. -/
theorem CaseRun.takes_imageOf {run other : CaseRun} (h : run.avoids other = true) {point : Nat}
    (hp : run.takes point = true) : other.takes (run.imageOf point) = false := by
  refine Bool.eq_false_iff.mpr fun ho => ?_
  rw [CaseRun.takes_iff] at hp ho
  simp only [CaseRun.avoids, Bool.and_eq_true, Bool.or_eq_true, Bool.not_eq_true', Nat.blt_eq,
    Nat.beq_eq, Bool.eq_false_iff, ne_eq, CaseRun.imageOf] at h ho
  rcases h with (h | h) | ⟨⟨hstep, hodd⟩, hrun⟩
  · omega
  · omega
  · have heven : (point - run.first) % 2 = 0 := by
      rcases hrun with hrun | hrun
      · exact hrun ▸ hp.2.2
      · omega
    rw [hstep] at ho
    omega

/-- Every run is such a run. -/
theorem isOrdinary_of_mem_caseRuns {run : CaseRun} (h : run ∈ caseRuns) :
    run.isOrdinary = true := by
  obtain ⟨line, hline, hmem⟩ := List.mem_flatMap.mp h
  exact List.all_eq_true.mp (checkedEntries.lower line hline) run hmem

/-- The runs that some lines write. -/
def runsOf (lines : List (List Char)) : List CaseRun :=
  lines.flatMap fun line => (fields ' ' line).map CaseRun.ofText

/-- No run that the lines write takes what another leads to, nor what it leads to itself. -/
def lowersAtOnce (lines : List (List Char)) : Bool :=
  (runsOf lines).all fun run => (runsOf lines).all run.avoids

private theorem lowersAtOnce_cons {read : List (List Char)} {chars : List Char}
    {lines : List String} (h : lowersAtOnce (read ++ [chars] ++ lines.map String.toList) = true) :
    lowersAtOnce (read ++ (String.ofList chars :: lines).map String.toList) = true := by
  rw [List.map_cons, String.toList_ofList, List.append_cons]
  exact h

/-- The table of runs is such a table. -/
theorem lowersAtOnce_lowerCaseRuns :
    lowersAtOnce ([] ++ lowerCaseRuns.map String.toList) = true := by
  dsimp only [lowerCaseRuns]
  repeat with_reducible refine lowersAtOnce_cons ?_
  decide +kernel

private theorem avoids_of_mem_caseRuns {run other : CaseRun} (h : run ∈ caseRuns)
    (ho : other ∈ caseRuns) :
    run.avoids other = true := by
  have hruns : caseRuns = runsOf ([] ++ lowerCaseRuns.map String.toList) := by
    rw [List.nil_append, runsOf, List.flatMap_map]
    rfl
  rw [hruns] at h ho
  exact List.all_eq_true.mp (List.all_eq_true.mp lowersAtOnce_lowerCaseRuns run h) other ho

/-! ## The simple mapping -/

/-- Beyond ASCII the simple mapping is that of the first run that takes the code point. -/
theorem lowerChar_eq_of_takes {c : Char} (h : 128 ≤ c.toNat) :
    lowerChar c = match caseRuns.find? (CaseRun.takes · c.toNat) with
      | some run => Char.ofNat (run.imageOf c.toNat)
      | none => c := by
  rw [lowerChar, if_neg (Nat.not_lt.mpr h)]
  rfl

/-- A code point beyond ASCII that no run takes is not mapped. -/
theorem lowerChar_of_not_takes {c : Char} (hc : 128 ≤ c.toNat)
    (h : ∀ run ∈ caseRuns, run.takes c.toNat = false) : lowerChar c = c := by
  have hnone : caseRuns.find? (CaseRun.takes · c.toNat) = none :=
    List.find?_eq_none.mpr fun run hrun => Bool.eq_false_iff.mp (h run hrun)
  rw [lowerChar_eq_of_takes hc, hnone]

/-- The capital letters of ASCII by their code points. -/
theorem isAsciiUpper_iff {c : Char} : isAsciiUpper c = true ↔ 65 ≤ c.toNat ∧ c.toNat ≤ 90 := by
  rw [isAsciiUpper, Bool.and_eq_true, decide_eq_true_eq, decide_eq_true_eq]
  rfl

/-- A character of ASCII that is no capital letter is not mapped. -/
theorem lowerChar_of_ascii {c : Char} (hc : c.toNat < 128) (h : isAsciiUpper c = false) :
    lowerChar c = c := by
  rw [lowerChar, if_pos hc]
  delta Char.toLower
  rw [dif_neg]
  intro hr
  exact Bool.eq_false_iff.mp h (isAsciiUpper_iff.mpr hr)

/-- A capital letter of ASCII is mapped to the letter that stands behind it in the table. -/
theorem toNat_lowerChar_of_isAsciiUpper {c : Char} (h : isAsciiUpper c = true) :
    (lowerChar c).toNat = c.toNat + 32 := by
  obtain ⟨hge, hle⟩ := isAsciiUpper_iff.mp h
  rw [lowerChar, if_pos (by omega)]
  delta Char.toLower
  rw [dif_pos ⟨hge, hle⟩]
  exact Nat.mod_eq_of_lt (by change c.toNat + 32 < 4294967296; omega)

/-- A character is not mapped, or it is a capital letter of ASCII, or some run maps it. -/
theorem lowerChar_cases (c : Char) :
    lowerChar c = c ∨ isAsciiUpper c = true ∨
      ∃ run ∈ caseRuns, run.takes c.toNat = true ∧ (lowerChar c).toNat = run.imageOf c.toNat := by
  by_cases hc : c.toNat < 128
  · by_cases hu : isAsciiUpper c = true
    · exact Or.inr (Or.inl hu)
    · exact Or.inl (lowerChar_of_ascii hc (Bool.eq_false_iff.mpr hu))
  · rw [lowerChar_eq_of_takes (Nat.le_of_not_lt hc)]
    split
    · next run hfind =>
      have hrun := List.mem_of_find?_eq_some hfind
      have htakes : run.takes c.toNat = true := by
        simpa using List.find?_some hfind
      have hvalid := (CaseRun.imageOf_of_isOrdinary (isOrdinary_of_mem_caseRuns hrun) htakes).2.1
      exact Or.inr (Or.inr ⟨run, hrun, htakes, toNat_ofNat hvalid⟩)
    · exact Or.inl rfl

/-! ## Small characters -/

/-- A character that is lowered to itself wherever it stands. -/
def IsSmall (c : Char) : Prop := lowerChar c = c ∧ c.toNat ∉ specialCapitals

/-- It is no capital letter of ASCII. -/
theorem IsSmall.isAsciiUpper_eq_false {c : Char} (h : IsSmall c) : isAsciiUpper c = false := by
  refine Bool.eq_false_iff.mpr fun hu => ?_
  have hto := toNat_lowerChar_of_isAsciiUpper hu
  rw [h.1] at hto
  omega

/-- A character of ASCII that is no capital letter is such a character. -/
theorem isSmall_of_ascii {c : Char} (hc : c.toNat < 128) (h : isAsciiUpper c = false) :
    IsSmall c := by
  refine ⟨lowerChar_of_ascii hc h, fun hm => ?_⟩
  simp only [specialCapitals, List.mem_cons, List.not_mem_nil, or_false] at hm
  omega

/-- So is what one of the two capitals is lowered to. -/
theorem isSmall_of_mem_specialSmalls {c : Char} (h : c.toNat ∈ specialSmalls) : IsSmall c := by
  have hfree : ∀ run ∈ caseRuns, run.takes c.toNat = false := by
    intro run hrun
    have hord := isOrdinary_of_mem_caseRuns hrun
    rw [CaseRun.isOrdinary, Bool.and_eq_true, List.all_eq_true] at hord
    simpa using hord.2 c.toNat h
  simp only [specialSmalls, List.mem_cons, List.not_mem_nil, or_false] at h
  refine ⟨lowerChar_of_not_takes (by omega) hfree, fun hm => ?_⟩
  simp only [specialCapitals, List.mem_cons, List.not_mem_nil, or_false] at hm
  omega

/-- So is what any other character is mapped to. -/
theorem isSmall_lowerChar {c : Char} (h : c.toNat ∉ specialCapitals) : IsSmall (lowerChar c) := by
  rcases lowerChar_cases c with hsame | hu | ⟨run, hrun, htakes, himage⟩
  · rw [IsSmall, hsame]
    exact ⟨hsame, h⟩
  · have hto := toNat_lowerChar_of_isAsciiUpper hu
    rw [isAsciiUpper_iff] at hu
    refine isSmall_of_ascii (by omega) (Bool.eq_false_iff.mpr fun hup => ?_)
    rw [isAsciiUpper_iff] at hup
    omega
  · obtain ⟨hge, -, hspecial⟩ :=
      CaseRun.imageOf_of_isOrdinary (isOrdinary_of_mem_caseRuns hrun) htakes
    rw [← himage] at hge hspecial
    by_cases hascii : (lowerChar c).toNat < 128
    · refine isSmall_of_ascii hascii (Bool.eq_false_iff.mpr fun hup => ?_)
      rw [isAsciiUpper_iff] at hup
      omega
    · refine ⟨lowerChar_of_not_takes (Nat.le_of_not_lt hascii) fun other hother => ?_, hspecial⟩
      rw [himage]
      exact CaseRun.takes_imageOf (avoids_of_mem_caseRuns hrun hother) htakes

/-- Only the underscore is mapped to an underscore. -/
theorem lowerChar_ne_underscore {c : Char} (h : c ≠ '_') : lowerChar c ≠ '_' := by
  rcases lowerChar_cases c with hsame | hu | ⟨run, hrun, htakes, himage⟩
  · rwa [hsame]
  · intro heq
    have hto := toNat_lowerChar_of_isAsciiUpper hu
    rw [heq] at hto
    rw [isAsciiUpper_iff] at hu
    change 95 = _ at hto
    omega
  · intro heq
    have hge := (CaseRun.imageOf_of_isOrdinary (isOrdinary_of_mem_caseRuns hrun) htakes).1
    rw [← himage, heq] at hge
    exact absurd hge (by decide)

/-! ## Lowered texts -/

/-- A character other than the two capitals is mapped as it is without its context. -/
theorem lowerAt_of_not_mem {c : Char} (h : c.toNat ∉ specialCapitals) (before after : List Char) :
    lowerAt before c after = [lowerChar c] := by
  have hsigma : c ≠ capitalSigma := fun heq => h (heq ▸ by decide)
  have hdotted : c ≠ 'İ' := fun heq => h (heq ▸ by decide)
  rw [lowerAt, if_neg hsigma, if_neg hdotted]

/-- A small character stays. -/
theorem IsSmall.lowerAt {c : Char} (h : IsSmall c) (before after : List Char) :
    lowerAt before c after = [c] := by
  rw [lowerAt_of_not_mem h.2, h.1]

/-- A character is lowered to small ones. -/
theorem isSmall_of_mem_lowerAt {before after : List Char} {c d : Char}
    (h : d ∈ lowerAt before c after) : IsSmall d := by
  by_cases hc : c.toNat ∈ specialCapitals
  · rw [Text.lowerAt] at h
    split at h
    · refine isSmall_of_mem_specialSmalls ?_
      rw [List.mem_singleton.mp h]
      split <;> decide
    · split at h
      · rcases List.mem_cons.mp h with rfl | h
        · exact isSmall_of_ascii (by decide) (by decide)
        · exact isSmall_of_mem_specialSmalls (List.mem_singleton.mp h ▸ by decide)
      · next hsigma hdotted =>
        have hspecial : c = 'İ' ∨ c = capitalSigma := by
          simp only [specialCapitals, List.mem_cons, List.not_mem_nil, or_false] at hc
          exact hc.imp Char.toNat_inj.mp Char.toNat_inj.mp
        exact absurd hspecial (not_or.mpr ⟨hdotted, hsigma⟩)
  · rw [lowerAt_of_not_mem hc, List.mem_singleton] at h
    exact h ▸ isSmall_lowerChar hc

/-- So is a text. -/
theorem isSmall_of_mem_lowerFrom {before text : List Char} {d : Char}
    (h : d ∈ lowerFrom before text) : IsSmall d := by
  obtain ⟨c, -, front, after, hlowered⟩ := exists_of_mem_lowerFrom h
  exact isSmall_of_mem_lowerAt hlowered

/-- A text of small characters stays as it is. -/
theorem lowerFrom_of_isSmall {before text : List Char} (h : ∀ c ∈ text, IsSmall c) :
    lowerFrom before text = text := by
  induction text generalizing before with
  | nil => rfl
  | cons c after ih =>
    obtain ⟨hc, hafter⟩ := List.forall_mem_cons.mp h
    rw [lowerFrom, hc.lowerAt, ih hafter, List.singleton_append]

end KeyedAccess.Text
