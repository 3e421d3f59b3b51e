import KeyedAccess.Text.Line

/-!
# Cutting a text into lines

What the lines of a text are, apart from how they are found: each but perhaps the last one ends with
a line boundary, there is no other boundary in a line, and a line feed is never cut off from a
carriage return in front of it. Every text has exactly one such cut.
-/

namespace KeyedAccess.Text

/-- What ends a line. -/
inductive LineEnd : List Char → Prop where
  /-- A line boundary. -/
  | boundary {c : Char} (h : isLineBoundary c = true) : LineEnd [c]
  /-- A carriage return and a line feed, which are one boundary. -/
  | pair : LineEnd ['\r', '\n']

/-- The lines that make up a text. -/
inductive CutLines : List (List Char) → List Char → Prop where
  /-- The empty text has no lines. -/
  | nil : CutLines [] []
  /-- The last line may have no end. -/
  | last {body : List Char} (hne : body ≠ []) (hbody : ∀ c ∈ body, isLineBoundary c = false) :
    CutLines [body] body
  /-- A line with its end stands in front of the other lines. -/
  | ended {body ending rest : List Char} {others : List (List Char)}
    (hbody : ∀ c ∈ body, isLineBoundary c = false) (hend : LineEnd ending)
    (hwhole : ending = ['\r'] → rest.head? ≠ some '\n') (h : CutLines others rest) :
    CutLines ((body ++ ending) :: others) (body ++ ending ++ rest)

/-- The lines make up the text. -/
theorem CutLines.flatten {ls : List (List Char)} {text : List Char} (h : CutLines ls text) :
    ls.flatten = text := by
  induction h with
  | nil => rfl
  | last => exact List.append_nil _
  | ended _ _ _ _ ih => rw [List.flatten_cons, ih]

/-- No line is empty. -/
theorem CutLines.ne_nil {ls : List (List Char)} {text : List Char} (h : CutLines ls text) :
    ∀ line ∈ ls, line ≠ [] := by
  induction h with
  | nil => exact List.forall_mem_nil _
  | last hne => exact List.forall_mem_singleton.mpr hne
  | ended _ hend _ _ ih =>
    refine List.forall_mem_cons.mpr ⟨List.append_ne_nil_of_right_ne_nil _ ?_, ih⟩
    cases hend <;> exact List.cons_ne_nil _ _

/-- A character that ends no line is put in front of the first line. -/
theorem lines_cons {c : Char} (h : isLineBoundary c = false) (rest : List Char) :
    lines (c :: rest) = match lines rest with
      | [] => [[c]]
      | line :: others => (c :: line) :: others := by
  have hr : c ≠ '\r' := by
    rintro rfl
    exact absurd h (by decide)
  rw [lines.eq_def]
  split
  · next he => cases he
  · next he => exact absurd (List.cons.inj he).1 hr
  · next he =>
    obtain ⟨rfl, rfl⟩ := List.cons.inj he
    exact if_neg (Bool.eq_false_iff.mp h)

/-- A line with its end is the first one. -/
theorem lines_ended {body ending : List Char} (hbody : ∀ c ∈ body, isLineBoundary c = false)
    (hend : LineEnd ending) {rest : List Char}
    (hwhole : ending = ['\r'] → rest.head? ≠ some '\n') :
    lines (body ++ ending ++ rest) = (body ++ ending) :: lines rest := by
  induction body with
  | nil =>
    cases hend with
    | @boundary c h =>
      rw [List.nil_append, List.singleton_append, lines.eq_def]
      split
      · next he => cases he
      · next rest he =>
        obtain ⟨rfl, rfl⟩ := List.cons.inj he
        exact absurd rfl (hwhole rfl)
      · next he =>
        obtain ⟨rfl, rfl⟩ := List.cons.inj he
        rw [if_pos h]
    | pair =>
      simp only [List.nil_append, List.cons_append]
      rw [lines]
  | cons c body ih =>
    obtain ⟨hc, hbody⟩ := List.forall_mem_cons.mp hbody
    rw [List.cons_append, List.cons_append, lines_cons hc, ih hbody]

/-- A text without a line end is one line. -/
theorem lines_eq_singleton {line : List Char} (hne : line ≠ [])
    (h : ∀ c ∈ line, isLineBoundary c = false) : lines line = [line] := by
  induction line with
  | nil => exact absurd rfl hne
  | cons c line ih =>
    obtain ⟨hc, hline⟩ := List.forall_mem_cons.mp h
    rw [lines_cons hc]
    cases line with
    | nil => rfl
    | cons d line => rw [ih (List.cons_ne_nil _ _) hline]

/-- A line that ends with a line feed is the first of a text. -/
theorem lines_append {line : List Char} (h : ∀ c ∈ line, isLineBoundary c = false)
    (rest : List Char) : lines (line ++ '\n' :: rest) = (line ++ ['\n']) :: lines rest := by
  have hend : LineEnd ['\n'] := .boundary rfl
  have hwhole : ['\n'] = ['\r'] → rest.head? ≠ some '\n' := fun he => absurd he (by decide)
  have hcut := lines_ended h hend hwhole
  rwa [List.append_assoc, List.singleton_append] at hcut

/-- The lines that are found are such a cut. -/
theorem cutLines_lines (text : List Char) : CutLines (lines text) text := by
  fun_induction lines text with
  | case1 => exact .nil
  | case2 rest ih =>
    have hbody : ∀ c ∈ ([] : List Char), isLineBoundary c = false := List.forall_mem_nil _
    exact .ended hbody .pair (fun he => absurd he (by decide)) ih
  | case3 c rest hpair hb ih =>
    have hbody : ∀ c ∈ ([] : List Char), isLineBoundary c = false := List.forall_mem_nil _
    refine .ended hbody (.boundary hb) (fun he hhead => ?_) ih
    obtain ⟨tail, rfl⟩ := List.head?_eq_some_iff.mp hhead
    exact hpair tail (List.singleton_inj.mp he) rfl
  | case4 c rest _ hb hnone ih =>
    rw [hnone] at ih
    cases ih
    exact .last (List.cons_ne_nil _ _) (by simpa using hb)
  | case5 c rest _ hb line others hlines ih =>
    have hc : isLineBoundary c = false := Bool.eq_false_iff.mpr hb
    rw [hlines] at ih
    cases ih with
    | last _ hbody => exact .last (List.cons_ne_nil _ _) (List.forall_mem_cons.mpr ⟨hc, hbody⟩)
    | ended hbody hend hwhole h =>
      exact @CutLines.ended (c :: _) _ _ _ (List.forall_mem_cons.mpr ⟨hc, hbody⟩) hend hwhole h

/-- There is no other cut of a text into lines. -/
theorem cutLines_iff {ls : List (List Char)} {text : List Char} :
    CutLines ls text ↔ lines text = ls := by
  constructor
  · intro h
    induction h with
    | nil => rfl
    | last hne hbody => exact lines_eq_singleton hne hbody
    | ended hbody hend hwhole _ ih => rw [lines_ended hbody hend hwhole, ih]
  · rintro rfl
    exact cutLines_lines text

/-- The lines of a text make up the text. -/
theorem flatten_lines (text : List Char) : (lines text).flatten = text :=
  (cutLines_lines text).flatten

end KeyedAccess.Text
