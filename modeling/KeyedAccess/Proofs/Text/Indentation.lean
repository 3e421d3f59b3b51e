import KeyedAccess.Proofs.Text.Line

/-!
# Indented lines

An indented text has the lines of the text, each behind the margin unless it is blank. A line feed
between two texts ends a blank or a last line, or joins a carriage return, and in neither case does
it matter for the margin. So a text can be indented part by part, and twice by two margins as well
as once by both.
-/

namespace KeyedAccess.Text

/-- A line behind a margin, or as it is if it is blank. -/
def behindMargin (margin line : List Char) : List Char :=
  if line.all isBlank then line else margin ++ line

/-- Indenting puts every line behind the margin. -/
theorem indentChars_eq (margin text : List Char) :
    indentChars margin text = (lines text).flatMap (behindMargin margin) := rfl

private theorem isBlank_of_isLineBoundary {c : Char} (h : isLineBoundary c = true) :
    isBlank c = true := by
  simp only [isLineBoundary, isBlank, Bool.or_eq_true, Bool.and_eq_true, decide_eq_true_eq,
    beq_iff_eq] at h ⊢
  omega

/-- What ends a line is blank. -/
theorem LineEnd.all_isBlank {ending : List Char} (h : LineEnd ending) :
    ending.all isBlank = true := by
  cases h with
  | boundary h => simpa using isBlank_of_isLineBoundary h
  | pair => decide

private theorem behindMargin_append {margin line tail : List Char} (h : tail.all isBlank = true) :
    behindMargin margin (line ++ tail) = behindMargin margin line ++ tail := by
  rw [behindMargin, behindMargin, List.all_append, h, Bool.and_true]
  split
  · rfl
  · exact (List.append_assoc _ _ _).symm

private theorem behindMargin_behindMargin (outer inner line : List Char) :
    behindMargin outer (behindMargin inner line) = behindMargin (outer ++ inner) line := by
  by_cases hblank : line.all isBlank = true
  · have hsame (margin : List Char) : behindMargin margin line = line := if_pos hblank
    rw [hsame inner, hsame outer, hsame]
  · have hmoved (margin : List Char) : behindMargin margin line = margin ++ line := if_neg hblank
    have hstays : ¬ (inner ++ line).all isBlank = true := by
      rw [List.all_append, Bool.and_eq_true]
      exact fun h => hblank h.2
    rw [hmoved inner, hmoved, behindMargin, if_neg hstays, List.append_assoc]

/-- The first line of a text is indented for itself. -/
theorem indentChars_ended (margin : List Char) {body ending rest : List Char}
    (hbody : ∀ c ∈ body, isLineBoundary c = false) (hend : LineEnd ending)
    (hwhole : ending = ['\r'] → rest.head? ≠ some '\n') :
    indentChars margin (body ++ ending ++ rest) =
      behindMargin margin body ++ ending ++ indentChars margin rest := by
  rw [indentChars_eq, lines_ended hbody hend hwhole, List.flatMap_cons,
    behindMargin_append hend.all_isBlank]
  rfl

/-! ## Part by part -/

/-- The lines in front of a line feed stay as they are: it ends the last one of them, or it is one
boundary with the carriage return of that line, or it is a blank line of its own. -/
theorem CutLines.indent_lineFeed {ls : List (List Char)} {text : List Char} (h : CutLines ls text)
    (margin behind : List Char) :
    indentChars margin (text ++ '\n' :: behind) =
      ls.flatMap (behindMargin margin) ++ '\n' :: indentChars margin behind := by
  have hfeed : LineEnd ['\n'] := .boundary rfl
  have hfree : ['\n'] = ['\r'] → behind.head? ≠ some '\n' := fun he => absurd he (by decide)
  induction h with
  | nil =>
    have hempty : ∀ c ∈ ([] : List Char), isLineBoundary c = false := List.forall_mem_nil _
    have hended := indentChars_ended margin hempty hfeed hfree
    simpa [Text.behindMargin] using hended
  | @last body _ hbody =>
    have hended := indentChars_ended margin hbody hfeed hfree
    simpa using hended
  | @ended body ending rest others hbody hend hwhole hothers ih =>
    rw [List.flatMap_cons, behindMargin_append hend.all_isBlank]
    by_cases hjoined : ending = ['\r'] ∧ rest = []
    · obtain ⟨rfl, rfl⟩ := hjoined
      have hpair : ['\r', '\n'] = ['\r'] → behind.head? ≠ some '\n' := fun he =>
        absurd he (by decide)
      have hended := indentChars_ended margin hbody .pair hpair
      have hnone : others = [] := (cutLines_iff.mp hothers).symm
      simpa [hnone] using hended
    · have hapart : ending = ['\r'] → (rest ++ '\n' :: behind).head? ≠ some '\n' := by
        intro he
        cases rest with
        | nil => exact absurd ⟨he, rfl⟩ hjoined
        | cons c rest => exact hwhole he
      rw [List.append_assoc, indentChars_ended margin hbody hend hapart, ih]
      simp only [List.append_assoc]

/-- What stands on both sides of a line feed is indented for itself. -/
theorem indentChars_lineFeed (margin first second : List Char) :
    indentChars margin (first ++ '\n' :: second) =
      indentChars margin first ++ '\n' :: indentChars margin second :=
  (cutLines_lines first).indent_lineFeed margin second

/-- Texts with line feeds between them are indented one by one. -/
theorem indentChars_intercalate (margin : List Char) (texts : List (List Char)) :
    indentChars margin (['\n'].intercalate texts) =
      ['\n'].intercalate (texts.map (indentChars margin)) := by
  induction texts with
  | nil => rfl
  | cons text texts ih =>
    cases texts with
    | nil => simp
    | cons next texts =>
      rw [List.intercalate_cons_cons, List.append_assoc, List.singleton_append,
        indentChars_lineFeed, ih]
      simp [List.intercalate_cons_cons]

/-! ## Line by line -/

private theorem head?_flatMap_behindMargin {margin text : List Char} {ls : List (List Char)}
    (hm : ∀ c ∈ margin, isLineBoundary c = false) (h : CutLines ls text)
    (ht : text.head? ≠ some '\n') : (ls.flatMap (behindMargin margin)).head? ≠ some '\n' := by
  have hfeed : '\n' ∉ margin := fun hmem => absurd (hm _ hmem) (by decide)
  cases ls with
  | nil => simp
  | cons line others =>
    -- no line is empty, so the text begins with its first line
    obtain ⟨c, body, rfl⟩ := List.exists_cons_of_ne_nil (h.ne_nil line List.mem_cons_self)
    have hc : c ≠ '\n' := by
      intro he
      rw [← h.flatten, he] at ht
      exact ht rfl
    rw [List.flatMap_cons, behindMargin]
    split
    · simpa using hc
    · cases margin with
      | nil => simpa using hc
      | cons d margin => simpa using fun he : d = '\n' => hfeed (he ▸ List.mem_cons_self)

/-- The lines of an indented text are those of the text behind the margin, if the margin holds no
line boundary. -/
theorem CutLines.indented {margin text : List Char} {ls : List (List Char)}
    (hm : ∀ c ∈ margin, isLineBoundary c = false) (h : CutLines ls text) :
    CutLines (ls.map (behindMargin margin)) (ls.flatMap (behindMargin margin)) := by
  have hbody : ∀ body : List Char, (∀ c ∈ body, isLineBoundary c = false) →
      ∀ c ∈ behindMargin margin body, isLineBoundary c = false := by
    intro body hb
    rw [behindMargin]
    split
    · exact hb
    · exact List.forall_mem_append.mpr ⟨hm, hb⟩
  induction h with
  | nil => exact .nil
  | @last body hne hb =>
    have hsome : behindMargin margin body ≠ [] := by
      rw [behindMargin]
      split
      · exact hne
      · exact List.append_ne_nil_of_right_ne_nil _ hne
    simpa using CutLines.last hsome (hbody body hb)
  | @ended body ending rest others hb hend hwhole hothers ih =>
    rw [List.map_cons, List.flatMap_cons, behindMargin_append hend.all_isBlank]
    exact .ended (hbody body hb) hend (fun he =>
      head?_flatMap_behindMargin hm hothers (hwhole he)) ih

/-- A text that is indented twice is indented by both margins, if the inner one holds no line
boundary. -/
theorem indentChars_indentChars {inner : List Char} (h : ∀ c ∈ inner, isLineBoundary c = false)
    (outer text : List Char) :
    indentChars outer (indentChars inner text) = indentChars (outer ++ inner) text := by
  have hlines : lines (indentChars inner text) = (lines text).map (behindMargin inner) :=
    cutLines_iff.mp ((cutLines_lines text).indented h)
  rw [indentChars_eq, hlines, List.flatMap_map, indentChars_eq]
  have htwice : (fun line => behindMargin outer (behindMargin inner line)) =
      behindMargin (outer ++ inner) := funext (behindMargin_behindMargin outer inner)
  rw [htwice]

end KeyedAccess.Text
