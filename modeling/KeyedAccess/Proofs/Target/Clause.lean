import KeyedAccess.Clause
import KeyedAccess.Proofs.Text.Indentation

/-!
# The lines of clauses

A block of clauses is written line by line: every clause ends with a line feed, and every line of it
that is not blank stands behind the margin.
-/

namespace KeyedAccess.Text

/-- The only line of a text stands behind the margin if it is not blank. -/
theorem indentChars_line {margin line : List Char} (h : ∀ c ∈ line, isLineBoundary c = false)
    (hb : line.all isBlank = false) : indentChars margin line = margin ++ line := by
  have hne : line ≠ [] := by
    rintro rfl
    cases hb
  rw [indentChars_eq, lines_eq_singleton hne h, List.flatMap_singleton, behindMargin, hb,
    if_neg Bool.false_ne_true]

/-- So does such a line in front of others. -/
theorem indentChars_append {margin line : List Char} (h : ∀ c ∈ line, isLineBoundary c = false)
    (hb : line.all isBlank = false) (rest : List Char) :
    indentChars margin (line ++ '\n' :: rest) =
      margin ++ line ++ '\n' :: indentChars margin rest := by
  rw [indentChars_lineFeed, indentChars_line h hb]

end KeyedAccess.Text

namespace KeyedAccess

/-- Parts with a line feed behind each are the parts with line feeds between them and one more. -/
theorem intercalate_lineFeed {parts : List (List Char)} (h : parts ≠ []) :
    ['\n'].intercalate parts ++ ['\n'] = parts.flatMap (· ++ ['\n']) := by
  induction parts with
  | nil => exact absurd rfl h
  | cons part parts ih =>
    cases parts with
    | nil => simp
    | cons next parts =>
      rw [List.flatMap_cons, ← ih (List.cons_ne_nil _ _), List.intercalate_cons_cons]
      simp

/-- The clauses that are joined are the indented ones, with line feeds between them. -/
theorem toList_joinClauses (clauses : List Clause) (margin : String) :
    (joinClauses clauses margin).toList = ['\n'].intercalate
      (clauses.map fun clause => Text.indentChars margin.toList clause.text.toList) := by
  rw [joinClauses, String.toList_intercalate, List.map_map]
  refine congrArg (['\n'].intercalate ·) (List.map_congr_left fun clause _ => ?_)
  exact String.toList_ofList

/-- Clauses are written as whole lines, one clause after the other. -/
theorem toList_clauseLines {clauses : List Clause} {margin : String}
    (h : ∀ clause ∈ clauses, Text.indentChars margin.toList clause.text.toList ≠ []) :
    (clauseLines clauses margin).toList =
      clauses.flatMap fun clause =>
        Text.indentChars margin.toList clause.text.toList ++ ['\n'] := by
  have hjoin := toList_joinClauses clauses margin
  cases clauses with
  | nil => rfl
  | cons clause clauses =>
    have hne : joinClauses (clause :: clauses) margin ≠ "" := by
      intro he
      have hl := congrArg String.toList he
      rw [hjoin] at hl
      have hc := h clause List.mem_cons_self
      cases clauses with
      | nil => simp_all
      | cons next clauses =>
        rw [List.map_cons, List.map_cons, List.intercalate_cons_cons] at hl
        simp at hl
    have hlines : clauseLines (clause :: clauses) margin =
        joinClauses (clause :: clauses) margin ++ "\n" := by
      rw [clauseLines]
      split
      · next he => exact absurd he hne
      · rfl
    rw [hlines, String.toList_append, hjoin, ← List.flatMap_map
      (fun clause : Clause => Text.indentChars margin.toList clause.text.toList) (· ++ ['\n'])]
    exact intercalate_lineFeed (List.cons_ne_nil _ _)

end KeyedAccess
