import KeyedAccess.Proofs.Target.Rows
import Mathlib.Data.List.Forall2

/-!
# Joining and indenting

Clauses are indented one by one and joined with line feeds. The whole could as well be joined first
and indented afterwards, at once or in steps, although a clause may end with a carriage return,
which the line feed joins, or with a line boundary, or may be empty: every line of every clause that
is not blank stands behind the margin once, and nothing else is changed.
-/

namespace KeyedAccess

open Text

/-- Joined clauses that are indented are joined with both margins, if the inner one is one line. -/
theorem indent_joinClauses {inner : String} (h : OneLine inner) (outer : String)
    (clauses : List Clause) :
    indent outer (joinClauses clauses inner) = joinClauses clauses (outer ++ inner) := by
  apply String.toList_inj.mp
  rw [indent, String.toList_ofList, toList_joinClauses, indentChars_intercalate, List.map_map,
    toList_joinClauses, String.toList_append]
  refine congrArg (['\n'].intercalate ·) (List.map_congr_left fun clause _ => ?_)
  exact indentChars_indentChars h outer.toList clause.text.toList

private theorem forall₂_cutLines (clauses : List Clause) :
    List.Forall₂ (fun clause ls => CutLines ls clause.text.toList) clauses
      (clauses.map fun clause => lines clause.text.toList) :=
  List.forall₂_map_right_iff.mpr (List.forall₂_same.mpr fun _ _ => cutLines_lines _)

/-- Joining clauses with a margin is joining them as they are and indenting the whole. The whole may
also be indented in two steps, if the margin of the first one holds no line boundary. The text is
made of the lines of the clauses, each behind the margin or blank, with line feeds between the
clauses. -/
theorem joinClauses_indented (clauses : List Clause) :
    (∀ margin, joinClauses clauses margin = indent margin (joinClauses clauses "")) ∧
    (∀ inner outer, OneLine inner →
      indent outer (joinClauses clauses inner) = joinClauses clauses (outer ++ inner)) ∧
    ∀ margin, ∃ cuts : List (List (List Char)),
      List.Forall₂ (fun clause ls => CutLines ls clause.text.toList) clauses cuts ∧
      (joinClauses clauses margin).toList =
        ['\n'].intercalate (cuts.map fun ls => ls.flatMap (behindMargin margin.toList)) := by
  refine ⟨fun margin => ?_, fun inner outer h => indent_joinClauses h outer clauses,
    fun margin => ⟨_, forall₂_cutLines clauses, ?_⟩⟩
  · have hempty : OneLine "" := by decide
    rw [indent_joinClauses hempty, String.append_empty]
  · rw [toList_joinClauses, List.map_map]
    rfl

/-- Clauses with all kinds of ends: one ends with a carriage return, one is empty, one begins with a
line feed and holds a line separator, and one is blank. -/
def ragged : List Clause :=
  [⟨"a", "case\r"⟩, ⟨"b", ""⟩, ⟨"c", "\n  x\u2028y\r\n"⟩, ⟨"d", "\t\x0c"⟩]

/-- They are indented in two steps as well as in one. -/
theorem joinClauses_ragged : OneLine "  " ∧
    indent "\r" (joinClauses ragged "  ") = joinClauses ragged ("\r" ++ "  ") ∧
    joinClauses ragged "> " = "> case\r\n\n\n>   x\u2028> y\r\n\n\t\x0c" := by
  have hmargin : OneLine "  " := by decide
  refine ⟨hmargin, (joinClauses_indented ragged).2.1 "  " "\r" hmargin, ?_⟩
  decide +kernel

end KeyedAccess
