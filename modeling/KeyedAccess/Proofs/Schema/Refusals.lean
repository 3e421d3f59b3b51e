import KeyedAccess.Proofs.Schema.Soundness
import KeyedAccess.Proofs.Schema.Viability
import Mathlib.Data.List.Induction

/-!
# Where a text is refused

A text with an error of syntax is refused at the first token that no sentence goes on with, or where
nothing begins. What stands before begins a sentence, because the file can be completed from every
state of the reader. The position counts lines and columns from one.
-/

namespace KeyedAccess.Schema

/-! ## Positions -/

/-- A position behind a text: lines are counted by line feeds, and columns by the characters behind
the last one. -/
structure Position.Behind (p : Position) (before : List Char) : Prop where
  /-- The line. -/
  line : p.line = 1 + before.count '\n'
  /-- The column. -/
  column : p.column = 1 + (before.reverse.takeWhile (· != '\n')).length

/-- The position at the end of a text is behind it. -/
theorem Position.behind_endOf (before : List Char) : (Position.endOf before).Behind before := by
  induction before using List.reverseRecOn with
  | nil => exact ⟨rfl, rfl⟩
  | append_singleton before c ih =>
    have hafter : Position.endOf (before ++ [c]) = (Position.endOf before).after c := by
      rw [Position.endOf, List.foldl_append]
      rfl
    rw [hafter, Position.after]
    by_cases hc : c = '\n'
    · subst hc
      exact ⟨by simp [ih.line, Nat.add_assoc], by simp⟩
    · have hb : (c != '\n') = true := bne_iff_ne.mpr hc
      refine ⟨?_, ?_⟩
      · simp [hc, ih.line]
      · simp [hc, ih.column, Nat.add_assoc]

/-- The rest of a text begins behind what stands before it. -/
theorem Position.behind_ofRest (before rest : List Char) :
    (Position.ofRest (before ++ rest) rest).Behind before := by
  have htake : (before ++ rest).take ((before ++ rest).length - rest.length) = before := by
    rw [List.length_append, Nat.add_sub_cancel, List.take_left]
  rw [Position.ofRest, htake]
  exact Position.behind_endOf before

/-! ## Sentences -/

/-- The classes of tokens that were cut off. -/
def classes (parts : List (List Char × Token)) : List Terminal :=
  parts.map fun part => part.2.terminal

section

variable {text rest : List Char} {parts : List (List Char × Token)} {s : State}

/-- They are the classes of the tokens. -/
theorem classes_eq (parts : List (List Char × Token)) :
    classes parts = (parts.map Prod.snd).map Token.terminal := by
  rw [List.map_map]
  rfl

/-- Tokens that were cut off begin a sentence. -/
theorem Scan.begins (h : Scan .start text parts s rest) : Begins (classes parts) := by
  obtain ⟨tokens, f, hf⟩ := s.viable
  rw [classes_eq, begins_terminals_iff]
  exact ⟨f, tokens, tokensOfFile_of_reads ((h.reads_append tokens).trans hf)⟩

/-- A token that the reader does not take goes on with no sentence. -/
theorem Scan.not_begins (h : Scan .start text parts s rest) {t : Token} (ht : s.step t = none) :
    ¬ Begins (classes parts ++ [t.terminal]) := by
  have hclasses : classes parts ++ [t.terminal] =
      (parts.map Prod.snd ++ [t]).map Token.terminal := by
    rw [List.map_append, classes_eq]
    rfl
  rw [hclasses, begins_terminals_iff]
  rintro ⟨f, tokens, hf⟩
  have hreads := start_reads_tokensOfFile f
  rw [hf, List.append_assoc, h.reads_append, List.singleton_append, State.reads_cons, ht,
    Option.bind_none] at hreads
  cases hreads

/-- Where the file is not complete, the tokens are no sentence. -/
theorem Scan.not_sentence (h : Scan .start text parts s rest) (hs : s.finish = none) :
    ¬ Sentence (classes parts) := by
  rw [classes_eq, sentence_terminals_iff]
  rintro ⟨f, hf⟩
  have hreads := start_reads_tokensOfFile f
  rw [hf, ← List.append_nil (parts.map Prod.snd), h.reads_append, State.reads_nil, hs] at hreads
  cases hreads

end

/-! ## Errors -/

/-- What an error says about a text. -/
def ParseError.Explained (text : List Char) : ParseError → Prop
  -- a sentence begins with the tokens before the refused one, and none with it behind them
  | .unexpectedToken t p => ∃ parts s gap behind,
    Scan .start text parts s (gap ++ (t.text.toList ++ behind)) ∧ Blank gap ∧
      Begins (classes parts) ∧ ¬ Begins (classes parts ++ [t.terminal]) ∧
      p.Behind (written parts ++ gap)
  -- a sentence begins with all tokens and is not over; the position is that of the last token
  | .unexpectedEnd p => ∃ parts s rest,
    Scan .start text parts s rest ∧ Trailing rest ∧
      Begins (classes parts) ∧ ¬ Sentence (classes parts) ∧
      (parts = [] ∧ p = ⟨1, 1⟩ ∨
        ∃ others gap t, parts = others ++ [(gap, t)] ∧ p.Behind (written others ++ gap))
  -- a sentence begins with the tokens before, and neither a token nor an ignored piece follows
  | .unexpectedCharacter c p => ∃ parts s gap behind,
    Scan .start text parts s (gap ++ c :: behind) ∧ Blank gap ∧
      Begins (classes parts) ∧ (∀ piece, Piece piece → ¬ piece <+: c :: behind) ∧
      p.Behind (written parts ++ gap)
  -- an error of meaning is none of syntax
  | .invalid fault => ∃ f, readFile text = .ok f ∧ meaning f = .error fault

/-- A refusal explains the error at its position. -/
theorem Refusal.explained {text : List Char} {refusal : Refusal}
    (h : Ending .start text text (.error refusal)) : (refusal.located text).Explained text := by
  have hposition : ∀ {before rest : List Char}, text = before ++ rest →
      (Position.ofRest text rest).Behind before := by
    rintro before rest rfl
    exact Position.behind_ofRest before rest
  cases h with
  | @token parts gap t s behind hscan hgap hstep =>
    refine ⟨parts, s, gap, behind, hscan, hgap, hscan.begins, hscan.not_begins hstep, hposition ?_⟩
    rw [hscan.eq_written, List.append_assoc]
  | empty hrest hfinish =>
    have hscan := Scan.nil State.start text
    have hfirst : Position.ofRest text text = ⟨1, 1⟩ := by
      rw [Position.ofRest, Nat.sub_self]
      rfl
    exact ⟨[], _, text, hscan, hrest, hscan.begins, hscan.not_sentence hfinish, .inl ⟨rfl, hfirst⟩⟩
  | @early parts gap t s start rest hscan hrest hfinish hstart =>
    exact ⟨_, s, rest, hscan, hrest, hscan.begins, hscan.not_sentence hfinish,
      .inr ⟨parts, gap, t, rfl, hposition hstart⟩⟩
  | @character parts gap c s behind hscan hgap hnone =>
    refine ⟨parts, s, gap, behind, hscan, hgap, hscan.begins, hnone, hposition ?_⟩
    rw [hscan.eq_written, List.append_assoc]

/-- Every error says what is wrong with the text, and where. -/
theorem explained_of_parse {text : String} {e : ParseError} (h : parse text = .error e) :
    e.Explained text.toList := by
  cases hr : readFile text.toList with
  | error refusal =>
    have hlocated : e = refusal.located text.toList :=
      (Except.error.inj ((parse_of_error hr).symm.trans h)).symm
    have hending := ending_readFrom .start text.toList text.toList
    rw [← readFile, hr] at hending
    rw [hlocated]
    exact Refusal.explained hending
  | ok f =>
    have hparse := (parse_of_ok hr).symm.trans h
    cases hm : meaning f with
    | error fault =>
      rw [hm] at hparse
      cases hparse
      exact ⟨f, hr, hm⟩
    | ok out =>
      rw [hm] at hparse
      cases hparse

/-- A member without a colon in front of its type is refused at the type. -/
theorem explained_missingColon :
    parse "partial class A \x7b\n  X int \x7d" =
        .error (.unexpectedToken (.name "int") ⟨2, 5⟩) ∧
      ParseError.Explained "partial class A \x7b\n  X int \x7d".toList
        (.unexpectedToken (.name "int") ⟨2, 5⟩) := by
  have hread : readFile "partial class A \x7b\n  X int \x7d".toList =
      .error (.token (.name "int") "int \x7d".toList) := by
    rw [readFile]
    repeat rw [readFrom_token rfl rfl rfl]
    rw [readFrom]
    rfl
  have hparse := parse_of_error hread
  exact ⟨hparse, explained_of_parse hparse⟩

end KeyedAccess.Schema
