import KeyedAccess.Proofs.Schema.Names

/-!
# What is cut off a text

A scan cuts tokens off a text, with the blanks in front of them, as long as the reader takes them. A
text that is read or refused is scanned first: to its end, to a token that the reader does not take,
or to a character where nothing begins.
-/

namespace KeyedAccess.Schema

/-! ## Blanks -/

/-- Blanks at the end of a text, where the last comment may lack the line feed that ends it. -/
inductive Trailing : List Char → Prop where
  /-- Blanks whose comments are ended. -/
  | blank {gap : List Char} (h : Blank gap) : Trailing gap
  /-- Blanks with an open comment behind them. -/
  | comment {gap body : List Char} (h : Blank gap) (hb : '\n' ∉ body) :
    Trailing (gap ++ '#' :: body)

/-- Two pieces of blanks are blanks. -/
theorem Blank.append {gap other : List Char} (h : Blank gap) (ho : Blank other) :
    Blank (gap ++ other) := by
  induction h with
  | nil => exact ho
  | white hc _ ih => exact .white hc ih
  | comment hb _ ih =>
    rw [List.cons_append, List.append_assoc, List.cons_append]
    exact .comment hb ih

/-- Blanks may stand in front of those at the end. -/
theorem Trailing.append {gap text : List Char} (hg : Blank gap) (h : Trailing text) :
    Trailing (gap ++ text) := by
  cases h with
  | blank h => exact .blank (hg.append h)
  | comment h hb =>
    rw [← List.append_assoc]
    exact .comment (hg.append h) hb

private theorem skipBlank_open {text : List Char} (h : '\n' ∉ text) : skipBlank true text = [] := by
  induction text with
  | nil => rfl
  | cons c rest ih =>
    have hc : (c != '\n') = true := bne_iff_ne.mpr (List.ne_of_not_mem_cons h).symm
    rw [skipBlank, if_pos rfl, hc]
    exact ih (List.not_mem_of_not_mem_cons h)

private theorem skipBlank_cases (text : List Char) :
    (skipBlank false text = [] ∧ Trailing text) ∨
      ∃ gap c rest, Blank gap ∧ isWhite c = false ∧ c ≠ '#' ∧
        skipBlank false text = c :: rest ∧ text = gap ++ c :: rest := by
  induction hl : text.length using Nat.strongRecOn generalizing text with
  | _ length ih =>
    have hgap : ∀ {gap rest : List Char}, Blank gap → gap ≠ [] → text = gap ++ rest →
        (skipBlank false text = [] ∧ Trailing text) ∨
          ∃ gap c rest, Blank gap ∧ isWhite c = false ∧ c ≠ '#' ∧
            skipBlank false text = c :: rest ∧ text = gap ++ c :: rest := by
      rintro gap rest hg hn rfl
      have hlt : rest.length < length := by
        rw [← hl, List.length_append]
        exact Nat.lt_add_of_pos_left (List.length_pos_iff.mpr hn)
      rw [skipBlank_append hg]
      rcases ih _ hlt rest rfl with ⟨hs, ht⟩ | ⟨gap', c, rest', hb, hw, hh, hs, rfl⟩
      · exact .inl ⟨hs, ht.append hg⟩
      · exact .inr ⟨gap ++ gap', c, rest', hg.append hb, hw, hh, hs, (List.append_assoc ..).symm⟩
    cases text with
    | nil => exact .inl ⟨rfl, .blank .nil⟩
    | cons c rest =>
      by_cases hh : c = '#'
      · subst hh
        by_cases hn : '\n' ∈ rest
        · obtain ⟨body, behind, rfl, hb⟩ := List.eq_append_cons_of_mem hn
          have hcomment : Blank ('#' :: (body ++ '\n' :: [])) := .comment hb .nil
          exact hgap hcomment (List.cons_ne_nil _ _)
            (by rw [List.cons_append, List.append_assoc, List.singleton_append])
        · exact .inl ⟨skipBlank_open hn, .comment .nil hn⟩
      · cases hw : isWhite c with
        | true =>
          have hwhite : Blank [c] := .white hw .nil
          exact hgap hwhite (List.cons_ne_nil _ _) rfl
        | false => exact .inr ⟨[], c, rest, .nil, hw, hh, skipBlank_cons hw hh, rfl⟩

/-- What is left behind dropped blanks begins with a character that is none. -/
theorem blank_of_skipBlank {text rest : List Char} {c : Char}
    (h : skipBlank false text = c :: rest) :
    ∃ gap, Blank gap ∧ isWhite c = false ∧ c ≠ '#' ∧ text = gap ++ c :: rest := by
  rcases skipBlank_cases text with ⟨hs, -⟩ | ⟨gap, c', rest', hg, hw, hh, hs, ht⟩
  · cases h.symm.trans hs
  · cases h.symm.trans hs
    exact ⟨gap, hg, hw, hh, ht⟩

/-- Where nothing is left there were only blanks. -/
theorem trailing_of_skipBlank {text : List Char} (h : skipBlank false text = []) :
    Trailing text := by
  rcases skipBlank_cases text with ⟨-, ht⟩ | ⟨_, _, _, _, _, _, hs, _⟩
  · exact ht
  · cases h.symm.trans hs

/-- Of blanks at the end nothing is left. -/
theorem Trailing.skipBlank {rest : List Char} (h : Trailing rest) :
    Schema.skipBlank false rest = [] := by
  cases h with
  | blank h => simpa [Schema.skipBlank] using skipBlank_append h []
  | comment h hb =>
    rw [skipBlank_append h]
    exact skipBlank_open hb

/-! ## Tokens -/

/-- The keyword that is found has the text that was looked up. -/
theorem Word.text_of_ofText? {text : String} {w : Word} (h : Word.ofText? text = some w) :
    w.text = text := by
  simpa using List.find?_some h

/-- A whole word is a token of its text. -/
@[simp] theorem Context.text_classify (context : Context) (text : String) :
    (context.classify text).text = text := by
  unfold Context.classify
  split
  · next w hw =>
    split
    · exact Word.text_of_ofText? hw
    · rfl
  · rfl

/-- A token that is cut off stood there. -/
theorem eq_append_of_lexeme {context : Context} {text rest : List Char} {t : Token}
    (h : lexeme context text = some (t, rest)) : text = t.text.toList ++ rest := by
  cases lexed_of_eq_some h with
  | @mark c m hc =>
    have hchar : m.char = c := by simpa using List.find?_some hc
    rw [Token.text, String.toList_singleton, hchar, List.singleton_append]
  | whole =>
    rw [Context.text_classify, String.toList_ofList, List.cons_append,
      List.takeWhile_append_dropWhile]
  | bare _ _ _ hd => exact eq_append_of_dropWord hd

/-- A token begins with a character that is no blank. -/
theorem head_of_lexeme {context : Context} {behind : List Char} {t : Token}
    (h : lexeme context text = some (t, behind)) :
    ∃ c letters, text = c :: letters ∧ isWhite c = false ∧ c ≠ '#' := by
  have hname : ∀ name, t = .name name → IsName name := by
    rintro name rfl
    exact legible_of_lexeme h
  obtain ⟨c, letters, ht, hw, hh⟩ := Token.head hname
  refine ⟨c, letters ++ behind, ?_, hw, hh⟩
  rw [eq_append_of_lexeme h, ht, List.cons_append]

/-- Where a name may stand, a letter begins a token. -/
theorem lexeme_ne_none {context : Context} (hn : context.names = true) {c : Char}
    (hc : Text.isAsciiNameStart c = true) (rest : List Char) :
    lexeme context (c :: rest) ≠ none := by
  rw [lexeme, Mark.ofChar?_nameStart hc]
  simp only [hn, hc, if_true]
  exact Option.some_ne_none _

/-- A token that only the full context finds is none of the context. -/
theorem not_admits_of_everything {context : Context} {text rest : List Char} {t : Token}
    (h : lexeme context text = none) (he : lexeme .everything text = some (t, rest)) :
    ¬ context.Admits t := by
  obtain rfl := eq_append_of_lexeme he
  intro ha
  cases t with
  | mark m =>
    rw [Token.text, String.toList_singleton, List.singleton_append, lexeme, Mark.ofChar?_char] at h
    simp only [List.contains_iff_mem.mpr ha, if_true] at h
    cases h
  | name text =>
    obtain ⟨c, letters, ht, hc, -⟩ : IsName text := legible_of_lexeme he
    rw [Token.text, ht, List.cons_append] at h
    exact lexeme_ne_none ha hc _ h
  | word w =>
    cases hn : context.names with
    | true =>
      obtain ⟨c, letters, ht, hc, -⟩ := w.isName
      rw [Token.text, ht, List.cons_append] at h
      exact lexeme_ne_none hn hc _ h
    | false => cases h.symm.trans (lexeme_bare hn ha rest)

/-- A token that only the full context finds is not taken. -/
theorem State.step_eq_none {s : State} {text rest : List Char} {t : Token}
    (h : lexeme s.place.context text = none) (he : lexeme .everything text = some (t, rest)) :
    s.step t = none := by
  cases hs : s.step t with
  | none => rfl
  | some next => exact absurd (State.admits_of_step hs) (not_admits_of_everything h he)

/-- A text that is one token or one ignored piece. -/
inductive Piece : List Char → Prop where
  /-- A token. -/
  | token {t : Token} (h : t.Legible) : Piece t.text.toList
  /-- White space. -/
  | white {text : List Char} (hn : text ≠ []) (h : ∀ c ∈ text, isWhite c = true) : Piece text
  /-- A comment, up to the end of its line. -/
  | comment {body : List Char} (h : '\n' ∉ body) : Piece ('#' :: body)

/-- Where the full context finds no token, nothing begins but blanks. -/
theorem not_prefix_of_everything {c : Char} {rest : List Char} (hw : isWhite c = false)
    (hh : c ≠ '#') (h : lexeme .everything (c :: rest) = none) {piece : List Char}
    (hp : Piece piece) : ¬ piece <+: c :: rest := by
  rintro ⟨behind, he⟩
  cases hp with
  | @token t ht =>
    have hletter : ∀ {text : String}, IsName text → text.toList ++ behind = c :: rest → False := by
      rintro text ⟨d, letters, hd, hc, -⟩ ht
      rw [hd, List.cons_append] at ht
      cases ht
      exact lexeme_ne_none rfl hc _ h
    cases t with
    | name text => exact hletter ht he
    | word w => exact hletter w.isName he
    | mark m =>
      rw [Token.text, String.toList_singleton, List.singleton_append] at he
      cases he
      rw [lexeme, Mark.ofChar?_char] at h
      simp only [Context.everything, List.contains_iff_mem.mpr m.mem_all, if_true] at h
      cases h
  | white hn hwhite =>
    obtain ⟨d, others, rfl⟩ := List.exists_cons_of_ne_nil hn
    cases he
    rw [hwhite c List.mem_cons_self] at hw
    cases hw
  | comment =>
    cases he
    exact hh rfl

/-! ## Scans -/

/-- Tokens, each with the blanks in front of it, as they stand in a text. -/
def written (parts : List (List Char × Token)) : List Char :=
  parts.flatMap fun part => part.1 ++ part.2.text.toList

/-- A scan from a state through a text: the tokens that are cut off, each with the blanks in front
of it, the state that they lead to and the text behind them. -/
inductive Scan : State → List Char → List (List Char × Token) → State → List Char → Prop where
  /-- Nothing is cut off. -/
  | nil (s : State) (text : List Char) : Scan s text [] s text
  /-- A token that may stand in the context of the state is cut off and taken. -/
  | cons {s next last : State} {gap text behind rest : List Char} {t : Token}
      {parts : List (List Char × Token)} (hg : Blank gap)
      (hl : lexeme s.place.context text = some (t, behind)) (hs : s.step t = some next)
      (h : Scan next behind parts last rest) : Scan s (gap ++ text) ((gap, t) :: parts) last rest

section

variable {s last : State} {text rest : List Char} {parts : List (List Char × Token)}

/-- A scanned text is what was cut off and what stands behind it. -/
theorem Scan.eq_written (h : Scan s text parts last rest) : text = written parts ++ rest := by
  induction h with
  | nil => rfl
  | cons hg hl hs h ih =>
    rw [eq_append_of_lexeme hl, ih, written, written, List.flatMap_cons, List.append_assoc,
      List.append_assoc]

/-- What was cut off are blanks and legible tokens. -/
theorem Scan.legible (h : Scan s text parts last rest) :
    ∀ part ∈ parts, Blank part.1 ∧ part.2.Legible := by
  induction h with
  | nil => exact fun part hp => absurd hp List.not_mem_nil
  | cons hg hl hs h ih =>
    intro part hp
    rcases List.mem_cons.mp hp with rfl | hp
    · exact ⟨hg, legible_of_lexeme hl⟩
    · exact ih part hp

/-- The tokens that were cut off lead the reader to the last state. -/
theorem Scan.run (h : Scan s text parts last rest) : s.run (parts.map Prod.snd) = some last := by
  induction h with
  | nil => rfl
  | cons hg hl hs h ih =>
    rw [List.map_cons, State.run, hs, Option.bind_some]
    exact ih

/-- Behind a scan the reading goes on. -/
theorem Scan.readFrom (h : Scan s text parts last rest) (start : List Char) :
    ∃ start', Schema.readFrom s start text = Schema.readFrom last start' rest := by
  induction h generalizing start with
  | nil => exact ⟨start, rfl⟩
  | @cons s next last gap text behind rest t parts hg hl hs h ih =>
    obtain ⟨c, letters, rfl, hw, hh⟩ := head_of_lexeme hl
    have hskip : skipBlank false (gap ++ c :: letters) = c :: letters := by
      rw [skipBlank_append hg, skipBlank_cons hw hh]
    obtain ⟨start', he⟩ := ih (c :: letters)
    exact ⟨start', (readFrom_token hskip hl hs).trans he⟩

/-- More tokens are read from the last state on. -/
theorem Scan.reads_append (h : Scan s text parts last rest) (tokens : List Token) :
    s.reads (parts.map Prod.snd ++ tokens) = last.reads tokens := by
  induction h with
  | nil => rfl
  | cons hg hl hs h ih =>
    rw [List.map_cons, List.cons_append, State.reads_cons, hs, Option.bind_some]
    exact ih

end

/-- How a scan of a text ends. The last token before the text began at `last`. -/
inductive Ending (s : State) (last text : List Char) : Except Refusal File → Prop where
  /-- Only blanks are left, and the file is complete. -/
  | file {parts : List (List Char × Token)} {s' : State} {rest : List Char} {f : File}
      (hscan : Scan s text parts s' rest) (hrest : Trailing rest) (hfinish : s'.finish = some f) :
      Ending s last text (.ok f)
  /-- Only blanks are left, and no token was cut off. -/
  | empty (hrest : Trailing text) (hfinish : s.finish = none) :
      Ending s last text (.error (.atEnd last))
  /-- Only blanks are left behind a last token. -/
  | early {parts : List (List Char × Token)} {gap : List Char} {t : Token} {s' : State}
      {start rest : List Char} (hscan : Scan s text (parts ++ [(gap, t)]) s' rest)
      (hrest : Trailing rest) (hfinish : s'.finish = none)
      (hstart : text = written parts ++ gap ++ start) : Ending s last text (.error (.atEnd start))
  /-- The reader does not take a token. -/
  | token {parts : List (List Char × Token)} {gap : List Char} {t : Token} {s' : State}
      {behind : List Char} (hscan : Scan s text parts s' (gap ++ (t.text.toList ++ behind)))
      (hgap : Blank gap) (hstep : s'.step t = none) :
      Ending s last text (.error (.token t (t.text.toList ++ behind)))
  /-- Nothing begins with a character. -/
  | character {parts : List (List Char × Token)} {gap : List Char} {c : Char} {s' : State}
      {behind : List Char} (hscan : Scan s text parts s' (gap ++ c :: behind)) (hgap : Blank gap)
      (hnone : ∀ piece, Piece piece → ¬ piece <+: c :: behind) :
      Ending s last text (.error (.character c (c :: behind)))

/-- A token in front of a text is cut off first. -/
theorem Ending.cons {s next : State} {last gap text behind : List Char} {t : Token}
    {result : Except Refusal File} (hg : Blank gap)
    (hl : lexeme s.place.context text = some (t, behind)) (hs : s.step t = some next)
    (h : Ending next text behind result) : Ending s last (gap ++ text) result := by
  have htext := eq_append_of_lexeme hl
  cases h with
  | file hscan hrest hfinish => exact .file (.cons hg hl hs hscan) hrest hfinish
  | empty hrest hfinish =>
    have hscan : Scan s (gap ++ text) ([] ++ [(gap, t)]) next behind := .cons hg hl hs (.nil ..)
    exact .early hscan hrest hfinish rfl
  | @early parts gap' t' last' _ rest hscan hrest hfinish hstart =>
    have hfirst : Scan s (gap ++ text) ((gap, t) :: parts ++ [(gap', t')]) last' rest :=
      .cons hg hl hs hscan
    refine .early hfirst hrest hfinish ?_
    rw [htext, hstart, written, written, List.flatMap_cons]
    simp only [List.append_assoc]
  | token hscan hgap hstep => exact .token (.cons hg hl hs hscan) hgap hstep
  | character hscan hgap hnone => exact .character (.cons hg hl hs hscan) hgap hnone

/-- Every text is read or refused behind a scan. -/
theorem ending_readFrom (s : State) (last text : List Char) :
    Ending s last text (readFrom s last text) := by
  fun_induction readFrom s last text with
  | case1 s last text hskip f hf => exact .file (.nil s text) (trailing_of_skipBlank hskip) hf
  | case2 s last text hskip hf => exact .empty (trailing_of_skipBlank hskip) hf
  | case3 s last text c rest hskip t behind hlex next hstep ih =>
    obtain ⟨gap, hg, -, -, rfl⟩ := blank_of_skipBlank hskip
    exact ih.cons hg hlex hstep
  | case4 s last text c rest hskip t behind hlex hstep =>
    obtain ⟨gap, hg, -, -, rfl⟩ := blank_of_skipBlank hskip
    rw [eq_append_of_lexeme hlex]
    exact .token (.nil s _) hg hstep
  | case5 s last text c rest hskip hlex t behind he =>
    obtain ⟨gap, hg, -, -, rfl⟩ := blank_of_skipBlank hskip
    have hstep := State.step_eq_none hlex he
    rw [eq_append_of_lexeme he]
    exact .token (.nil s _) hg hstep
  | case6 s last text c rest hskip hlex he =>
    obtain ⟨gap, hg, hw, hh, rfl⟩ := blank_of_skipBlank hskip
    exact .character (.nil s _) hg fun piece hp => not_prefix_of_everything hw hh he hp

/-- Exactly the texts with a complete scan are read. -/
theorem readFile_eq_ok_iff {text : List Char} {f : File} :
    readFile text = .ok f ↔ ∃ parts s rest, Scan .start text parts s rest ∧ Trailing rest ∧
      s.finish = some f := by
  constructor
  · intro h
    have hend := ending_readFrom .start text text
    rw [show readFrom .start text text = .ok f from h] at hend
    cases hend with
    | @file parts s rest _ hscan hrest hfinish => exact ⟨parts, s, rest, hscan, hrest, hfinish⟩
  · rintro ⟨parts, s, rest, hscan, hrest, hfinish⟩
    obtain ⟨start, he⟩ := hscan.readFrom text
    rw [readFile, he]
    exact readFrom_blank hrest.skipBlank hfinish

/-- A text that is read is parsed as its file means. -/
theorem parse_of_ok {text : String} {f : File} (h : readFile text.toList = .ok f) :
    parse text = (meaning f).mapError .invalid := by
  simp only [parse, parseChars, h]
  cases meaning f <;> rfl

/-- A text that is refused has an error where it is refused. -/
theorem parse_of_error {text : String} {refusal : Refusal}
    (h : readFile text.toList = .error refusal) :
    parse text = .error (refusal.located text.toList) := by
  rw [parse, parseChars, h]

end KeyedAccess.Schema
