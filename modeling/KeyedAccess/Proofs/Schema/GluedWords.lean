import KeyedAccess.Proofs.Schema.Concatenation
import KeyedAccess.Proofs.Schema.Layout

/-!
# Glued keywords

Where a name may stand, a keyword is a whole word. Where none may, it is taken as soon as its
letters are there, even if more letters follow: so it is at the beginning of a statement and in an
accessor block. A namespace of several names shares its place with a dotted type, so behind one, if
its semicolon is left out, keywords are whole words.
-/

namespace KeyedAccess.Schema

open Text

/-- Letters, digits or underscores follow directly. -/
def Glued (behind : List Char) : Prop := ∃ c ∈ behind.head?, isAsciiNameChar c = true

/-- How a text goes on behind a token: with a word, a mark or a blank. -/
def GoesOn (behind : List Char) : Prop :=
  ∀ c ∈ behind.head?, isAsciiNameStart c = true ∨ (∃ m, c = Mark.char m) ∨ isWhite c = true ∨
  c = '#'

/-- A keyword behind a text is taken as soon as its letters are there: it is one of an accessor
block, or it begins a statement behind a complete file that does not end with a namespace of several
names without its semicolon. -/
inductive Bare (front : List Char) : Word → Prop where
  /-- A keyword of an accessor block. -/
  | accessor (a : AccessorKind) : Bare front (.accessor a)
  /-- A keyword at the beginning of a statement. -/
  | statement {w : Word} {f : File} (hw : w ∈ statementWords) (hread : readFile front = .ok f)
      (hplain : ∀ p, f.getLast? = some (.scope p false) → p.tail = []) : Bare front w

/-! ## Places without names -/

/-- The keywords of a place where no name may stand are those of statements or of accessors. -/
theorem Place.bare_cases {place : Place} (hn : place.context.names = false) {w : Word}
    (hw : w ∈ place.context.words) :
    (∃ a, w = .accessor a) ∨ w ∈ statementWords ∧
      (place = .between [] ∨ ∃ p, place = .scopeName p ∧ p.tail = []) := by
  have haccessor : ∀ w ∈ Word.accessors, ∃ a, w = .accessor a := by
    intro w hw
    simp only [Word.accessors, List.mem_cons, List.not_mem_nil, or_false] at hw
    rcases hw with rfl | rfl | rfl <;> exact ⟨_, rfl⟩
  cases place with
  | between ms =>
    cases ms with
    | nil => exact .inr ⟨hw, .inl rfl⟩
    | cons m ms => cases hn
  | scopeName p =>
    obtain ⟨head, tail⟩ := p
    cases tail with
    | nil => exact .inr ⟨hw, .inr ⟨_, rfl, rfl⟩⟩
    | cons n tail => cases hn
  | block | accessor => exact .inl (haccessor w hw)
  | parametersOpen owner => cases owner <;> cases hn
  | typing slot frames spot =>
    cases spot with
    | path p => obtain ⟨head, _ | ⟨n, tail⟩⟩ := p <;> cases hn
    | rank => cases hw
    | _ => cases hn
  | body b ms => cases ms <;> cases hn
  | _ => first | cases hn; done | cases hw

/-- Where the keyword of an accessor may stand, no name may. -/
theorem Place.names_of_accessor {place : Place} {a : AccessorKind}
    (hw : .accessor a ∈ place.context.words) : place.context.names = false := by
  have hnone : ∀ words ∈ [[], [.cls, .struct], memberWords, modifiedWords, statementWords,
      afterDottedName.words], Word.accessor a ∉ words := by
    cases a <;> decide
  have hout : ∀ {words}, Word.accessor a ∈ words → words ∈ [[], [.cls, .struct], memberWords,
      modifiedWords, statementWords, afterDottedName.words] → False :=
    fun hin hwords => hnone _ hwords hin
  cases place with
  | block | accessor => rfl
  | between ms => cases ms <;> exact (hout hw (by simp [Place.context])).elim
  | scopeName p =>
    obtain ⟨head, _ | ⟨n, tail⟩⟩ := p <;> exact (hout hw (by simp [Place.context])).elim
  | parametersOpen owner => cases owner <;> exact (hout hw (by simp [Place.context, onlyName])).elim
  | typing slot frames spot =>
    cases spot with
    | path p =>
      obtain ⟨head, _ | ⟨n, tail⟩⟩ := p <;>
        exact (hout hw (by simp [Place.context, Spot.context])).elim
    | _ => exact (hout hw (by simp [Place.context, Spot.context, onlyName, onlyMarks])).elim
  | body b ms => cases ms <;> exact (hout hw (by simp [Place.context])).elim
  | _ => exact (hout hw (by simp [Place.context, onlyName, onlyMarks])).elim

/-! ## Scans -/

/-- A token begins with a letter or an underscore, or it is a mark. -/
theorem Token.Legible.head {t : Token} (h : t.Legible) : ∃ c letters, t.text.toList = c :: letters ∧
    (isAsciiNameStart c = true ∨ ∃ m, t = .mark m ∧ c = m.char) := by
  have hname : ∀ {text : String}, IsName text → ∃ c letters, text.toList = c :: letters ∧
      (isAsciiNameStart c = true ∨ ∃ m, t = .mark m ∧ c = m.char) :=
    fun ⟨c, letters, he, hc, _⟩ => ⟨c, letters, he, .inl hc⟩
  cases t with
  | name text => exact hname h
  | word w => exact hname w.isName
  | mark m => exact ⟨m.char, [], String.toList_singleton _, .inr ⟨m, rfl, rfl⟩⟩

section

variable {s mid last : State} {text behind rest : List Char} {parts : List (List Char × Token)}

/-- The tokens of a scan are cut off in the same way in front of any text that goes on as the text
behind them did, or with no word. -/
theorem Scan.ahead (h : Scan s text parts last rest) {other : List Char}
    (ho : ∀ c ∈ other.head?, isAsciiNameChar c = false ∨ rest.head? = some c) :
    Scan s (written parts ++ other) parts last other := by
  induction h with
  | nil s text => exact .nil s other
  | @cons s next last gap text behind rest t parts hg hl hs h ih =>
    have hhead : ∀ c ∈ (written parts ++ other).head?,
        isAsciiNameChar c = false ∨ behind.head? = some c := by
      intro c hc
      rw [h.eq_written]
      cases hw : written parts with
      | nil =>
        rw [hw] at hc
        exact ho c hc
      | cons d letters =>
        rw [hw] at hc
        exact .inr hc
    have hl' := eq_append_of_lexeme hl ▸ hl
    rw [written_cons, List.append_assoc, List.append_assoc]
    exact .cons hg (lexeme_behind hl' fun _ => hhead) hs (ih ho)

/-- Behind a text that is scanned, a file is complete exactly if the text is read as it. -/
theorem Scan.finish_eq_some_iff (h : Scan .start text parts mid behind) {f : File} :
    readFile (written parts) = .ok f ↔ mid.finish = some f := by
  have halone : Scan .start (written parts) parts mid [] := by
    have hend : Scan .start (written parts ++ []) parts mid [] := h.ahead fun c hc => nomatch hc
    rwa [List.append_nil] at hend
  rw [readFile_eq_ok_iff]
  constructor
  · rintro ⟨parts', mid', rest, hscan, hrest, hfinish⟩
    obtain ⟨rfl, -⟩ := hscan.unique hrest halone (.blank .nil)
    cases hscan.run.symm.trans halone.run
    exact hfinish
  · exact fun hfinish => ⟨parts, mid, [], halone, .blank .nil, hfinish⟩

/-- A text that is scanned to its end goes on with a token or with a blank. -/
theorem Scan.goesOn (h : Scan s text parts last rest) (hr : Trailing rest) : GoesOn text := by
  have hblank : ∀ {gap behind : List Char}, Blank gap → GoesOn behind → GoesOn (gap ++ behind) := by
    intro gap behind hg hb
    cases hg with
    | nil => exact hb
    | white hc =>
      intro d hd
      cases hd
      exact .inr (.inr (.inl hc))
    | comment =>
      intro d hd
      cases hd
      exact .inr (.inr (.inr rfl))
  have hcomment : ∀ body : List Char, GoesOn ('#' :: body) := by
    intro body d hd
    cases hd
    exact .inr (.inr (.inr rfl))
  cases h with
  | nil =>
    cases hr with
    | blank hg =>
      rw [← List.append_nil text]
      exact hblank hg fun d hd => nomatch hd
    | comment hg => exact hblank hg (hcomment _)
  | @cons _ _ _ gap text behind _ t _ hg hl =>
    obtain ⟨c, letters, he, hc⟩ := Token.Legible.head (legible_of_lexeme hl)
    refine hblank hg fun d hd => ?_
    rw [eq_append_of_lexeme hl, he] at hd
    cases hd
    rcases hc with hc | ⟨m, -, rfl⟩
    · exact .inl hc
    · exact .inr (.inl ⟨m, rfl⟩)

/-- If letters follow a keyword directly, it is one that is taken as soon as its letters are
there. -/
theorem Scan.bare_of_glued (h : Scan .start text parts mid behind) {w : Word}
    {rest after : List Char} (hl : lexeme mid.place.context rest = some (.word w, after))
    (hw : w ∈ mid.place.context.words) (hglued : Glued after) : Bare (written parts) w := by
  have hnames : mid.place.context.names = false := by
    cases hn : mid.place.context.names with
    | false => rfl
    | true =>
      obtain ⟨c, hc, hletter⟩ := hglued
      rw [wordEnds_of_lexeme hn hl (fun _ => Token.noConfusion) c hc] at hletter
      cases hletter
  obtain ⟨items, place⟩ := mid
  rcases Place.bare_cases hnames hw with ⟨a, rfl⟩ | ⟨hstatement, rfl | ⟨p, rfl, hp⟩⟩
  · exact .accessor a
  · have hended := h.ended (fun _ p => by simp [State.start]) rfl
    exact .statement hstatement (h.finish_eq_some_iff.mpr rfl) fun p hp => absurd hp (hended p)
  · refine .statement hstatement (h.finish_eq_some_iff.mpr rfl) fun q hq => ?_
    obtain rfl : p = q := by simpa using hq
    exact hp

/-- Such a keyword stands where no name may. -/
theorem Scan.names_of_bare (h : Scan .start text parts mid behind) {w : Word}
    (hw : w ∈ mid.place.context.words) (hbare : Bare (written parts) w) :
    mid.place.context.names = false := by
  cases hbare with
  | accessor a => exact Place.names_of_accessor hw
  | @statement _ f _ hread hplain =>
    obtain rfl | ⟨items, ⟨head, tail⟩, rfl, rfl⟩ :=
      State.eq_of_finish (h.finish_eq_some_iff.mp hread)
    · rfl
    · obtain rfl : tail = [] := hplain ⟨head, tail⟩ (by simp)
      rfl

/-- Where no name may stand, a keyword is taken also if the next token follows it directly. -/
theorem Scan.glue {gap gap' : List Char} {w : Word} {t : Token}
    (hn : s.place.context.names = false)
    (h : Scan s text ((gap, .word w) :: (gap', t) :: parts) last rest) :
    Scan s (written ((gap, .word w) :: ([], t) :: parts) ++ rest)
      ((gap, .word w) :: ([], t) :: parts) last rest := by
  cases h with
  | cons hg hl hs h =>
    cases h with
    | cons hg' hl' hs' h =>
      have htext := eq_append_of_lexeme hl'
      have hnext := Scan.cons (.nil : Blank []) hl' hs' h
      have hfirst := Scan.cons hg (lexeme_bare hn (State.admits_of_step hs) _) hs hnext
      rw [htext, h.eq_written] at hfirst
      simp only [written_cons, List.append_assoc, List.nil_append]
      exact hfirst

end

/-- What follows a keyword does not change how the text in front of what follows begins. -/
theorem head?_written_word (gap : List Char) (w : Word) (parts others : List (List Char × Token))
    (rest : List Char) : (written ((gap, .word w) :: parts) ++ rest).head? =
      (written ((gap, .word w) :: others) ++ rest).head? := by
  obtain ⟨c, letters, he, -⟩ := w.isName
  rw [written_cons, written_cons, Token.text, he]
  cases gap <;> rfl

/-- A token that is no mark goes on with a keyword in front of it. -/
theorem Token.Legible.glued {t : Token} (ht : t.Legible) (hm : ∀ m, t ≠ .mark m)
    (behind : List Char) : Glued (t.text.toList ++ behind) := by
  obtain ⟨c, letters, he, hc | ⟨m, hmark, -⟩⟩ := ht.head
  · exact ⟨c, by rw [he]; rfl, isAsciiNameChar_of_start hc⟩
  · exact absurd hmark (hm m)

/-- Behind a keyword of a text that is parsed stands a word, a mark or a blank. If it is a word, the
keyword is one of an accessor block or begins a statement, and not behind an open namespace of
several names. All these keywords may be followed so: without the blanks behind one of them, the
text has the same tokens and the same declarations. -/
theorem glued_keywords_of_parse {text : String} {out : List Declaration}
    (h : parse text = .ok out) :
    ∃ parts rest, Tokenized text.toList parts rest ∧
      (∀ parts' rest', Tokenized text.toList parts' rest' → parts' = parts ∧ rest' = rest) ∧
      ∀ front gap w after, parts = front ++ (gap, .word w) :: after →
        GoesOn (written after ++ rest) ∧
        (Glued (written after ++ rest) → Bare (written front) w) ∧
        (Bare (written front) w → ∀ gap' t others, after = (gap', t) :: others →
          (∀ m, t ≠ .mark m) →
          Glued (written (([], t) :: others) ++ rest) ∧
          Tokenized (written (front ++ (gap, .word w) :: ([], t) :: others) ++ rest)
            (front ++ (gap, .word w) :: ([], t) :: others) rest ∧
          parse (String.ofList
            (written (front ++ (gap, .word w) :: ([], t) :: others) ++ rest)) = .ok out) := by
  obtain ⟨f, hread, -⟩ := exists_readFile_of_parse h
  obtain ⟨parts, last, rest, hscan, hrest, hfinish⟩ := readFile_eq_ok_iff.mp hread
  refine ⟨parts, rest, ⟨last, hscan, hrest⟩, fun parts' rest' ⟨last', hscan', hrest'⟩ =>
    hscan'.unique hrest' hscan hrest, ?_⟩
  rintro front gap w after rfl
  obtain ⟨mid, behind, hfront, hword⟩ := hscan.split
  obtain ⟨tail, hl, hw, hgoes⟩ : ∃ tail, lexeme mid.place.context tail =
      some (.word w, written after ++ rest) ∧ w ∈ mid.place.context.words ∧
      GoesOn (written after ++ rest) := by
    cases id hword with
    | cons hg hl hs hafter =>
      rw [← hafter.eq_written]
      exact ⟨_, hl, State.admits_of_step hs, hafter.goesOn hrest⟩
  refine ⟨hgoes, hfront.bare_of_glued hl hw, ?_⟩
  rintro hbare gap' t others rfl hmark
  have hlegible : t.Legible :=
    (hword.legible (gap', t) (List.mem_cons_of_mem _ List.mem_cons_self)).2
  have hsame : ∀ c ∈ (written ((gap, .word w) :: ([], t) :: others) ++ rest).head?,
      isAsciiNameChar c = false ∨ behind.head? = some c := by
    intro c hc
    rw [head?_written_word gap w _ ((gap', t) :: others), ← hword.eq_written] at hc
    exact .inr hc
  have hwhole := (hfront.ahead hsame).trans (hword.glue (hfront.names_of_bare hw hbare))
  rw [← List.append_assoc, ← written_append] at hwhole
  have hglued : readFile (written (front ++ (gap, .word w) :: ([], t) :: others) ++ rest) = .ok f :=
    readFile_eq_ok_iff.mpr ⟨_, last, rest, hwhole, hrest, hfinish⟩
  refine ⟨?_, ⟨last, hwhole, hrest⟩, ?_⟩
  · rw [written_cons, List.nil_append, List.append_assoc]
    exact hlegible.glued hmark _
  · rw [parse_of_ok (f := f) (by rw [String.toList_ofList]; exact hglued), ← parse_of_ok hread, h]

/-- Two accessors without a blank between them are the same as with one, and the first is a keyword
that letters follow. -/
theorem parse_gluedAccessors : ∃ out,
    parse "class A \x7b X: int \x7b get set \x7d \x7d" = .ok out ∧
    parse "class A \x7b X: int \x7b getset \x7d \x7d" = .ok out ∧
    ∃ front gap after rest, Tokenized "class A \x7b X: int \x7b getset \x7d \x7d".toList
        (front ++ (gap, .word (.accessor .get)) :: after) rest ∧ Glued (written after ++ rest) := by
  have hread : readFile "class A \x7b X: int \x7b get set \x7d \x7d".toList =
      .ok [.type ⟨⟨[], .cls, "A"⟩, none, [],
        [⟨[], .property "X" ⟨⟨"int", []⟩, [], [], false⟩ [⟨.get, false⟩, ⟨.set, false⟩]⟩]⟩] := by
    rw [readFile]
    repeat rw [readFrom_token rfl rfl rfl]
    exact readFrom_blank rfl rfl
  have hblank : Blank [' '] := .white rfl .nil
  have hcut : Tokenized "class A \x7b X: int \x7b get set \x7d \x7d".toList
      [([], .word .cls), ([' '], .name "A"), ([' '], .mark .lbrace), ([' '], .name "X"),
        ([], .mark .colon), ([' '], .name "int"), ([' '], .mark .lbrace),
        ([' '], .word (.accessor .get)), ([' '], .word (.accessor .set)), ([' '], .mark .rbrace),
        ([' '], .mark .rbrace)] [] :=
    ⟨_, .cons .nil rfl rfl (.cons hblank rfl rfl (.cons hblank rfl rfl (.cons hblank rfl rfl
      (.cons .nil rfl rfl (.cons hblank rfl rfl (.cons hblank rfl rfl (.cons hblank rfl rfl
      (.cons hblank rfl rfl (.cons hblank rfl rfl (.cons hblank rfl rfl (.nil _ _))))))))))),
      .blank .nil⟩
  have hparse := parse_of_ok hread
  obtain ⟨parts, rest, -, hunique, hglue⟩ := glued_keywords_of_parse hparse
  obtain ⟨rfl, rfl⟩ := hunique _ _ hcut
  obtain ⟨-, -, hget⟩ := hglue
    [([], .word .cls), ([' '], .name "A"), ([' '], .mark .lbrace), ([' '], .name "X"),
      ([], .mark .colon), ([' '], .name "int"), ([' '], .mark .lbrace)] _ _ _ rfl
  obtain ⟨hglued, htokens, hsame⟩ := hget (.accessor .get) _ _ _ rfl fun _ => Token.noConfusion
  exact ⟨_, hparse, hsame, _, _, _, _, htokens, hglued⟩

end KeyedAccess.Schema
