import KeyedAccess.Proofs.Schema.Scanning

/-!
# Layout

Which blanks stand between the tokens of a text does not matter. Where no name may stand, a keyword
is cut off as soon as its letters are there, so two tokens may be written without a blank between
them; when blanks are put there, both are cut off as before. So the reader takes the same tokens and
comes to the same file.
-/

namespace KeyedAccess.Schema

open Text

/-! ## A token in front of another text -/

/-- Where a name may stand, a token that is no mark goes on as far as its word does. -/
theorem wordEnds_of_lexeme {context : Context} (hn : context.names = true) {text behind : List Char}
    {t : Token} (h : lexeme context text = some (t, behind)) (ht : ∀ m, t ≠ .mark m) :
    ∀ c ∈ behind.head?, isAsciiNameChar c = false := by
  cases text with
  | nil => cases h
  | cons first rest =>
    simp only [lexeme, hn, if_true] at h
    split at h
    · split at h
      · cases h
        exact absurd rfl (ht _)
      · cases h
    · split at h
      · cases h
        intro c hc
        have hnot := List.head?_dropWhile_not isAsciiNameChar rest
        rw [Option.mem_def.mp hc] at hnot
        exact hnot
      · cases h

/-- Names are cut off only where they may stand. -/
theorem names_of_lexeme {context : Context} {text behind : List Char} {name : String}
    (h : lexeme context text = some (.name name, behind)) : context.names = true := by
  obtain ⟨c, letters, he, hc, -⟩ : IsName name := legible_of_lexeme h
  rw [eq_append_of_lexeme h, Token.text, he, List.cons_append, lexeme,
    Mark.ofChar?_nameStart hc] at h
  cases hn : context.names with
  | true => rfl
  | false =>
    simp only [hn, Bool.false_eq_true, if_false] at h
    obtain ⟨w, -, hw⟩ := List.exists_of_findSome?_eq_some h
    obtain ⟨rest, -, hword⟩ := Option.map_eq_some_iff.mp hw
    cases hword

/-- A mark that may stand at a place is cut off there, whatever follows. -/
theorem lexeme_mark {context : Context} {m : Mark} (h : m ∈ context.marks) (behind : List Char) :
    lexeme context ((Token.mark m).text.toList ++ behind) = some (.mark m, behind) := by
  rw [Token.text, String.toList_singleton, List.singleton_append, lexeme, Mark.ofChar?_char]
  simp only [List.contains_iff_mem.mpr h, if_true]

/-- A token is cut off in front of any text that goes on as the text behind it did, or with no word.
Behind a mark any text may follow. -/
theorem lexeme_behind {context : Context} {t : Token} {behind other : List Char}
    (h : lexeme context (t.text.toList ++ behind) = some (t, behind))
    (ho : (∀ m, t ≠ .mark m) →
      ∀ c ∈ other.head?, isAsciiNameChar c = false ∨ behind.head? = some c) :
    lexeme context (t.text.toList ++ other) = some (t, other) := by
  have hword : ∀ {text : String}, IsName text → t.text = text → (∀ m, t ≠ .mark m) →
      context.names = true → lexeme context (t.text.toList ++ other) = some (t, other) := by
    rintro text hname rfl hmark hn
    have hends := wordEnds_of_lexeme hn h hmark
    have hother : ∀ c ∈ other.head?, isAsciiNameChar c = false := fun c hc =>
      (ho hmark c hc).elim id (hends c)
    obtain ⟨hclass, -⟩ := Prod.mk.inj
      (Option.some.inj ((lexeme_nameChars hn hname hends).symm.trans h))
    rw [lexeme_nameChars hn hname hother, hclass]
  cases t with
  | mark m =>
    rw [Token.text, String.toList_singleton, List.singleton_append, lexeme,
      Mark.ofChar?_char] at h ⊢
    simp only at h ⊢
    split at h
    · next hm => rw [if_pos hm]
    · cases h
  | name text =>
    exact hword (legible_of_lexeme h) rfl (fun _ => Token.noConfusion) (names_of_lexeme h)
  | word w =>
    cases hn : context.names with
    | true => exact hword w.isName rfl (fun _ => Token.noConfusion) hn
    | false =>
      obtain ⟨c, letters, he, hc, -⟩ := w.isName
      have hin : w ∈ context.words := by
        rw [Token.text, he, List.cons_append, lexeme, Mark.ofChar?_nameStart hc] at h
        simp only [hn, Bool.false_eq_true, if_false] at h
        obtain ⟨a, ha, hf⟩ := List.exists_of_findSome?_eq_some h
        obtain ⟨rest, -, hword⟩ := Option.map_eq_some_iff.mp hf
        cases hword
        exact ha
      exact lexeme_bare hn hin other

/-! ## Other blanks -/

/-- The same tokens with other blanks in front of them; no token loses all of its blanks. -/
inductive Respaced : List (List Char × Token) → List (List Char × Token) → Prop where
  /-- No tokens. -/
  | nil : Respaced [] []
  /-- A token with other blanks in front of it. -/
  | cons {gap other : List Char} {t : Token} {parts others : List (List Char × Token)}
      (hb : Blank other) (hn : gap ≠ [] → other ≠ []) (h : Respaced parts others) :
      Respaced ((gap, t) :: parts) ((other, t) :: others)

/-- Blanks at the end of a text begin with a character that is part of no word. -/
theorem Trailing.head_not_nameChar {rest : List Char} (h : Trailing rest) :
    ∀ c ∈ rest.head?, isAsciiNameChar c = false := by
  cases h with
  | blank h => exact h.head_not_nameChar
  | @comment gap body h hb =>
    cases gap with
    | nil =>
      intro c hc
      cases hc
      decide
    | cons d gap => exact h.head_not_nameChar

/-- Behind a token the text goes on as before or with a blank. -/
theorem Respaced.head {parts others : List (List Char × Token)} (h : Respaced parts others)
    {rest rest' : List Char} (hr : Trailing rest') (hl : ∀ part ∈ parts, part.2.Legible) :
    ∀ c ∈ (written others ++ rest').head?,
      isAsciiNameChar c = false ∨ (written parts ++ rest).head? = some c := by
  cases h with
  | nil => exact fun c hc => .inl (hr.head_not_nameChar c hc)
  | @cons gap other t parts others hb hn h =>
    intro c hc
    simp only [written, List.flatMap_cons, List.append_assoc] at hc ⊢
    cases other with
    | cons d other => exact .inl (hb.head_not_nameChar c hc)
    | nil =>
      obtain rfl : gap = [] := Classical.byContradiction fun hg => hn hg rfl
      have hname : ∀ text, t = .name text → IsName text := by
        rintro text rfl
        exact hl _ List.mem_cons_self
      obtain ⟨first, letters, ht, -, -⟩ := Token.head hname
      rw [ht] at hc ⊢
      exact .inr hc

section

variable {s last : State} {text rest : List Char} {parts : List (List Char × Token)}

/-- With other blanks the same tokens are cut off and taken. -/
theorem Scan.respace (h : Scan s text parts last rest) {others : List (List Char × Token)}
    (hsame : Respaced parts others) {rest' : List Char} (hr : Trailing rest') :
    Scan s (written others ++ rest') others last rest' := by
  induction h generalizing others with
  | nil s text =>
    cases hsame
    exact .nil s rest'
  | @cons s next last gap text behind rest t parts hg hl hs h ih =>
    cases hsame with
    | @cons _ other _ _ others hb hn hsame =>
      have hcut := eq_append_of_lexeme hl
      have hhead : ∀ c ∈ (written others ++ rest').head?,
          isAsciiNameChar c = false ∨ (written parts ++ rest).head? = some c :=
        hsame.head hr fun part hp => (h.legible part hp).2
      rw [← h.eq_written] at hhead
      subst hcut
      have htext : written ((other, t) :: others) ++ rest' =
          other ++ (t.text.toList ++ (written others ++ rest')) := by
        simp only [written, List.flatMap_cons, List.append_assoc]
      rw [htext]
      exact .cons hb (lexeme_behind hl fun _ => hhead) hs (ih hsame)

end

/-! ## The tokens of a text -/

/-- A whole text is cut into tokens, each with the blanks in front of it, and the blanks at its
end. -/
def Tokenized (text : List Char) (parts : List (List Char × Token)) (rest : List Char) : Prop :=
  ∃ s, Scan .start text parts s rest ∧ Trailing rest

/-- Two scans of a text to its end are the same. -/
theorem Scan.unique {s last last' : State} {text rest rest' : List Char}
    {parts parts' : List (List Char × Token)} (h : Scan s text parts last rest) (hr : Trailing rest)
    (h' : Scan s text parts' last' rest') (hr' : Trailing rest') :
    parts = parts' ∧ rest = rest' := by
  have hblank : ∀ {s : State} {gap text behind : List Char} {t : Token}, Blank gap →
      lexeme s.place.context text = some (t, behind) → skipBlank false (gap ++ text) = text := by
    intro s gap text behind t hg hl
    obtain ⟨c, letters, rfl, hw, hh⟩ := head_of_lexeme hl
    rw [skipBlank_append hg, skipBlank_cons hw hh]
  have hrest : ∀ {s : State} {gap text behind : List Char} {t : Token}, Blank gap →
      lexeme s.place.context text = some (t, behind) → ¬ Trailing (gap ++ text) := by
    intro s gap text behind t hg hl ht
    obtain ⟨c, letters, rfl, -, -⟩ := head_of_lexeme hl
    have hskip := hblank hg hl
    rw [ht.skipBlank] at hskip
    cases hskip
  induction h generalizing parts' with
  | nil s text =>
    cases h' with
    | nil => exact ⟨rfl, rfl⟩
    | cons hg hl => exact absurd hr (hrest hg hl)
  | @cons s next last gap text behind rest t parts hg hl hs h ih =>
    generalize hwhole : gap ++ text = whole at h'
    cases h' with
    | nil => exact absurd (hwhole ▸ hr') (hrest hg hl)
    | @cons _ next' _ gap' text' behind' _ t' parts' hg' hl' hs' h' =>
      have htext : text = text' := by
        rw [← hblank hg hl, hwhole, hblank hg' hl']
      subst htext
      obtain rfl := List.append_cancel_right hwhole
      cases hl.symm.trans hl'
      cases hs.symm.trans hs'
      obtain ⟨rfl, rfl⟩ := ih hr h'
      exact ⟨rfl, rfl⟩

/-- A position directly in front of a token of a text or directly behind one, as the text in front
of it and the text behind it. -/
inductive Beside (parts : List (List Char × Token)) (rest : List Char) :
    List Char → List Char → Prop where
  /-- In front of a token. -/
  | before {front after : List (List Char × Token)} {gap : List Char} {t : Token}
      (h : parts = front ++ (gap, t) :: after) :
      Beside parts rest (written front ++ gap) (t.text.toList ++ (written after ++ rest))
  /-- Behind a token. -/
  | behind {front after : List (List Char × Token)} {gap : List Char} {t : Token}
      (h : parts = front ++ (gap, t) :: after) :
      Beside parts rest (written front ++ (gap ++ t.text.toList)) (written after ++ rest)

/-- Tokens with the blanks that they have. -/
theorem respaced_self {parts : List (List Char × Token)} (h : ∀ part ∈ parts, Blank part.1) :
    Respaced parts parts := by
  induction parts with
  | nil => exact .nil
  | cons part parts ih =>
    exact .cons (h part List.mem_cons_self) id (ih fun p hp => h p (List.mem_cons_of_mem _ hp))

private theorem respaced_append {front after : List (List Char × Token)} {gap other : List Char}
    {t : Token} (h : ∀ part ∈ front ++ (gap, t) :: after, Blank part.1) (hb : Blank other)
    (hn : gap ≠ [] → other ≠ []) :
    Respaced (front ++ (gap, t) :: after) (front ++ (other, t) :: after) := by
  induction front with
  | nil => exact .cons hb hn (respaced_self fun p hp => h p (List.mem_cons_of_mem _ hp))
  | cons part front ih =>
    exact .cons (h part List.mem_cons_self) id (ih fun p hp => h p (List.mem_cons_of_mem _ hp))

@[simp] private theorem written_nil : written [] = [] := rfl

/-- Written tokens one behind the other. -/
@[simp] theorem written_append (parts others : List (List Char × Token)) :
    written (parts ++ others) = written parts ++ written others := List.flatMap_append

/-- A written token and those behind it. -/
@[simp] theorem written_cons (gap : List Char) (t : Token) (parts : List (List Char × Token)) :
    written ((gap, t) :: parts) = gap ++ (t.text.toList ++ written parts) := by
  rw [written, List.flatMap_cons, List.append_assoc]
  rfl

/-- The text in front of such a position and the text behind it make up the whole text. -/
theorem Beside.append_eq {parts : List (List Char × Token)} {rest front behind : List Char}
    (h : Beside parts rest front behind) : front ++ behind = written parts ++ rest := by
  cases h with
  | before h | behind h =>
    subst h
    simp only [written_append, written_cons, List.append_assoc]

/-- With blanks beside a token, a text is the same tokens with other blanks. -/
theorem Beside.respaced {parts : List (List Char × Token)} {rest front behind gap : List Char}
    (h : Beside parts rest front behind) (hp : ∀ part ∈ parts, Blank part.1) (hr : Trailing rest)
    (hg : Blank gap) : ∃ others rest', Respaced parts others ∧ Trailing rest' ∧
      front ++ gap ++ behind = written others ++ rest' := by
  cases h with
  | @before front after old t h =>
    subst h
    have hold : Blank old := hp (old, t) (List.mem_append_right _ List.mem_cons_self)
    refine ⟨front ++ (old ++ gap, t) :: after, rest,
      respaced_append hp (hold.append hg) (List.append_ne_nil_of_left_ne_nil · gap), hr, ?_⟩
    simp only [written_append, written_cons, List.append_assoc]
  | @behind front after old t h =>
    subst h
    cases after with
    | nil =>
      refine ⟨_, gap ++ rest, respaced_self hp, hr.append hg, ?_⟩
      simp only [written_append, written_cons, written_nil, List.append_assoc, List.nil_append]
    | cons next after =>
      obtain ⟨old', t'⟩ := next
      have hlist : front ++ (old, t) :: (old', t') :: after =
          (front ++ [(old, t)]) ++ (old', t') :: after := by simp
      rw [hlist] at hp ⊢
      have hold : Blank old' := hp (old', t') (List.mem_append_right _ List.mem_cons_self)
      refine ⟨(front ++ [(old, t)]) ++ (gap ++ old', t') :: after, rest,
        respaced_append hp (hg.append hold) (List.append_ne_nil_of_right_ne_nil gap), hr, ?_⟩
      simp only [written_append, written_cons, written_nil, List.append_assoc, List.nil_append]

/-! ## Blanks beside a token -/

section

variable {text : List Char} {f : File}

/-- A text that is read is cut into tokens. -/
theorem exists_tokenized (h : readFile text = .ok f) : ∃ parts rest, Tokenized text parts rest := by
  obtain ⟨parts, s, rest, hscan, hrest, -⟩ := readFile_eq_ok_iff.mp h
  exact ⟨parts, rest, s, hscan, hrest⟩

/-- The tokens that a text is cut into are those of the file that it is read as. -/
theorem Tokenized.map_snd {parts : List (List Char × Token)} {rest : List Char}
    (hc : Tokenized text parts rest) (h : readFile text = .ok f) :
    parts.map Prod.snd = tokensOfFile f := by
  obtain ⟨s, hscan, hrest⟩ := hc
  obtain ⟨parts', s', rest', hscan', hrest', hfinish⟩ := readFile_eq_ok_iff.mp h
  obtain ⟨rfl, -⟩ := hscan.unique hrest hscan' hrest'
  refine (tokensOfFile_of_reads ?_).symm
  rw [State.reads, hscan'.run]
  exact hfinish

/-- The tokens of a text, written with other blanks, are cut off again and read as the same file. -/
theorem readFile_respace (h : readFile text = .ok f) {parts others : List (List Char × Token)}
    {rest rest' : List Char} (hc : Tokenized text parts rest) (hs : Respaced parts others)
    (hr : Trailing rest') : Tokenized (written others ++ rest') others rest' ∧
      readFile (written others ++ rest') = .ok f := by
  obtain ⟨parts', last, rest₀, hscan, hrest, hfinish⟩ := readFile_eq_ok_iff.mp h
  obtain ⟨last', hscan', hrest'⟩ := hc
  obtain ⟨rfl, rfl⟩ := hscan.unique hrest hscan' hrest'
  have hnew := hscan.respace hs hr
  exact ⟨⟨last, hnew, hr⟩, readFile_eq_ok_iff.mpr ⟨others, last, rest', hnew, hr, hfinish⟩⟩

end

/-- Other blanks in front of tokens leave the tokens as they are. -/
theorem Respaced.map_snd {parts others : List (List Char × Token)} (h : Respaced parts others) :
    others.map Prod.snd = parts.map Prod.snd := by
  induction h with
  | nil => rfl
  | cons _ _ _ ih => rw [List.map_cons, List.map_cons, ih]

/-- A text without errors of syntax is cut into tokens in exactly one way, and blanks that are put
directly in front of a token or directly behind one change neither the tokens nor the outcome. -/
theorem parse_insert_blank {text : String}
    (h : (∃ out, parse text = .ok out) ∨ ∃ e, parse text = .error (.invalid e)) :
    ∃ parts rest, Tokenized text.toList parts rest ∧
      (∀ parts' rest', Tokenized text.toList parts' rest' → parts' = parts ∧ rest' = rest) ∧
      ∀ front behind gap, Beside parts rest front behind → Blank gap →
        front ++ behind = text.toList ∧
        parse (String.ofList (front ++ gap ++ behind)) = parse text ∧
        ∃ others rest', Tokenized (front ++ gap ++ behind) others rest' ∧
          others.map Prod.snd = parts.map Prod.snd := by
  obtain ⟨f, hf⟩ : ∃ f, readFile text.toList = .ok f := by
    cases hr : readFile text.toList with
    | ok f => exact ⟨f, rfl⟩
    | error refusal =>
      have he := parse_of_error hr
      rcases h with ⟨out, ho⟩ | ⟨e, hi⟩
      · cases he.symm.trans ho
      · cases refusal <;> cases he.symm.trans hi
  obtain ⟨parts, rest, hcut⟩ := exists_tokenized hf
  obtain ⟨last, hscan, hrest⟩ := id hcut
  refine ⟨parts, rest, hcut, fun parts' rest' hcut' => ?_, fun front behind gap hb hg => ?_⟩
  · obtain ⟨last', hscan', hrest'⟩ := hcut'
    exact hscan'.unique hrest' hscan hrest
  · obtain ⟨others, rest', hsame, hr, he⟩ :=
      hb.respaced (fun part hp => (hscan.legible part hp).1) hrest hg
    obtain ⟨hnew, hread⟩ := readFile_respace hf hcut hsame hr
    rw [he]
    have hparse : parse (String.ofList (written others ++ rest')) = parse text := by
      rw [parse_of_ok hf, parse_of_ok (f := f) (by rw [String.toList_ofList]; exact hread)]
    exact ⟨hb.append_eq.trans hscan.eq_written.symm, hparse, others, rest', hnew, hsame.map_snd⟩

/-- A class whose keyword and name are written without a blank is the same class when a comment
stands between them. -/
theorem parse_insert_gluedClass :
    parse (String.ofList ("class".toList ++ "#x\n".toList ++ "Foo\x7b\x7d".toList)) =
      parse "classFoo\x7b\x7d" := by
  have hread : readFile "classFoo\x7b\x7d".toList =
      .ok [.type ⟨⟨[], .cls, "Foo"⟩, none, [], []⟩] := by
    rw [readFile, readFrom_token rfl rfl rfl, readFrom_token rfl rfl rfl,
      readFrom_token rfl rfl rfl, readFrom_token rfl rfl rfl]
    exact readFrom_blank rfl rfl
  have hcut : Tokenized "classFoo\x7b\x7d".toList
      [([], .word .cls), ([], .name "Foo"), ([], .mark .lbrace), ([], .mark .rbrace)] [] :=
    ⟨_, .cons .nil rfl rfl (.cons .nil rfl rfl (.cons .nil rfl rfl (.cons .nil rfl rfl
      (.nil _ _)))), .blank .nil⟩
  have hparse : ∃ out, parse "classFoo\x7b\x7d" = .ok out := ⟨_, parse_of_ok hread⟩
  obtain ⟨parts, rest, -, hunique, hinsert⟩ := parse_insert_blank (.inl hparse)
  obtain ⟨rfl, rfl⟩ := hunique _ _ hcut
  have hfirst : ([([], .word .cls), ([], .name "Foo"), ([], .mark .lbrace), ([], .mark .rbrace)] :
      List (List Char × Token)) = [] ++ ([], Token.word .cls) ::
        [([], Token.name "Foo"), ([], .mark .lbrace), ([], .mark .rbrace)] := rfl
  have hgap : Blank ('#' :: (['x'] ++ '\n' :: [])) := .comment (by decide) .nil
  exact (hinsert _ _ _ (.behind hfirst) hgap).2.1

end KeyedAccess.Schema
