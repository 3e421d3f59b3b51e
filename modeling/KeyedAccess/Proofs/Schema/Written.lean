import KeyedAccess.Proofs.Schema.Admission
import KeyedAccess.Schema.Parse

/-!
# Written tokens

A sequence of tokens is written by putting blanks between them. The lexer cuts such a text into the
same tokens again as long as the reader takes them, because every token that the reader takes is
admitted by its context, no keyword begins another one, and no name is a keyword.
-/

namespace KeyedAccess.Text

/-- What begins a word may also continue it. -/
theorem isAsciiNameChar_of_start {c : Char} (h : isAsciiNameStart c = true) :
    isAsciiNameChar c = true := by
  simp only [isAsciiNameStart, isAsciiNameChar, Char.isAlphanum, Bool.or_eq_true] at h ⊢
  exact h.imp Or.inl id

end KeyedAccess.Text

namespace KeyedAccess.Schema

/-- Blanks: white space and comments, each comment with the line feed that ends it. -/
inductive Blank : List Char → Prop where
  /-- Nothing. -/
  | nil : Blank []
  /-- A character of white space in front of more. -/
  | white {c : Char} {rest : List Char} (hc : isWhite c = true) (h : Blank rest) :
    Blank (c :: rest)
  /-- A comment in front of more. -/
  | comment {body rest : List Char} (hb : '\n' ∉ body) (h : Blank rest) :
    Blank ('#' :: (body ++ '\n' :: rest))

/-- A text that can be a name. -/
def IsName (text : String) : Prop :=
  ∃ c rest, text.toList = c :: rest ∧ Text.isAsciiNameStart c = true ∧
    ∀ d ∈ rest, Text.isAsciiNameChar d = true

/-- A token that is what its letters say: a name is written like one and is no keyword. -/
def Token.Proper : Token → Prop
  | .name text => IsName text ∧ ∀ w : Word, w.text ≠ text
  | .word _ | .mark _ => True

/-- The text of tokens, each with the blanks behind it. -/
def spell (spaced : List (Token × List Char)) : List Char :=
  spaced.flatMap fun part => part.1.text.toList ++ part.2

/-- Behind each token stand blanks, and behind all but the last at least one. -/
def Spaced : List (Token × List Char) → Prop
  | [] => True
  | part :: rest => Blank part.2 ∧ (rest ≠ [] → part.2 ≠ []) ∧ Spaced rest

/-- Within a comment all characters up to the line feed are dropped. -/
theorem skipBlank_comment {body : List Char} (hb : '\n' ∉ body) (text : List Char) :
    skipBlank true (body ++ '\n' :: text) = skipBlank false text := by
  induction body with
  | nil => rfl
  | cons c rest ih =>
    have hc : c ≠ '\n' := fun he => hb (he ▸ List.mem_cons_self)
    have hr : '\n' ∉ rest := fun hm => hb (List.mem_cons_of_mem _ hm)
    have hc' : (c != '\n') = true := by simp [hc]
    simpa only [List.cons_append, skipBlank, hc', if_true] using ih hr

/-- Blanks are dropped. -/
theorem skipBlank_append {gap : List Char} (h : Blank gap) (text : List Char) :
    skipBlank false (gap ++ text) = skipBlank false text := by
  induction h with
  | nil => rfl
  | @white c rest hc h ih =>
    have hh : c ≠ '#' := by
      rintro rfl
      revert hc
      decide
    simpa [skipBlank, hc, hh] using ih
  | comment hb h ih =>
    simp only [List.cons_append, List.append_assoc, skipBlank, Bool.false_eq_true, if_false,
      if_true]
    rw [skipBlank_comment hb]
    exact ih

/-- A character that is no blank stays. -/
theorem skipBlank_cons {c : Char} {rest : List Char} (hw : isWhite c = false) (hh : c ≠ '#') :
    skipBlank false (c :: rest) = c :: rest := by
  simp [skipBlank, hw, hh]

/-- Blanks begin with a character that is part of no word. -/
theorem Blank.head_not_nameChar {gap : List Char} (h : Blank gap) :
    ∀ c ∈ gap.head?, Text.isAsciiNameChar c = false := by
  cases h with
  | nil => simp
  | @white c rest hc h =>
    intro d hd
    cases hd
    simp only [isWhite, Bool.or_eq_true, beq_iff_eq] at hc
    rcases hc with (((rfl | rfl) | hc) | rfl) | rfl
    · decide
    · decide
    · obtain rfl : c = '\x0c' := Char.ext (UInt32.toNat_inj.mp hc)
      decide
    · decide
    · decide
  | comment hb h =>
    intro d hd
    cases hd
    decide

/-- No keyword begins another one. -/
theorem Word.eq_of_isPrefix {a b : Word} (h : a.text.toList <+: b.text.toList) : a = b := by
  have hall : ∀ a ∈ Word.all, ∀ b ∈ Word.all, a.text.toList <+: b.text.toList → a = b := by decide
  exact hall a a.mem_all b b.mem_all h

/-- The text of a keyword is found again. -/
@[simp] theorem Word.ofText?_text (w : Word) : Word.ofText? w.text = some w := by
  have hall : ∀ w ∈ Word.all, Word.ofText? w.text = some w := by decide
  exact hall w w.mem_all

/-- Exactly the texts that are no keywords are not found. -/
theorem Word.ofText?_eq_none_iff {text : String} :
    Word.ofText? text = none ↔ ∀ w : Word, w.text ≠ text := by
  simp only [Word.ofText?, List.find?_eq_none, beq_iff_eq]
  exact ⟨fun h w => h w w.mem_all, fun h w _ => h w⟩

/-- Whether a text can be a name is seen at its characters. -/
theorem isName_iff {text : String} : IsName text ↔
    text.toList.head?.any Text.isAsciiNameStart = true ∧
      text.toList.tail.all Text.isAsciiNameChar = true := by
  rw [IsName, List.all_eq_true]
  constructor
  · rintro ⟨c, rest, he, hc, hr⟩
    rw [he]
    exact ⟨hc, hr⟩
  · rintro ⟨hc, hr⟩
    cases he : text.toList with
    | nil => simp [he] at hc
    | cons c rest =>
      rw [he] at hc hr
      exact ⟨c, rest, rfl, hc, hr⟩

instance (text : String) : Decidable (IsName text) := decidable_of_iff _ isName_iff.symm

/-- A keyword is written like a name. -/
theorem Word.isName (w : Word) : IsName w.text := by
  have hall : ∀ w ∈ Word.all, IsName w.text := by decide
  exact hall w w.mem_all

/-- Whether a token is what its letters say can be computed. -/
instance Token.decidableProper : (t : Token) → Decidable t.Proper
  | .name text => decidable_of_iff (IsName text ∧ Word.ofText? text = none)
      (and_congr_right fun _ => Word.ofText?_eq_none_iff)
  | .word _ => isTrue trivial
  | .mark _ => isTrue trivial

/-- The mark of a character is found again. -/
theorem Mark.ofChar?_char (m : Mark) : Mark.ofChar? m.char = some m := by cases m <;> rfl

/-- A letter is no mark. -/
theorem Mark.ofChar?_nameStart {c : Char} (h : Text.isAsciiNameStart c = true) :
    Mark.ofChar? c = none := by
  simp only [Mark.ofChar?, List.find?_eq_none, beq_iff_eq]
  rintro m - rfl
  cases m <;> revert h <;> decide

/-- What is dropped stood there. -/
theorem eq_append_of_dropWord {word text rest : List Char} (h : dropWord word text = some rest) :
    text = word ++ rest := by
  induction word generalizing text with
  | nil => simpa [dropWord] using h
  | cons w word ih =>
    cases text with
    | nil => simp [dropWord] at h
    | cons c text =>
      simp only [dropWord] at h
      split at h
      · next hc => rw [List.cons_append, ← ih h, hc]
      · cases h

/-- What stands there is dropped. -/
@[simp] theorem dropWord_append (word rest : List Char) :
    dropWord word (word ++ rest) = some rest := by
  induction word with
  | nil => rfl
  | cons w word ih => simpa only [List.cons_append, dropWord, if_true] using ih

/-- Where the letters of a keyword stand, no other one can be dropped. -/
theorem Word.eq_of_dropWord {a b : Word} {behind rest : List Char}
    (h : dropWord a.text.toList (b.text.toList ++ behind) = some rest) : a = b := by
  have he := eq_append_of_dropWord h
  rcases List.prefix_or_prefix_of_prefix (List.prefix_append a.text.toList rest)
    (he ▸ List.prefix_append b.text.toList behind) with hp | hp
  · exact Word.eq_of_isPrefix hp
  · exact (Word.eq_of_isPrefix hp).symm

/-- Of the keywords of a context the one that stands there is found. -/
theorem findSome_dropWord {words : List Word} {w : Word} (hw : w ∈ words) (behind : List Char) :
    (words.findSome? fun a =>
      (dropWord a.text.toList (w.text.toList ++ behind)).map fun rest => (Token.word a, rest)) =
        some (.word w, behind) := by
  induction words with
  | nil => cases hw
  | cons a words ih =>
    rw [List.findSome?_cons]
    by_cases ha : a = w
    · subst ha
      rw [dropWord_append]
      rfl
    · have hn : dropWord a.text.toList (w.text.toList ++ behind) = none := by
        cases hd : dropWord a.text.toList (w.text.toList ++ behind) with
        | none => rfl
        | some rest => exact absurd (Word.eq_of_dropWord hd) ha
      rw [hn]
      exact ih ((List.mem_cons.mp hw).resolve_left fun he => ha he.symm)

/-- Where no name may stand, a keyword is cut off whatever follows. -/
theorem lexeme_bare {context : Context} (hn : context.names = false) {w : Word}
    (hw : w ∈ context.words) (behind : List Char) :
    lexeme context (w.text.toList ++ behind) = some (.word w, behind) := by
  obtain ⟨c, letters, he, hc, -⟩ := w.isName
  have hfound := findSome_dropWord hw behind
  rw [he, List.cons_append] at hfound ⊢
  rw [lexeme, Mark.ofChar?_nameStart hc]
  simpa only [hn, Bool.false_eq_true, if_false] using hfound

/-- A word ends where no further character of a word follows. -/
theorem lexeme_nameChars {context : Context} (hn : context.names = true) {text : String}
    (ht : IsName text) {behind : List Char}
    (hb : ∀ c ∈ behind.head?, Text.isAsciiNameChar c = false) :
    lexeme context (text.toList ++ behind) = some (context.classify text, behind) := by
  obtain ⟨c, rest, he, hc, hr⟩ := ht
  have htake : (rest ++ behind).takeWhile Text.isAsciiNameChar = rest := by
    rw [List.takeWhile_append_of_pos hr]
    cases behind with
    | nil => simp
    | cons d behind => simp [hb d rfl]
  have hdrop : (rest ++ behind).dropWhile Text.isAsciiNameChar = behind := by
    rw [List.dropWhile_append_of_pos hr]
    cases behind with
    | nil => rfl
    | cons d behind => simp [hb d rfl]
  have hback : String.ofList (c :: rest) = text := by rw [← he, String.ofList_toList]
  rw [he, List.cons_append, lexeme, Mark.ofChar?_nameStart hc]
  simp only [hn, hc, if_true, htake, hdrop, hback]

/-- A token that may stand at a place is cut off there, if no word goes on behind it. -/
theorem lexeme_of_admits {context : Context} {t : Token} {behind : List Char}
    (ha : context.Admits t) (ht : t.Proper)
    (hb : ∀ c ∈ behind.head?, Text.isAsciiNameChar c = false) :
    lexeme context (t.text.toList ++ behind) = some (t, behind) := by
  cases t with
  | name text =>
    rw [Token.text, lexeme_nameChars ha ht.1 hb, Context.classify,
      Word.ofText?_eq_none_iff.mpr ht.2]
  | word w =>
    cases hn : context.names with
    | true =>
      have hw : context.words.contains w = true := List.contains_iff_mem.mpr ha
      rw [Token.text, lexeme_nameChars hn w.isName hb, Context.classify, Word.ofText?_text]
      simp only [hw, if_true]
    | false => exact lexeme_bare hn ha behind
  | mark m =>
    have hm : context.marks.contains m = true := List.contains_iff_mem.mpr ha
    rw [Token.text, String.toList_singleton, List.singleton_append, lexeme, Mark.ofChar?_char]
    simp only [hm, if_true]

/-- A name begins with a character that is no blank. -/
theorem IsName.head {text : String} (h : IsName text) :
    ∃ c rest, text.toList = c :: rest ∧ isWhite c = false ∧ c ≠ '#' := by
  obtain ⟨c, rest, he, hc, -⟩ := h
  refine ⟨c, rest, he, ?_, ?_⟩
  · cases hw : isWhite c with
    | false => rfl
    | true =>
      have hb := (Blank.white hw .nil).head_not_nameChar c rfl
      rw [Text.isAsciiNameChar_of_start hc] at hb
      cases hb
  · rintro rfl
    revert hc
    decide

/-- So does every token. -/
theorem Token.head {t : Token} (ht : ∀ text, t = .name text → IsName text) :
    ∃ c rest, t.text.toList = c :: rest ∧ isWhite c = false ∧ c ≠ '#' := by
  cases t with
  | name text => exact (ht text rfl).head
  | word w => exact w.isName.head
  | mark m =>
    exact ⟨m.char, [], String.toList_singleton m.char, by cases m <;> decide, by cases m <;> decide⟩

/-- A token that is what its letters say begins like that. -/
theorem Token.Proper.head {t : Token} (ht : t.Proper) :
    ∃ c rest, t.text.toList = c :: rest ∧ isWhite c = false ∧ c ≠ '#' := by
  refine Token.head fun text he => ?_
  subst he
  exact ht.1

/-- The file that tokens complete from a state on, if they complete one. -/
def State.reads (s : State) (tokens : List Token) : Option File :=
  (s.run tokens).bind State.finish

/-- Nothing is left to read. -/
@[simp] theorem State.reads_nil (s : State) : s.reads [] = s.finish := rfl

/-- One token after the other is read. -/
theorem State.reads_cons (s : State) (t : Token) (rest : List Token) :
    s.reads (t :: rest) = (s.step t).bind fun next => next.reads rest := by
  simp only [State.reads, State.run, Option.bind_assoc]

/-- Behind the last token the reader is asked for the complete file. -/
theorem readFrom_blank {s : State} {last text : List Char} (h : skipBlank false text = [])
    {f : File} (hf : s.finish = some f) : readFrom s last text = .ok f := by
  rw [readFrom]
  split
  · simp only [hf]
  · next c rest hs =>
    rw [h] at hs
    cases hs

/-- A token that is cut off and taken leads on. -/
theorem readFrom_token {s next : State} {last text behind : List Char} {c : Char}
    {rest : List Char} {t : Token} (h : skipBlank false text = c :: rest)
    (hl : lexeme s.place.context (c :: rest) = some (t, behind)) (hs : s.step t = some next) :
    readFrom s last text = readFrom next (c :: rest) behind := by
  rw [readFrom]
  split
  · next he =>
    rw [h] at he
    cases he
  · next c' rest' he =>
    rw [h] at he
    cases he
    split
    · next t' behind' hl' =>
      rw [hl] at hl'
      cases hl'
      simp only [hs]
    · next hl' =>
      rw [hl] at hl'
      cases hl'

/-- What follows a token in a written text does not go on with a word. -/
theorem Spaced.head_not_nameChar {part : Token × List Char} {rest : List (Token × List Char)}
    (h : Spaced (part :: rest)) :
    ∀ c ∈ (part.2 ++ spell rest).head?, Text.isAsciiNameChar c = false := by
  obtain ⟨hb, hn, -⟩ := h
  obtain ⟨t, gap⟩ := part
  cases gap with
  | nil =>
    cases rest with
    | nil => simp [spell]
    | cons next rest => exact absurd rfl (hn (List.cons_ne_nil _ _))
  | cons d gap => exact hb.head_not_nameChar

/-- A written text is read as its tokens. -/
theorem readFrom_spell {spaced : List (Token × List Char)} (hs : Spaced spaced)
    (hp : ∀ part ∈ spaced, part.1.Proper) {gap : List Char} (hg : Blank gap) {s : State} {f : File}
    (hf : s.reads (spaced.map Prod.fst) = some f) (last : List Char) :
    readFrom s last (gap ++ spell spaced) = .ok f := by
  induction spaced generalizing s gap last with
  | nil =>
    refine readFrom_blank ?_ hf
    rw [skipBlank_append hg]
    rfl
  | cons part rest ih =>
    obtain ⟨next, hstep, hrest⟩ := Option.bind_eq_some_iff.mp ((State.reads_cons ..).symm.trans hf)
    have ht := hp part List.mem_cons_self
    have hl := lexeme_of_admits (State.admits_of_step hstep) ht hs.head_not_nameChar
    have htext : spell (part :: rest) = part.1.text.toList ++ (part.2 ++ spell rest) := by
      simp only [spell, List.flatMap_cons, List.append_assoc]
    obtain ⟨c, letters, he, hw, hh⟩ := ht.head
    rw [he, List.cons_append] at hl
    have hskip : skipBlank false (gap ++ spell (part :: rest)) =
        c :: (letters ++ (part.2 ++ spell rest)) := by
      rw [skipBlank_append hg, htext, he, List.cons_append, skipBlank_cons hw hh]
    rw [readFrom_token hskip hl hstep]
    exact ih hs.2.2 (fun p h => hp p (List.mem_cons_of_mem _ h)) hs.1 hrest _

end KeyedAccess.Schema
