import KeyedAccess.Proofs.Schema.Scanning

/-!
# Texts one behind the other

A scan of a text is a scan of every text that goes on behind it with a blank, and finished
statements in front do not change how the reader goes on. So two texts that are read, one behind the
other, are read as the statements of both, with one exception: behind a namespace statement of
several names without its semicolon a name may stand, so a keyword that is followed by letters is no
keyword there.
-/

namespace KeyedAccess.Schema

open Text

/-! ## More text behind -/

/-- Blanks at the end of a text are ended by a line feed. -/
theorem Trailing.blank_concat {rest : List Char} (h : Trailing rest) : Blank (rest ++ ['\n']) := by
  have hline : Blank ['\n'] := .white rfl .nil
  cases h with
  | blank h => exact h.append hline
  | comment h hb =>
    rw [List.append_assoc, List.cons_append]
    exact h.append (.comment hb .nil)

/-- A word ends where it did if no word goes on behind the text. -/
theorem wordChars_append (text : List Char) {more : List Char}
    (hm : ∀ c ∈ more.head?, isAsciiNameChar c = false) :
    (text ++ more).takeWhile isAsciiNameChar = text.takeWhile isAsciiNameChar ∧
      (text ++ more).dropWhile isAsciiNameChar = text.dropWhile isAsciiNameChar ++ more := by
  induction text with
  | nil =>
    cases more with
    | nil => exact ⟨rfl, rfl⟩
    | cons c more => simp [hm c rfl]
  | cons c text ih =>
    rw [List.cons_append, List.takeWhile_cons, List.takeWhile_cons, List.dropWhile_cons,
      List.dropWhile_cons]
    cases isAsciiNameChar c with
    | false => exact ⟨rfl, rfl⟩
    | true => exact ⟨congrArg (c :: ·) ih.1, ih.2⟩

/-- A token is cut off in the same way if more text follows that does not go on with a word. -/
theorem lexeme_append {context : Context} {text rest more : List Char} {t : Token}
    (h : lexeme context text = some (t, rest))
    (hm : ∀ c ∈ more.head?, isAsciiNameChar c = false) :
    lexeme context (text ++ more) = some (t, rest ++ more) := by
  cases lexed_of_eq_some h with
  | mark hc hin =>
    simp only [List.cons_append, lexeme, hc, List.contains_iff_mem.mpr hin, if_true]
  | whole hc hn hs rest =>
    obtain ⟨htake, hdrop⟩ := wordChars_append rest hm
    simp only [List.cons_append, lexeme, hc, hn, hs, if_true, htake, hdrop]
  | @bare c text _ w hc hn hw hd =>
    have htext : c :: (text ++ more) = w.text.toList ++ (rest ++ more) := by
      rw [← List.cons_append, eq_append_of_dropWord hd, List.append_assoc]
    simp only [List.cons_append, lexeme, hc, hn, Bool.false_eq_true, if_false]
    rw [htext]
    exact findSome_dropWord hw _

section

variable {s mid last : State} {text rest : List Char} {parts : List (List Char × Token)}

/-- A scan of a text is one of every text that goes on behind it with no word. -/
theorem Scan.append (h : Scan s text parts last rest) {more : List Char}
    (hm : ∀ c ∈ more.head?, isAsciiNameChar c = false) :
    Scan s (text ++ more) parts last (rest ++ more) := by
  induction h with
  | nil => exact .nil ..
  | cons hg hl hs h ih =>
    rw [List.append_assoc]
    exact .cons hg (lexeme_append hl hm) hs ih

/-- A scan goes on where another one ended. -/
theorem Scan.trans (h : Scan s text parts mid rest) {others : List (List Char × Token)}
    {behind : List Char} (ho : Scan mid rest others last behind) :
    Scan s text (parts ++ others) last behind := by
  induction h with
  | nil => exact ho
  | cons hg hl hs h ih => exact .cons hg hl hs (ih ho)

/-- A scan can be divided between any two tokens. -/
theorem Scan.split {others : List (List Char × Token)}
    (h : Scan s text (parts ++ others) last rest) :
    ∃ mid behind, Scan s text parts mid behind ∧ Scan mid behind others last rest := by
  induction parts generalizing s text with
  | nil => exact ⟨s, text, .nil .., h⟩
  | cons part parts ih =>
    cases h with
    | cons hg hl hs h =>
      obtain ⟨mid, behind, hfirst, hsecond⟩ := ih h
      exact ⟨mid, behind, .cons hg hl hs hfirst, hsecond⟩

end

/-- A token that is cut off and not taken is refused. -/
theorem readFrom_refused {s : State} {last text behind : List Char} {c : Char} {rest : List Char}
    {t : Token} (h : skipBlank false text = c :: rest)
    (hl : lexeme s.place.context (c :: rest) = some (t, behind)) (hs : s.step t = none) :
    readFrom s last text = .error (.token t (c :: rest)) := by
  rw [readFrom]
  split
  · next he =>
    cases h.symm.trans he
  · next c' rest' he =>
    cases h.symm.trans he
    split
    · next t' behind' hl' =>
      cases hl.symm.trans hl'
      simp only [hs]
    · next hl' =>
      cases hl.symm.trans hl'

/-! ## Statements in front -/

/-- The state of a reader that has finished other statements before. -/
def State.behind (items : File) (s : State) : State := ⟨items ++ s.items, s.place⟩

/-- A token is taken directly whatever statements stand in front. -/
theorem State.direct_behind (items : File) (s : State) (t : Token) :
    (s.behind items).direct t = (s.direct t).map (State.behind items) := by
  obtain ⟨done, place⟩ := s
  simp only [State.direct, State.behind]
  split
  · simp [State.behind]
  · simp [State.behind]
  · cases place.next t <;> rfl

/-- So are parts finished. -/
theorem State.settle_behind (items : File) (s : State) :
    (s.behind items).settle = s.settle.map (State.behind items) := by
  obtain ⟨done, place⟩ := s
  cases place with
  | typing slot frames spot =>
    cases frames with
    | nil =>
      simp only [State.behind, State.settle]
      cases spot.type? <;> rfl
    | cons frame frames => rfl
  | scopeName p => simp [State.behind, State.settle]
  | _ => rfl

/-- So are tokens read. -/
theorem State.stepWithin_behind (items : File) (count : Nat) (s : State) (t : Token) :
    (s.behind items).stepWithin count t = (s.stepWithin count t).map (State.behind items) := by
  induction count generalizing s with
  | zero => exact s.direct_behind items t
  | succ count ih =>
    rw [State.stepWithin, State.stepWithin, State.direct_behind, State.settle_behind]
    cases s.direct t with
    | some next => rfl
    | none =>
      cases s.settle with
      | none => rfl
      | some settled => exact ih settled

/-- The statements in front become part of the file. -/
theorem State.finish_behind (items : File) (s : State) :
    (s.behind items).finish = s.finish.map (items ++ ·) := by
  obtain ⟨done, place⟩ := s
  cases place with
  | between ms => cases ms <;> rfl
  | scopeName p => simp [State.behind, State.finish]
  | _ => rfl

/-- Texts are scanned in the same way whatever statements stand in front. -/
theorem Scan.behind {s last : State} {text rest : List Char} {parts : List (List Char × Token)}
    (h : Scan s text parts last rest) (items : File) :
    Scan (s.behind items) text parts (last.behind items) rest := by
  induction h with
  | nil => exact .nil ..
  | @cons s next last gap text behind rest t parts hg hl hs h ih =>
    refine .cons hg hl ?_ ih
    rw [State.step, State.stepWithin_behind]
    exact congrArg (Option.map _) hs

/-! ## Behind a file -/

/-- No token of an unfinished statement leads between statements. -/
theorem Place.Moves.ne_between {place next : Place} {t : Token} (h : place.Moves t next) :
    next ≠ .between [] := by
  cases h with
  | modifier ms m =>
    have hne : ms ++ [m] ≠ [] := List.append_ne_nil_of_right_ne_nil ms (List.cons_ne_nil m _)
    exact fun he => hne (Place.between.inj he)
  | _ => exact Place.noConfusion

/-- Between statements the last one is not a namespace statement without its semicolon: that one
could still go on. -/
def State.Ended (s : State) : Prop :=
  s.place = .between [] → ∀ p, s.items.getLast? ≠ some (.scope p false)

/-- Every token leads to such a state. -/
theorem State.Steps.ended {s next : State} {t : Token} (h : s.Steps t next) : next.Ended := by
  induction h with
  | direct h =>
    cases h with
    | endScope | endBody =>
      intro _ p
      simp
    | move items h => exact fun he => absurd he h.ne_between
  | settle _ _ ih => exact ih

/-- So does every scan. -/
theorem Scan.ended {s last : State} {text rest : List Char} {parts : List (List Char × Token)}
    (h : Scan s text parts last rest) (hs : s.Ended) : last.Ended := by
  induction h with
  | nil => exact hs
  | cons hg hl hstep h ih => exact ih (State.steps_of_eq_some hstep).ended

/-- Where a file is complete, the reader is between statements or behind a namespace statement
without its semicolon. -/
theorem State.eq_of_finish {s : State} {f : File} (h : s.finish = some f) :
    s = State.start.behind f ∨
      ∃ items p, s = ⟨items, .scopeName p⟩ ∧ f = items ++ [Item.scope p false] := by
  obtain ⟨items, place⟩ := s
  cases place with
  | between ms =>
    cases ms with
    | nil =>
      cases h
      exact .inl (by simp [State.behind, State.start])
    | cons m ms => cases h
  | scopeName p =>
    cases h
    exact .inr ⟨items, p, rfl, rfl⟩
  | _ => cases h

private theorem word_of_lexeme_start {text behind : List Char} {t : Token}
    (h : lexeme State.start.place.context text = some (t, behind)) :
    ∃ w ∈ statementWords, t = .word w ∧ text = w.text.toList ++ behind := by
  have ht := eq_append_of_lexeme h
  cases text with
  | nil => cases h
  | cons c text =>
    simp only [lexeme, State.start, Place.context] at h
    split at h
    · cases h
    · simp only [Bool.false_eq_true, if_false] at h
      obtain ⟨w, hw, hf⟩ := List.exists_of_findSome?_eq_some h
      obtain ⟨rest, -, he⟩ := Option.map_eq_some_iff.mp hf
      cases he
      exact ⟨w, hw, rfl, ht⟩

/-- A keyword ends a namespace statement without its semicolon. -/
theorem State.step_scopeName {items : File} {p : Path} {w : Word} :
    (⟨items, .scopeName p⟩ : State).step (.word w) =
      (State.start.behind (items ++ [Item.scope p false])).step (.word w) := by
  have hback : State.start.behind (items ++ [Item.scope p false]) =
      ⟨items ++ [Item.scope p false], .between []⟩ := by simp [State.behind, State.start]
  rw [hback]
  simp only [State.step, State.stepWithin, State.direct, State.settle, Place.next, Option.map_none,
    Option.bind_some]
  cases w <;> rfl

private theorem lexeme_scopeName {p : Path} {w : Word} (hw : w ∈ statementWords)
    {behind : List Char} (hb : p.tail = [] ∨ ∀ c ∈ behind.head?, isAsciiNameChar c = false) :
    lexeme (Place.scopeName p).context (w.text.toList ++ behind) = some (.word w, behind) := by
  obtain ⟨head, tail⟩ := p
  cases tail with
  | nil => exact lexeme_bare rfl hw behind
  | cons name tail =>
    have hplain := hb.resolve_left (List.cons_ne_nil _ _)
    have hin : w ∈ afterDottedName.words := by
      have hall : ∀ w ∈ statementWords, w ∈ afterDottedName.words := by decide
      exact hall w hw
    exact lexeme_of_admits (t := .word w) hin trivial hplain

private theorem lexeme_dottedName {p : Path} (hp : p.tail ≠ []) {c : Char}
    (hc : isAsciiNameChar c = true) (w : Word) (behind : List Char) :
    ∃ name rest, lexeme (Place.scopeName p).context (w.text.toList ++ c :: behind) =
      some (.name name, rest) := by
  obtain ⟨head, tail⟩ := p
  obtain ⟨next, tail, rfl⟩ := List.exists_cons_of_ne_nil hp
  obtain ⟨first, letters, he, hfirst, hletters⟩ := w.isName
  have htext : w.text.toList ++ c :: behind = first :: (letters ++ c :: behind) := by
    rw [he, List.cons_append]
  have htake : (letters ++ c :: behind).takeWhile isAsciiNameChar =
      letters ++ c :: behind.takeWhile isAsciiNameChar := by
    rw [List.takeWhile_append_of_pos hletters, List.takeWhile_cons_of_pos hc]
  have hno : Word.ofText? (String.ofList (first :: (letters ++ c :: behind.takeWhile
      isAsciiNameChar))) = none := by
    refine Word.ofText?_eq_none_iff.mpr fun other hother => ?_
    have hlonger : other.text.toList = w.text.toList ++ c :: behind.takeWhile isAsciiNameChar := by
      rw [hother, String.toList_ofList, he, List.cons_append]
    obtain rfl := Word.eq_of_isPrefix (hlonger ▸ List.prefix_append w.text.toList _)
    have hlength := congrArg List.length hlonger
    simp at hlength
  rw [htext, lexeme, Mark.ofChar?_nameStart hfirst]
  simp only [Place.context, afterDottedName, if_true, hfirst, htake, Context.classify, hno]
  exact ⟨_, _, rfl⟩

/-- A text that begins with a keyword runs on from a file that ends with a namespace statement of
several names without its semicolon, if letters follow the keyword. -/
structure RunsOn (f : File) (text : List Char) : Prop where
  /-- The last statement names a namespace and is not terminated. -/
  dotted : ∃ p, f.getLast? = some (.scope p false) ∧ p.tail ≠ []
  /-- Letters follow the keyword that the text begins with. -/
  glued : ∃ w c rest, skipBlank false text = (Word.text w).toList ++ c :: rest ∧
    isAsciiNameChar c = true

section Behind

variable {s : State} {f g : File} {b : List Char}

/-- A text behind a complete file is read as it is alone, if its first keyword is cut off there. -/
theorem readFrom_behind_file (hs : s.finish = some f) {next last : State}
    {gap behind rest : List Char} {w : Word} {parts : List (List Char × Token)} (hg : Blank gap)
    (hl : lexeme s.place.context (w.text.toList ++ behind) = some (.word w, behind))
    (hw : State.start.step (.word w) = some next) (h : Scan next behind parts last rest)
    (hrest : Trailing rest) (hf : last.finish = some g) (start : List Char) :
    readFrom s start (gap ++ (w.text.toList ++ behind)) = .ok (f ++ g) := by
  have hsame : s.step (.word w) = (State.start.behind f).step (.word w) := by
    obtain rfl | ⟨items, p, rfl, rfl⟩ := State.eq_of_finish hs
    · rfl
    · exact State.step_scopeName
  have hstep : s.step (.word w) = some (next.behind f) := by
    rw [hsame, State.step, State.stepWithin_behind]
    exact congrArg (Option.map _) hw
  obtain ⟨start', he⟩ := (Scan.cons hg hl hstep (h.behind f)).readFrom start
  rw [he]
  exact readFrom_blank hrest.skipBlank (by rw [State.finish_behind, hf]; rfl)

/-- Behind a complete file, the keyword that a text begins with is cut off as such, unless the text
runs on from the file. -/
theorem lexeme_behind_file (hs : s.finish = some f) {gap behind : List Char} {w : Word}
    (hg : Blank gap) (hw : w ∈ statementWords)
    (hn : ¬ RunsOn f (gap ++ (w.text.toList ++ behind))) :
    lexeme s.place.context (w.text.toList ++ behind) = some (.word w, behind) := by
  obtain ⟨c, letters, he, hwhite, hhash⟩ := w.isName.head
  have hskip : skipBlank false (gap ++ (w.text.toList ++ behind)) = w.text.toList ++ behind := by
    rw [skipBlank_append hg, he, List.cons_append, skipBlank_cons hwhite hhash]
  obtain rfl | ⟨items, p, rfl, rfl⟩ := State.eq_of_finish hs
  · exact lexeme_bare rfl hw behind
  · refine lexeme_scopeName hw ?_
    by_cases hp : p.tail = []
    · exact .inl hp
    · refine .inr fun d hd => Bool.eq_false_iff.mpr fun hc => hn ⟨⟨p, by simp, hp⟩, ?_⟩
      obtain ⟨rest, rfl⟩ := List.head?_eq_some_iff.mp hd
      exact ⟨w, d, rest, hskip, hc⟩

/-- A text that runs on from a file is refused behind it. -/
theorem readFrom_of_runsOn (hs : s.finish = some f) (he : s.Ended) (h : RunsOn f b)
    (start : List Char) :
    ∃ name rest, readFrom s start b = .error (.token (.name name) rest) := by
  obtain ⟨⟨p, hlast, hp⟩, w, c, rest, hskip, hc⟩ := h
  obtain rfl | ⟨items, q, rfl, rfl⟩ := State.eq_of_finish hs
  · have hitems : (State.start.behind f).items = f := List.append_nil f
    exact absurd hlast (hitems ▸ he rfl p)
  · obtain rfl : q = p := by simpa using hlast
    obtain ⟨name, behind, hl⟩ := lexeme_dottedName hp hc w rest
    obtain ⟨first, letters, hword, -⟩ := w.isName
    rw [hword, List.cons_append] at hskip hl
    exact ⟨name, _, readFrom_refused hskip hl rfl⟩

end Behind

/-- Two texts that are read are read one behind the other, unless the second one runs on from the
first: then its first word is a name, which cannot stand there. -/
theorem readFile_append {a b : List Char} {f g : File} (ha : readFile a = .ok f)
    (hb : readFile b = .ok g) :
    (¬ RunsOn f b → readFile (a ++ '\n' :: b) = .ok (f ++ g)) ∧
      (RunsOn f b → ∃ name rest, readFile (a ++ '\n' :: b) =
        .error (.token (.name name) rest)) := by
  obtain ⟨parts, s, rest, hscan, hrest, hfinish⟩ := readFile_eq_ok_iff.mp ha
  have hline : ∀ c ∈ ('\n' :: b).head?, isAsciiNameChar c = false := by
    intro c hc
    cases hc
    decide
  have hsplit : rest ++ '\n' :: b = rest ++ ['\n'] ++ b := by
    rw [List.append_assoc, List.singleton_append]
  have hgap : Blank (rest ++ ['\n']) := hrest.blank_concat
  obtain ⟨start, hread⟩ := (hscan.append hline).readFrom (a ++ '\n' :: b)
  rw [hsplit] at hread
  constructor
  · intro hn
    obtain ⟨others, last, left, hother, hleft, hlast⟩ := readFile_eq_ok_iff.mp hb
    rw [readFile, hread]
    cases hother with
    | nil =>
      cases hlast
      rw [readFrom_blank (hleft.append hgap).skipBlank hfinish]
      exact congrArg Except.ok (List.append_nil f).symm
    | cons hg hl hstep hother =>
      obtain ⟨w, hw, rfl, rfl⟩ := word_of_lexeme_start hl
      rw [← List.append_assoc]
      exact readFrom_behind_file hfinish (hgap.append hg) (lexeme_behind_file hfinish hg hw hn)
        hstep hother hleft hlast start
  · intro hr
    have hended : s.Ended := hscan.ended fun _ p => by simp [State.start]
    have hglued : RunsOn f (rest ++ ['\n'] ++ b) :=
      ⟨hr.dotted, by simpa only [skipBlank_append hgap] using hr.glued⟩
    obtain ⟨name, left, he⟩ := readFrom_of_runsOn hfinish hended hglued start
    exact ⟨name, left, hread.trans he⟩

end KeyedAccess.Schema
