import KeyedAccess.Proofs.Schema.Concatenation
import KeyedAccess.Proofs.Schema.Layout

/-!
# Texts that are changed in one place

Which tokens a reader takes, and how they are cut off, does not depend on the finished statements,
on the members of the open body, or on the types, the parameters and the modifiers of what is
unfinished. What it does depend on is the outline of a state, and states of the same outline scan
every text in the same way. So a text that is changed in one place is scanned as before behind that
place.
-/

namespace KeyedAccess.Schema

open Text

/-! ## Outlines -/

/-- A body of which nothing is known. -/
def Body.unknown : Body := ⟨⟨[], .cls, ""⟩, none, [], []⟩

/-- A type of which nothing is known. -/
def TypeTree.unknown : TypeTree := .mk ⟨"", []⟩ [] [] false

/-- A parameter of which nothing is known. -/
def Parameter.unknown : Parameter := ⟨"", .unknown⟩

/-- The owner of a parameter list without its body and its modifiers. -/
def ParameterOwner.outline : ParameterOwner → ParameterOwner
  | .declaration h => .declaration h
  | .indexer _ _ => .indexer .unknown []
  | .method _ _ name => .method .unknown [] name

/-- The owner of a block without its body, its modifiers and its types. -/
def BlockOwner.outline : BlockOwner → BlockOwner
  | .property _ _ name _ => .property .unknown [] name .unknown
  | .indexer .. => .indexer .unknown [] [] .unknown .unknown

/-- The slot of a type without what has been read of its owner. -/
def Slot.outline : Slot → Slot
  | .base h _ _ => .base h none []
  | .parameter owner _ name => .parameter owner.outline [] name
  | .member _ _ name => .member .unknown [] name
  | .indexer .. => .indexer .unknown [] [] .unknown
  | .result _ _ name _ => .result .unknown [] name []

/-- What the tokens that may follow depend on. In front of the name of a member it matters whether
there are modifiers. -/
def Place.outline : Place → Place
  | .headed h _ => .headed h []
  | .based h _ _ => .based h none []
  | .parametersOpen owner => .parametersOpen owner.outline
  | .parameterName owner _ name => .parameterName owner.outline [] name
  | .parameterTyped owner _ _ => .parameterTyped owner.outline [] .unknown
  | .parameterNext owner _ => .parameterNext owner.outline []
  | .typing slot frames spot => .typing slot.outline frames spot
  | .body _ modifiers => .body .unknown modifiers
  | .memberName _ _ name => .memberName .unknown [] name
  | .memberTyped _ _ name _ => .memberTyped .unknown [] name .unknown
  | .this _ _ => .this .unknown []
  | .indexerHeaded .. => .indexerHeaded .unknown [] [] .unknown
  | .indexerTyped .. => .indexerTyped .unknown [] [] .unknown .unknown
  | .methodHeaded _ _ name _ => .methodHeaded .unknown [] name []
  | .methodTyped _ _ name _ _ => .methodTyped .unknown [] name [] .unknown
  | .block owner accessors => .block owner.outline accessors
  | .accessor owner before a => .accessor owner.outline before a
  | place => place

/-- The outline of a state knows no finished statements. -/
def State.outline (s : State) : State := ⟨[], s.place.outline⟩

/-- What may stand at a place can be seen from its outline. -/
theorem Place.context_outline (place : Place) : place.outline.context = place.context := by
  cases place with
  | body b ms => cases ms <;> rfl
  | parametersOpen owner => cases owner <;> rfl
  | _ => rfl

/-- A filled slot has the outline of the filled outline. -/
theorem Slot.outline_filled (slot : Slot) (type : TypeTree) :
    (slot.outline.filled type).outline = (slot.filled type).outline := by
  cases slot with
  | parameter owner before name => cases owner <;> rfl
  | _ => rfl

/-- Which type fills a slot cannot be seen from the outline. -/
theorem Slot.outline_filled_eq (slot : Slot) (type other : TypeTree) :
    (slot.filled type).outline = (slot.filled other).outline := by
  cases slot <;> rfl

/-- A token goes on with an unfinished statement as it does with its outline. -/
theorem Place.outline_next (place : Place) (t : Token) :
    (place.outline.next t).map Place.outline = (place.next t).map Place.outline := by
  cases place with
  | typing slot frames spot =>
    simp only [Place.outline, Place.next]
    cases typeStep frames spot t with
    | none => rfl
    | some next => cases slot with
      | parameter owner before name => cases owner <;> rfl
      | _ => rfl
  | parametersOpen owner => cases owner <;> cases t with
    | mark m => cases m <;> rfl
    | _ => rfl
  | parameterName owner => cases owner <;> cases t with
    | mark m => cases m <;> rfl
    | _ => rfl
  | parameterTyped owner => cases owner <;> cases t with
    | mark m => cases m <;> rfl
    | _ => rfl
  | parameterNext owner => cases owner <;> cases t <;> rfl
  | block owner => cases owner <;> cases t with
    | mark m => cases m <;> rfl
    | word w => cases w <;> rfl
    | _ => rfl
  | accessor owner => cases owner <;> cases t with
    | mark m => cases m <;> rfl
    | _ => rfl
  | body b ms => cases t with
    | mark m => cases m <;> rfl
    | word w => cases w <;> rfl
    | _ => rfl
  | headed | based | memberName | memberTyped | this | indexerHeaded | indexerTyped | methodHeaded
  | methodTyped =>
    cases t with
    | mark m => cases m <;> rfl
    | _ => rfl
  | _ => rfl

/-- So it does with the outline of a state. -/
theorem State.outline_direct (s : State) (t : Token) :
    (s.outline.direct t).map State.outline = (s.direct t).map State.outline := by
  obtain ⟨items, place⟩ := s
  have hnext : ((place.outline.next t).map fun next => (⟨[], next⟩ : State)).map State.outline =
      ((place.next t).map fun next => (⟨items, next⟩ : State)).map State.outline := by
    have h := congrArg (Option.map fun next => (⟨[], next⟩ : State)) (place.outline_next t)
    simp only [Option.map_map] at h ⊢
    exact h
  cases place with
  | scopeName p => cases t with
    | mark m => cases m <;> rfl
    | _ => rfl
  | body b ms => cases ms <;> cases t with
    | mark m => cases m <;> rfl
    | word w => cases w <;> rfl
    | _ => rfl
  | _ => exact hnext

/-- A part that may end is finished in the outline too. -/
theorem State.outline_settle (s : State) :
    s.outline.settle.map State.outline = s.settle.map State.outline := by
  obtain ⟨items, place⟩ := s
  cases place with
  | typing slot frames spot =>
    cases frames with
    | nil =>
      simp only [State.outline, Place.outline, State.settle]
      cases spot.type? with
      | none => rfl
      | some type =>
        exact congrArg (fun place => some (⟨[], place⟩ : State)) (slot.outline_filled type)
    | cons frame frames => rfl
  | accessor owner => cases owner <;> rfl
  | _ => rfl

/-- States of the same outline take the same tokens, to states of the same outline. -/
theorem State.outline_stepWithin {count : Nat} {s other : State} (h : s.outline = other.outline)
    (t : Token) :
    (s.stepWithin count t).map State.outline = (other.stepWithin count t).map State.outline := by
  have hdirect {s other : State} (h : s.outline = other.outline) :
      (s.direct t).map State.outline = (other.direct t).map State.outline := by
    rw [← s.outline_direct, h, other.outline_direct]
  induction count generalizing s other with
  | zero => exact hdirect h
  | succ count ih =>
    have hsettle : s.settle.map State.outline = other.settle.map State.outline := by
      rw [← s.outline_settle, h, other.outline_settle]
    have hfirst := hdirect h
    rw [State.stepWithin, State.stepWithin]
    cases hs : s.direct t with
    | some next => cases ho : other.direct t with
      | some next' => simpa only [hs, ho] using hfirst
      | none => simp [hs, ho] at hfirst
    | none => cases ho : other.direct t with
      | some next' => simp [hs, ho] at hfirst
      | none => cases hs' : s.settle with
        | none => cases ho' : other.settle with
          | none => rfl
          | some settled' => simp [hs', ho'] at hsettle
        | some settled => cases ho' : other.settle with
          | none => simp [hs', ho'] at hsettle
          | some settled' => exact ih (by simpa [hs', ho'] using hsettle)

/-- So a token that one of them takes is taken by the other. -/
theorem State.step_of_outline {s other next : State} (h : s.outline = other.outline) {t : Token}
    (hs : s.step t = some next) :
    ∃ next', other.step t = some next' ∧ next.outline = next'.outline := by
  have hstep : (s.step t).map State.outline = (other.step t).map State.outline :=
    State.outline_stepWithin h t
  rw [hs, Option.map_some] at hstep
  obtain ⟨next', hs', hn⟩ := Option.map_eq_some_iff.mp hstep.symm
  exact ⟨next', hs', hn.symm⟩

/-! ## Tokens in other places -/

/-- A text is taken for a name where no keyword of that text may stand. -/
theorem Context.classify_eq_name_iff {context : Context} {text : String} :
    context.classify text = .name text ↔ ∀ w ∈ context.words, w.text ≠ text := by
  unfold Context.classify
  split
  · next w hw =>
    have htext := Word.text_of_ofText? hw
    split
    · next hin =>
      exact iff_of_false Token.noConfusion fun h => h w (List.contains_iff_mem.mp hin) htext
    · next hin =>
      refine iff_of_true rfl fun w' hw' he => hin ?_
      rw [← he, Word.ofText?_text] at hw
      exact Option.some.inj hw ▸ List.contains_iff_mem.mpr hw'
  · next hw => exact iff_of_true rfl fun w _ => Word.ofText?_eq_none_iff.mp hw w

/-- A token that is cut off where names may stand is cut off in another such context that admits it,
if a name is no more of a keyword there. -/
theorem lexeme_elsewhere {context other : Context} (hn : context.names = true)
    (ho : other.names = true) {t : Token} {behind : List Char}
    (h : lexeme context (t.text.toList ++ behind) = some (t, behind)) (ha : other.Admits t)
    (hw : ∀ w ∈ other.words, t = .name w.text → w ∈ context.words) :
    lexeme other (t.text.toList ++ behind) = some (t, behind) := by
  cases t with
  | mark m => exact lexeme_mark ha behind
  | word w =>
    exact lexeme_of_admits ha trivial (wordEnds_of_lexeme hn h fun _ => Token.noConfusion)
  | name name =>
    have hname : IsName name := legible_of_lexeme h
    have hends := wordEnds_of_lexeme hn h fun _ => Token.noConfusion
    rw [Token.text, lexeme_nameChars hn hname hends] at h
    have hclass := Context.classify_eq_name_iff.mp (Prod.mk.inj (Option.some.inj h)).1
    have hnew : other.classify name = .name name :=
      Context.classify_eq_name_iff.mpr fun w hin he =>
        hclass w (hw w hin (congrArg Token.name he.symm)) he
    rw [Token.text, lexeme_nameChars ho hname hends, hnew]

/-! ## Scans of changed texts -/

/-- The tokens of a scan are cut off in front of another text too, if it begins like the old one or
with no word, or if the last token is a mark. -/
theorem Scan.replace {s last : State} {text rest : List Char} {parts : List (List Char × Token)}
    (h : Scan s text parts last rest) {other : List Char}
    (ho : ∀ part ∈ parts.getLast?, (∀ m, part.2 ≠ .mark m) →
      ∀ c ∈ other.head?, isAsciiNameChar c = false ∨ rest.head? = some c) :
    Scan s (written parts ++ other) parts last other := by
  induction h with
  | nil => exact .nil ..
  | @cons s next last gap text behind rest t parts hg hl hs h ih =>
    have hcut := eq_append_of_lexeme hl
    subst hcut
    rw [written_cons, List.append_assoc, List.append_assoc]
    refine .cons hg (lexeme_behind hl fun hm => ?_) hs (ih fun part hp => ?_)
    · cases parts with
      | nil =>
        cases h
        exact ho _ rfl hm
      | cons part parts =>
        obtain ⟨gap', t'⟩ := part
        obtain ⟨c, letters, hc⟩ : ∃ c letters, gap' ++ t'.text.toList = c :: letters := by
          have hname : ∀ name, t' = .name name → IsName name := by
            rintro name rfl
            exact (h.legible _ List.mem_cons_self).2
          obtain ⟨c, letters, hc, -⟩ := Token.head hname
          cases gap' with
          | nil => exact ⟨c, letters, hc⟩
          | cons d gap' => exact ⟨d, _, rfl⟩
        have hsame : ∀ more, (written ((gap', t') :: parts) ++ more).head? = some c := by
          intro more
          rw [written_cons, ← List.append_assoc, hc]
          rfl
        intro d hd
        rw [hsame] at hd
        rw [h.eq_written, hsame]
        exact .inr hd
    · cases parts with
      | nil => cases hp
      | cons => exact ho part (by rw [List.getLast?_cons_cons]; exact hp)

/-- Behind a name that was cut off no word goes on. -/
theorem Scan.head_not_nameChar {s last : State} {text rest : List Char}
    {parts : List (List Char × Token)} (h : Scan s text parts last rest) {gap : List Char}
    {name : String} (hlast : parts.getLast? = some (gap, .name name)) :
    ∀ c ∈ rest.head?, isAsciiNameChar c = false := by
  obtain ⟨front, rfl⟩ := List.getLast?_eq_some_iff.mp hlast
  obtain ⟨mid, left, -, hend⟩ := h.split
  cases hend with
  | cons hg hl hs hnil =>
    cases hnil
    exact wordEnds_of_lexeme (names_of_lexeme hl) hl fun _ => Token.noConfusion

/-- States of the same outline scan every text in the same way. -/
theorem Scan.of_outline {s last other : State} {text rest : List Char}
    {parts : List (List Char × Token)} (h : Scan s text parts last rest)
    (ho : s.outline = other.outline) :
    ∃ last', Scan other text parts last' rest ∧ last.outline = last'.outline := by
  induction h generalizing other with
  | nil => exact ⟨other, .nil .., ho⟩
  | @cons s next last gap text behind rest t parts hg hl hs h ih =>
    have hcontext : other.place.context = s.place.context := by
      rw [← s.place.context_outline, ← other.place.context_outline]
      exact congrArg (fun s : State => s.place.context) ho.symm
    obtain ⟨next', hs', hn⟩ := State.step_of_outline ho hs
    obtain ⟨last', hscan, hlast⟩ := ih hn
    exact ⟨last', .cons hg (hcontext ▸ hl) hs' hscan, hlast⟩

/-- A text that is cut into the tokens of a file is read as that file. -/
theorem Scan.readFile {last : State} {text rest : List Char} {parts : List (List Char × Token)}
    (h : Scan .start text parts last rest) (hr : Trailing rest) {f : File}
    (ht : parts.map Prod.snd = tokensOfFile f) : readFile text = .ok f := by
  refine readFile_eq_ok_iff.mpr ⟨parts, last, rest, h, hr, ?_⟩
  have hreads := start_reads_tokensOfFile f
  rw [← ht, State.reads, h.run] at hreads
  exact hreads

end KeyedAccess.Schema
