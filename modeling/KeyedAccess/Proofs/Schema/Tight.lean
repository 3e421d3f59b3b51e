import KeyedAccess.Proofs.Schema.Layout
import Mathlib.Data.List.Chain

/-!
# Tight texts

A text may leave out the blanks beside a mark, and a keyword may be a name behind a mark of a type
where only a name can go on. A text of tokens that are told apart in this way is cut into these
tokens again, as far as the reader takes them.
-/

namespace KeyedAccess.Schema

open Text

/-- Whether nothing but a name is a word behind a token, wherever it stands. -/
def Token.announces : Token → Bool
  | .mark .dot | .mark .less | .mark .comma => true
  | _ => false

/-- A token with the blanks in front of it may stand behind another one. -/
structure Follows (a b : List Char × Token) : Prop where
  /-- Two words do not grow together. -/
  apart : b.1 ≠ [] ∨ (∃ m, a.2 = .mark m) ∨ ∃ m, b.2 = .mark m
  /-- A name that is a keyword stands only where none can. -/
  told : b.2.Proper ∨ a.2.announces = true ∧ b.2.Legible

/-- A mark may stand behind everything. -/
theorem follows_mark (a : List Char × Token) (gap : List Char) (m : Mark) :
    Follows a (gap, .mark m) := ⟨.inr (.inr ⟨m, rfl⟩), .inl trivial⟩

/-- Every name may stand directly behind a mark that announces one. -/
theorem follows_name {m : Mark} (hm : (Token.mark m).announces = true) {name : String}
    (hn : IsName name) (before gap : List Char) : Follows (before, .mark m) (gap, .name name) :=
  ⟨.inr (.inl ⟨m, rfl⟩), .inr ⟨hm, hn⟩⟩

/-- Within a type a mark announces a name or no word at all. -/
theorem TypeMove.words {frames : List Frame} {spot : Spot} {t : Token} {next : List Frame × Spot}
    (h : TypeMove frames spot t next) (ht : t.announces = true)
    (hn : next.2.context.names = true) : next.2.context.words = [] := by
  cases h with
  | dot | openArguments | nextArgument => rfl
  | rankComma => cases hn
  | _ => cases ht

/-- Behind a token that announces a name no keyword may stand, if a name may. -/
theorem Place.Moves.words {place next : Place} {t : Token} (h : place.Moves t next)
    (ht : t.announces = true) (hn : next.context.names = true) : next.context.words = [] := by
  cases h with
  | scopeDot | nextBase | parameterComma => rfl
  | typing slot h => exact h.words ht hn
  | _ => cases ht

/-- So it is behind every such token that a reader takes. -/
theorem State.Steps.words {s next : State} {t : Token} (h : s.Steps t next)
    (ht : t.announces = true) (hn : next.place.context.names = true) :
    next.place.context.words = [] := by
  induction h with
  | direct h =>
    cases h with
    | endScope | endBody => cases ht
    | move items h => exact h.words ht hn
  | settle _ _ ih => exact ih ht hn

/-- A name is cut off where no keyword may stand. -/
theorem lexeme_name {context : Context} (hn : context.names = true) (hw : context.words = [])
    {name : String} (ht : IsName name) {behind : List Char}
    (hb : ∀ c ∈ behind.head?, isAsciiNameChar c = false) :
    lexeme context ((Token.name name).text.toList ++ behind) = some (.name name, behind) := by
  rw [Token.text, lexeme_nameChars hn ht hb, Context.classify, hw]
  cases Word.ofText? name <;> rfl

/-- A mark is no part of a word. -/
theorem Mark.not_nameChar (m : Mark) : isAsciiNameChar m.char = false := by cases m <;> decide

/-- Behind a token no word goes on with it. -/
theorem Follows.head_not_nameChar {a b : List Char × Token} (h : Follows a b)
    (ha : ∀ m, a.2 ≠ .mark m) (hb : Blank b.1) (behind : List Char) :
    ∀ c ∈ (b.1 ++ (b.2.text.toList ++ behind)).head?, isAsciiNameChar c = false := by
  obtain ⟨gap, t⟩ := b
  cases gap with
  | cons d gap => exact hb.head_not_nameChar
  | nil =>
    obtain hn | ⟨m, hm⟩ | ⟨m, hm⟩ := h.apart
    · exact absurd rfl hn
    · exact absurd hm (ha m)
    · cases hm
      intro c hc
      rw [List.nil_append, Token.text, String.toList_singleton] at hc
      cases hc
      exact m.not_nameChar

/-- Tokens that the reader takes, each of which may stand behind the one before, are cut off and
taken. -/
theorem scan_of_follows {s last : State} {parts : List (List Char × Token)}
    (hr : s.run (parts.map Prod.snd) = some last) (hb : ∀ part ∈ parts, Blank part.1)
    (hc : parts.IsChain Follows) (hfirst : ∀ part ∈ parts.head?, part.2.Proper ∨
      (s.place.context.names = true → s.place.context.words = []) ∧ part.2.Legible)
    {rest : List Char} (hrest : ∀ c ∈ rest.head?, isAsciiNameChar c = false) :
    Scan s (written parts ++ rest) parts last rest := by
  induction parts generalizing s with
  | nil =>
    cases hr
    exact .nil ..
  | cons part parts ih =>
    obtain ⟨gap, t⟩ := part
    obtain ⟨next, hstep, hrun⟩ := Option.bind_eq_some_iff.mp hr
    obtain ⟨hhead, htail⟩ := List.isChain_cons.mp hc
    have hends : (∀ m, t ≠ .mark m) →
        ∀ c ∈ (written parts ++ rest).head?, isAsciiNameChar c = false := by
      intro ht
      cases parts with
      | nil => exact hrest
      | cons following parts =>
        rw [written_cons, List.append_assoc, List.append_assoc]
        exact (hhead following rfl).head_not_nameChar ht
          (hb following (List.mem_cons_of_mem _ List.mem_cons_self)) _
    have hadmits := State.admits_of_step hstep
    have hl : lexeme s.place.context (t.text.toList ++ (written parts ++ rest)) =
        some (t, written parts ++ rest) := by
      cases t with
      | mark m => exact lexeme_mark hadmits _
      | word w => exact lexeme_of_admits hadmits trivial (hends fun _ => Token.noConfusion)
      | name name =>
        have hplain := hends fun _ => Token.noConfusion
        obtain hproper | ⟨hwords, hlegible⟩ := hfirst _ rfl
        · exact lexeme_of_admits hadmits hproper hplain
        · exact lexeme_name hadmits (hwords hadmits) hlegible hplain
    rw [written_cons, List.append_assoc, List.append_assoc]
    refine .cons (hb _ List.mem_cons_self) hl hstep (ih hrun
      (fun part hp => hb part (List.mem_cons_of_mem _ hp)) htail fun following hf => ?_)
    exact (hhead following hf).told.imp id fun h =>
      ⟨(State.steps_of_eq_some hstep).words h.1, h.2⟩

end KeyedAccess.Schema
