import KeyedAccess.Proofs.Schema.Derivation
import KeyedAccess.Proofs.Schema.Scanning

/-!
# Accepted texts are derived

A text without errors of syntax consists of blanks and of tokens whose classes have exactly one
derivation, and what is declared is what the file of this derivation declares.
-/

namespace KeyedAccess.Schema

/-- A text is written for a derivation that gives a file. -/
structure Derived (text : List Char) (d : Derivation (.rule .start)) (f : File) : Prop where
  /-- The text consists of the tokens of the file with blanks in front of each and at the end. -/
  cut : ∃ parts trailing, text = written parts ++ trailing ∧
    (∀ part ∈ parts, Blank part.1 ∧ part.2.Legible) ∧ Trailing trailing ∧
    parts.map Prod.snd = tokensOfFile f
  /-- The derivation gives the classes of the tokens. -/
  terminals : d.terminals = (tokensOfFile f).map Token.terminal
  /-- No other one does. -/
  unique : ∀ e : Derivation (.rule .start), e.terminals = d.terminals → e = d
  /-- The file is what the derivation gives. -/
  gives : d.Gives f

/-- A text that is read is written for a derivation of what is read. -/
theorem derived_of_readFile {text : List Char} {f : File} (h : readFile text = .ok f) :
    ∃ d, Derived text d f := by
  have hend := ending_readFrom .start text text
  rw [show readFrom .start text text = .ok f from h] at hend
  cases hend with
  | @file parts s rest _ hscan hrest hfinish =>
    have hreads : State.start.reads (parts.map Prod.snd) = some f := by
      rw [← List.append_nil (parts.map Prod.snd), hscan.reads_append]
      exact hfinish
    obtain ⟨d, hd, ht, hu⟩ := exists_derivation f
    exact ⟨d, ⟨parts, rest, hscan.eq_written, hscan.legible, hrest,
      (tokensOfFile_of_reads hreads).symm⟩, ht, hu, hd⟩

/-- A text that is refused by no token and no character is derived, and what is returned is what the
derivation declares. -/
theorem derived_of_parse {text : String}
    (h : ∀ e, parse text = .error e → e.position? = none) :
    ∃ d f, Derived text.toList d f ∧ ∀ out, parse text = .ok out →
      f.Meaningful ∧ out = declarationsFrom none f ∧ f.Declares out := by
  cases hr : readFile text.toList with
  | error refusal =>
    have hp := h _ (parse_of_error hr)
    cases refusal <;> cases hp
  | ok f =>
    obtain ⟨d, hd⟩ := derived_of_readFile hr
    refine ⟨d, f, hd, fun out ho => ?_⟩
    obtain ⟨g, hg, hm⟩ := exists_readFile_of_parse ho
    cases hr.symm.trans hg
    obtain ⟨hmeaning, hout⟩ := meaning_eq_ok_iff.mp hm
    exact ⟨hmeaning, hout, hout ▸ File.declares_declarationsFrom hmeaning.blocks⟩

/-- A class and its field are called as keywords, and no blank stands where none is needed. -/
theorem derived_class :
    (∀ e, parse "class get\x7brecord:init\x7d" = .error e → e.position? = none) ∧
      ∃ d f, Derived "class get\x7brecord:init\x7d".toList d f ∧
        ∀ out, parse "class get\x7brecord:init\x7d" = .ok out →
          f.Meaningful ∧ out = declarationsFrom none f ∧ f.Declares out := by
  have hread : readFile "class get\x7brecord:init\x7d".toList = .ok
      [.type ⟨⟨[], .cls, "get"⟩, none, [],
        [⟨[], .field "record" (.mk ⟨"init", []⟩ [] [] false) false⟩]⟩] := by
    rw [readFile]
    repeat rw [readFrom_token rfl rfl rfl]
    exact readFrom_blank rfl rfl
  have hparse : ∀ e, parse "class get\x7brecord:init\x7d" = .error e → e.position? = none := by
    intro e he
    rw [parse_of_ok hread] at he
    cases he
  exact ⟨hparse, derived_of_parse hparse⟩

end KeyedAccess.Schema
