import KeyedAccess.Proofs.Schema.Faults
import KeyedAccess.Proofs.Schema.Parsing
import KeyedAccess.Proofs.Schema.Rewriting
import KeyedAccess.Proofs.Schema.Scanning

/-!
# What becomes of a text

A text whose tokens are no sentence is refused, whatever else is wrong with it. Any other text has
one file, and this file either has a meaning or a reason why it has none; the syntax tree gives the
same and has no other way to fail.
-/

namespace KeyedAccess.Schema

/-- The tokens of a whole text, cut off one after the other as the reader takes them. -/
def Stream (text : List Char) (tokens : List Token) : Prop :=
  ∃ parts s rest, Scan .start text parts s rest ∧ Trailing rest ∧ parts.map Prod.snd = tokens

/-- A text is read as a file exactly if its tokens are those of the file. -/
theorem readFile_eq_ok_iff_stream {text : List Char} {f : File} :
    readFile text = .ok f ↔ Stream text (tokensOfFile f) := by
  rw [readFile_eq_ok_iff]
  constructor
  · rintro ⟨parts, s, rest, hscan, hrest, hfinish⟩
    have hreads : State.start.reads (parts.map Prod.snd) = some f := by
      rw [← List.append_nil (parts.map Prod.snd), hscan.reads_append]
      exact hfinish
    exact ⟨parts, s, rest, hscan, hrest, (tokensOfFile_of_reads hreads).symm⟩
  · rintro ⟨parts, s, rest, hscan, hrest, htokens⟩
    refine ⟨parts, s, rest, hscan, hrest, ?_⟩
    have hreads := start_reads_tokensOfFile f
    rw [← htokens, State.reads, hscan.run, Option.bind_some] at hreads
    exact hreads

/-- What becomes of a text that is read as a file. -/
structure Outcome (text : String) (f : File) : Prop where
  /-- The file has a meaning, or there is a reason why not. -/
  decided : f.Meaningful ∨ ∃ e, f.Fails e
  /-- What has a meaning is parsed as that. -/
  meaningful : f.Meaningful → parse text = .ok (declarationsFrom none f)
  /-- Any reason why there is none is the error. -/
  fails : ∀ e, f.Fails e → parse text = .error (.invalid e)
  /-- So is it if the meaning is found by rewriting the syntax tree of any derivation. -/
  tree : ∀ d : Derivation (.rule .start), d.terminals = (tokensOfFile f).map Token.terminal →
    (f.Meaningful → (d.tree (tokensOfFile f)).meaning = .ok (declarationsFrom none f)) ∧
      ∀ e, f.Fails e → (d.tree (tokensOfFile f)).meaning = .error (.invalid e.message)

/-- The outcome for a text is that of the file that it is read as. -/
theorem outcome_of_readFile {text : String} {f : File} (h : readFile text.toList = .ok f) :
    Outcome text f := by
  have hmeaningful : f.Meaningful → meaning f = .ok (declarationsFrom none f) := fun hm =>
    meaning_eq_ok_iff.mpr ⟨hm, rfl⟩
  refine ⟨?_, fun hm => ?_, fun e he => ?_, fun d hd => ?_⟩
  · cases hm : meaning f with
    | ok out => exact .inl (meaning_eq_ok_iff.mp hm).1
    | error e => exact .inr ⟨e, meaning_eq_error_iff.mp hm⟩
  · rw [parse_of_ok h, hmeaningful hm]
    rfl
  · rw [parse_of_ok h, meaning_eq_error_iff.mpr he]
    rfl
  · obtain ⟨g, hg, htokens⟩ := d.exists_gives hd.symm
    obtain rfl : g = f := tokensOfFile_injective htokens
    rw [hg.meaning_tree]
    refine ⟨fun hm => ?_, fun e he => ?_⟩
    · rw [hmeaningful hm]
      rfl
    · rw [meaning_eq_error_iff.mpr he]
      rfl

/-- A text whose tokens are a sentence is read as a file and gets what the file means or the first
reason why it means nothing. Every other text gets an error of syntax. -/
theorem outcome_of_parse (text : String) :
    (∀ tokens, Stream text.toList tokens → Sentence (tokens.map Token.terminal) →
      ∃ f, tokensOfFile f = tokens ∧ Outcome text f) ∧
    ((∀ tokens, Stream text.toList tokens → ¬ Sentence (tokens.map Token.terminal)) →
      ∃ e, parse text = .error e ∧ e.position? ≠ none) := by
  constructor
  · intro tokens hstream hsentence
    obtain ⟨f, rfl⟩ := sentence_terminals_iff.mp hsentence
    exact ⟨f, rfl, outcome_of_readFile (readFile_eq_ok_iff_stream.mpr hstream)⟩
  · intro hno
    cases hr : readFile text.toList with
    | ok f =>
      exact absurd (sentence_terminals_iff.mpr ⟨f, rfl⟩)
        (hno _ (readFile_eq_ok_iff_stream.mp hr))
    | error refusal =>
      refine ⟨_, parse_of_error hr, ?_⟩
      cases refusal <;> exact Option.some_ne_none _

/-- A file with several mistakes: an accessor is repeated in one block, another block is empty, and
a name is declared again. -/
def careless : File :=
  [.type ⟨⟨[], .cls, "A"⟩, none, [],
      [⟨[], .property "x" (.mk ⟨"int", []⟩ [] [] false) [⟨.get, false⟩, ⟨.get, true⟩]⟩]⟩,
    .type ⟨⟨[], .struct, "A"⟩, none, [],
      [⟨[], .property "y" (.mk ⟨"int", []⟩ [] [] false) []⟩]⟩]

/-- Its first mistake is the error. -/
theorem parse_careless :
    parse careless.text = .error (.invalid (.repeatedAccessor [.get, .get])) := by
  have hstream : Stream careless.text.toList (tokensOfFile careless) :=
    readFile_eq_ok_iff_stream.mp (File.readFile_text (by decide +kernel))
  obtain ⟨f, hf, hout⟩ := (outcome_of_parse careless.text).1 _ hstream
    (sentence_terminals_iff.mpr ⟨careless, rfl⟩)
  obtain rfl := tokensOfFile_injective hf
  exact hout.fails _ (meaning_eq_error_iff.mp rfl)

end KeyedAccess.Schema
