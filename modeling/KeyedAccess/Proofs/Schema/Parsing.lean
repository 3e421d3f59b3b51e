import KeyedAccess.Proofs.Schema.Meaning
import KeyedAccess.Proofs.Schema.Reading

/-!
# Parsing written files

Every file whose names are no keywords and which has a meaning can be written down and parsed again:
whatever blanks stand between its tokens, the parser answers with what the file declares.
-/

namespace KeyedAccess.Schema

/-- A file that can be written so that its names are read as names, and that has a meaning. -/
structure File.WellFormed (f : File) : Prop where
  /-- The names are written like names, and none is a keyword. -/
  names : ∀ t ∈ tokensOfFile f, t.Proper
  /-- The file has a meaning. -/
  meaningful : f.Meaningful

/-- The tree of a written file is read again. -/
theorem readFile_spell {f : File} (hf : ∀ t ∈ tokensOfFile f, t.Proper) {lead : List Char}
    (hl : Blank lead) {spaced : List (Token × List Char)} (hs : Spaced spaced)
    (ht : spaced.map Prod.fst = tokensOfFile f) : readFile (lead ++ spell spaced) = .ok f := by
  refine readFrom_spell hs (fun part hp => ?_) hl ?_ _
  · exact hf part.1 (ht ▸ List.mem_map_of_mem hp)
  · rw [ht]
    exact start_reads_tokensOfFile f

/-- A well-formed file, written with any blanks, is parsed as the declarations in it. -/
theorem parse_eq_declarationsFrom {f : File} (hf : f.WellFormed) {lead : List Char}
    (hl : Blank lead) {spaced : List (Token × List Char)} (hs : Spaced spaced)
    (ht : spaced.map Prod.fst = tokensOfFile f) :
    parse (String.ofList (lead ++ spell spaced)) = .ok (declarationsFrom none f) := by
  have hm : meaning f = .ok (declarationsFrom none f) := meaning_eq_ok_iff.mpr ⟨hf.meaningful, rfl⟩
  simp only [parse, parseChars, String.toList_ofList, readFile_spell hf.names hl hs ht, hm]

/-- The same blanks may stand behind every token. -/
theorem spaced_map {gap : List Char} (hg : Blank gap) (hn : gap ≠ []) (tokens : List Token) :
    Spaced (tokens.map fun t => (t, gap)) := by
  induction tokens with
  | nil => trivial
  | cons t rest ih => exact ⟨hg, fun _ => hn, ih⟩

/-- The text of a file with a space behind every token. -/
def File.text (f : File) : String :=
  String.ofList (spell ((tokensOfFile f).map fun t => (t, [' '])))

/-- The tokens of this text have blanks between them. -/
theorem File.spaced_text (f : File) :
    Spaced ((tokensOfFile f).map fun t => (t, [' '])) ∧
      ((tokensOfFile f).map fun t => (t, [' '])).map Prod.fst = tokensOfFile f := by
  refine ⟨spaced_map (.white rfl .nil) (List.cons_ne_nil _ _) _, ?_⟩
  rw [List.map_map]
  exact List.map_id _

/-- It is read as the file. -/
theorem File.readFile_text {f : File} (hf : ∀ t ∈ tokensOfFile f, t.Proper) :
    readFile f.text.toList = .ok f := by
  obtain ⟨hs, ht⟩ := f.spaced_text
  rw [File.text, String.toList_ofList]
  exact readFile_spell hf .nil hs ht

/-- It is parsed as the declarations in the file. -/
theorem File.parse_text {f : File} (hf : f.WellFormed) :
    parse f.text = .ok (declarationsFrom none f) := by
  obtain ⟨hs, ht⟩ := f.spaced_text
  exact parse_eq_declarationsFrom hf .nil hs ht

/-- Every well-formed file, written with any blanks, is parsed as what it declares. -/
theorem parse_spell {f : File} (hf : f.WellFormed) {lead : List Char} (hl : Blank lead)
    {spaced : List (Token × List Char)} (hs : Spaced spaced)
    (ht : spaced.map Prod.fst = tokensOfFile f) :
    ∃ out, parse (String.ofList (lead ++ spell spaced)) = .ok out ∧ f.Declares out :=
  ⟨declarationsFrom none f, parse_eq_declarationsFrom hf hl hs ht,
    File.declares_declarationsFrom hf.meaningful.blocks⟩

/-- A record with a positional parameter and a body, in a namespace. -/
def orderFile : File :=
  [.scope ⟨"Shop", ["Models"]⟩ true,
    .type
      { header := ⟨[.access .everyone, .augmentable], .record, "Order"⟩
        parameters := some [⟨"Id", .mk ⟨"Guid", []⟩ [] [] false⟩]
        bases := [.mk ⟨"Entity", []⟩ [] [] false]
        members :=
          [⟨[.access .owner], .property "Lines"
              (.mk ⟨"Map", []⟩ [.mk ⟨"int", []⟩ [] [] false, .mk ⟨"Line", []⟩ [] [1] true] [] false)
              [⟨.get, true⟩, ⟨.set, false⟩]⟩,
            ⟨[], .method "Close" [] none true⟩] }]

/-- The file of an order can be written with a comment behind every token. -/
theorem parse_orderFile : ∃ out,
    parse (String.ofList (['\n'] ++
      spell ((tokensOfFile orderFile).map fun t => (t, [' ', '#', 'x', '\n'])))) = .ok out ∧
    orderFile.Declares out := by
  have hc : Blank ('#' :: (['x'] ++ '\n' :: [])) := .comment (by decide) .nil
  refine parse_spell ⟨by decide +kernel, ?_⟩ (.white rfl .nil)
    (spaced_map (.white rfl hc) (by decide) _) ?_
  · exact (meaning_eq_ok_iff.mp (rfl : meaning orderFile = .ok (declarationsFrom none orderFile))).1
  · rw [List.map_map]
    exact List.map_id _

end KeyedAccess.Schema
