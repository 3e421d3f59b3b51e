import KeyedAccess.Proofs.Schema.History
import KeyedAccess.Proofs.Schema.Meaning
import KeyedAccess.Proofs.Text.Identifier

/-!
# The names of parsed declarations

The lexer cuts off only names that are written like names, so every name of a parsed declaration is
one: its identifier, the names of its members, and the names that its namespace joins by dots.
-/

namespace KeyedAccess.Schema

/-- A name is an identifier. -/
theorem IsName.isIdentifier {name : String} (h : IsName name) :
    Text.isIdentifier name.toList = true := by
  obtain ⟨first, rest, he, hf, hr⟩ := h
  rw [he]
  exact Text.isIdentifier_of_ascii hf hr

/-- A token whose text could be cut off; a name is written like one. -/
def Token.Legible : Token → Prop
  | .name text => IsName text
  | .word _ | .mark _ => True

/-- The lexer cuts off legible tokens. -/
theorem legible_of_lexeme {context : Context} {text rest : List Char} {t : Token}
    (h : lexeme context text = some (t, rest)) : t.Legible := by
  cases lexed_of_eq_some h with
  | mark | bare => trivial
  | @whole c _ _ hs rest =>
    have hname : IsName (String.ofList (c :: rest.takeWhile Text.isAsciiNameChar)) :=
      ⟨c, _, String.toList_ofList, hs, List.all_eq_true.mp List.all_takeWhile⟩
    unfold Context.classify
    split
    · split
      · trivial
      · exact hname
    · exact hname

/-- A text that is read is read as legible tokens. -/
theorem exists_reads_of_readFrom {s : State} {last text : List Char} {f : File}
    (h : readFrom s last text = .ok f) :
    ∃ tokens, (∀ t ∈ tokens, t.Legible) ∧ s.reads tokens = some f := by
  fun_induction readFrom s last text with
  | case1 s last text hskip f' hf =>
    cases h
    exact ⟨[], by simp, hf⟩
  | case2 => cases h
  | case3 s last text c rest hskip t behind hlex next hstep ih =>
    obtain ⟨tokens, hl, hr⟩ := ih h
    refine ⟨t :: tokens, ?_, ?_⟩
    · intro u hu
      rcases List.mem_cons.mp hu with rfl | hu
      · exact legible_of_lexeme hlex
      · exact hl u hu
    · rw [State.reads_cons, hstep]
      exact hr
  | case4 => cases h
  | case5 => cases h
  | case6 => cases h

/-- All tokens of a file that is read are legible. -/
theorem legible_of_readFile {text : List Char} {f : File} (h : readFile text = .ok f) :
    ∀ t ∈ tokensOfFile f, t.Legible := by
  obtain ⟨tokens, hl, hr⟩ := exists_reads_of_readFrom h
  rw [tokensOfFile_of_reads hr]
  exact hl

/-- A text that is parsed is read as a file of that meaning. -/
theorem exists_readFile_of_parse {text : String} {out : List Declaration}
    (h : parse text = .ok out) : ∃ f, readFile text.toList = .ok f ∧ meaning f = .ok out := by
  simp only [parse, parseChars] at h
  split at h
  · cases h
  · next f hf =>
    split at h
    · cases h
    · next out' hm =>
      cases h
      exact ⟨f, hf, hm⟩

/-- A text that is parsed is that of a meaningful file of legible tokens. -/
theorem exists_file_of_parse {text : String} {out : List Declaration} (h : parse text = .ok out) :
    ∃ f : File, (∀ t ∈ tokensOfFile f, t.Legible) ∧ f.Meaningful ∧
      out = declarationsFrom none f := by
  obtain ⟨f, hf, hm⟩ := exists_readFile_of_parse h
  exact ⟨f, legible_of_readFile hf, meaning_eq_ok_iff.mp hm⟩

/-- A path of names. -/
def Path.Legible (p : Path) : Prop := ∀ name ∈ p.head :: p.tail, IsName name

/-- A path of legible tokens is one of names. -/
theorem Path.legible_of_tokens {p : Path} (h : ∀ t ∈ p.tokens, t.Legible) : p.Legible := by
  intro name hn
  rcases List.mem_cons.mp hn with rfl | hn
  · exact h (.name p.head) List.mem_cons_self
  · refine h (.name name) (List.mem_cons_of_mem _ (List.mem_flatMap.mpr ⟨name, hn, ?_⟩))
    exact List.mem_cons_of_mem _ List.mem_cons_self

/-- The names of a declaration are written like names. -/
structure WellNamed (d : Declaration) : Prop where
  /-- So is that of the type. -/
  identifier : IsName d.identifier
  /-- So are those of the members. -/
  members : ∀ m ∈ d.members, IsName m.name
  /-- The namespace joins such names. -/
  scope : ∀ scope ∈ d.scope, ∃ p : Path, p.Legible ∧ scope = p.text

/-- Members of legible tokens have names that are written like names. -/
theorem MemberTree.isName_meaning {m : MemberTree} (h : ∀ t ∈ m.tokens, t.Legible) :
    IsName m.meaning.name := by
  obtain ⟨ms, form⟩ := m
  have hform : ∀ t ∈ form.tokens, t.Legible := fun t ht => h t (List.mem_append_right _ ht)
  cases form with
  | property name type block => exact hform (.name name) List.mem_cons_self
  | field name type terminated => exact hform (.name name) List.mem_cons_self
  | indexer before last type block => exact Word.this.isName
  | method name parameters result terminated => exact hform (.name name) List.mem_cons_self

private theorem name_mem_parameterTokens {ps : List Parameter} {p : Parameter} (h : p ∈ ps) :
    .name p.name ∈ parameterTokens ps := by
  rcases List.eq_nil_or_concat ps with rfl | ⟨before, last, rfl⟩
  · cases h
  · rw [List.concat_eq_append] at h ⊢
    rw [parameterTokens_concat]
    rcases List.mem_append.mp h with h | h
    · refine List.mem_append_left _ (List.mem_flatMap.mpr ⟨p, h, ?_⟩)
      exact List.mem_append_left _ List.mem_cons_self
    · obtain rfl := List.mem_singleton.mp h
      exact List.mem_append_right _ List.mem_cons_self

/-- A declaration of legible tokens is well named. -/
theorem TypeDeclaration.wellNamed_meaning {d : TypeDeclaration} (h : ∀ t ∈ d.tokens, t.Legible)
    {scope : Option String} (hs : ∀ s ∈ scope, ∃ p : Path, p.Legible ∧ s = p.text) :
    WellNamed (d.meaning scope) where
  identifier := by
    refine h (.name d.header.name) ?_
    simp [TypeDeclaration.tokens, TypeDeclaration.openTokens, Header.tokens]
  members := by
    have hbody : ∀ m ∈ d.members, ∀ t ∈ m.tokens, t.Legible := by
      intro m hm t ht
      refine h t ?_
      simp only [TypeDeclaration.tokens, TypeDeclaration.openTokens]
      exact List.mem_append_left _ (List.mem_append_right _
        (List.mem_cons_of_mem _ (List.mem_flatMap.mpr ⟨m, hm, ht⟩)))
    intro m hm
    rcases List.mem_append.mp hm with hm | hm
    · obtain ⟨-, ps, hp, p, hpm, -, rfl⟩ := mem_positional_iff.mp hm
      have hps : ∀ t ∈ parameterTokens ps, t.Legible := by
        intro t ht
        refine h t ?_
        simp only [TypeDeclaration.tokens, TypeDeclaration.openTokens, hp, optionalParameters,
          parenthesized]
        exact List.mem_append_left _ (List.mem_append_left _ (List.mem_append_left _
          (List.mem_append_right _ (List.mem_cons_of_mem _ (List.mem_append_left _ ht)))))
      exact hps _ (name_mem_parameterTokens hpm)
    · obtain ⟨tree, ht, rfl⟩ := List.mem_map.mp hm
      exact tree.isName_meaning (hbody tree ht)
  scope := hs

/-- All declarations of a file of legible tokens are well named. -/
theorem wellNamed_declarationsFrom {f : File} (h : ∀ t ∈ tokensOfFile f, t.Legible)
    {scope : Option String} (hs : ∀ s ∈ scope, ∃ p : Path, p.Legible ∧ s = p.text) :
    ∀ d ∈ declarationsFrom scope f, WellNamed d := by
  induction f generalizing scope with
  | nil => exact fun d hd => absurd hd List.not_mem_nil
  | cons item f ih =>
    have hitem : ∀ t ∈ item.tokens, t.Legible := fun t ht => h t (List.mem_append_left _ ht)
    have hrest : ∀ t ∈ tokensOfFile f, t.Legible := fun t ht => h t (List.mem_append_right _ ht)
    cases item with
    | scope p terminated =>
      have hp : p.Legible := Path.legible_of_tokens fun t ht =>
        hitem t (List.mem_cons_of_mem _ (List.mem_append_left _ ht))
      refine ih hrest fun s hs => ⟨p, hp, ?_⟩
      cases hs
      rfl
    | type d =>
      intro d' hd
      rcases List.mem_cons.mp hd with rfl | hd
      · exact d.wellNamed_meaning hitem hs
      · exact ih hrest hs d' hd

/-- All declarations of a text that is parsed are well named. -/
theorem wellNamed_of_parse {text : String} {out : List Declaration} (h : parse text = .ok out) :
    ∀ d ∈ out, WellNamed d := by
  obtain ⟨f, hl, -, rfl⟩ := exists_file_of_parse h
  exact wellNamed_declarationsFrom hl (by simp)

end KeyedAccess.Schema
