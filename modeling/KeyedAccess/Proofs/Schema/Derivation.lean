import KeyedAccess.Proofs.Schema.Grammar

/-!
# Derivations of files

A derivation gives the values that differ only in the names, and every file is given by one. A value
determines its derivation, because every rule keeps all that its parts say, and the tokens of a file
determine the file, because the reader finds it. So no sequence of classes has two derivations.
-/

namespace KeyedAccess.Schema

/-! ## What a derivation gives -/

/-- A derivation gives a value: the choices are those of the value, and each rule builds its value
from its parts. Only the names are not in the derivation. -/
def Derivation.Gives {s : Form} : Derivation s → s.Value → Prop
  | token _, _ => True
  | choice _ i, v => i = v
  | rule r d, v => ∃ w, d.Gives w ∧ r.build w = v
  | seq first second, v => first.Gives v.1 ∧ second.Gives v.2
  | left d, v => ∃ w, d.Gives w ∧ .inl w = v
  | right d, v => ∃ w, d.Gives w ∧ .inr w = v
  | absent, v => none = v
  | present d, v => ∃ w, d.Gives w ∧ some w = v
  | nil, v => [] = v
  | cons d rest, v => ∃ w ws, d.Gives w ∧ rest.Gives ws ∧ w :: ws = v

/-- The tokens of a value have the classes of its derivation. -/
theorem Derivation.Gives.terminals {s : Form} {d : Derivation s} {v : s.Value} (h : d.Gives v) :
    (s.tokens v).map Token.terminal = d.terminals := by
  induction d with
  | token t => cases t <;> rfl
  | choice options i =>
    obtain rfl := h
    rfl
  | rule r d ih =>
    obtain ⟨w, hw, rfl⟩ := h
    rw [Form.tokens, r.tokens_build]
    exact ih hw
  | seq first second ih₁ ih₂ =>
    rw [Form.tokens, List.map_append, ih₁ h.1, ih₂ h.2, Derivation.terminals]
  | left d ih =>
    obtain ⟨w, hw, rfl⟩ := h
    exact ih hw
  | right d ih =>
    obtain ⟨w, hw, rfl⟩ := h
    exact ih hw
  | absent =>
    obtain rfl := h
    rfl
  | present d ih =>
    obtain ⟨w, hw, rfl⟩ := h
    exact ih hw
  | nil =>
    obtain rfl := h
    rfl
  | cons d rest ih₁ ih₂ =>
    obtain ⟨w, ws, hw, hws, rfl⟩ := h
    rw [Form.tokens, List.flatMap_cons, List.map_append, ih₁ hw, Derivation.terminals]
    exact congrArg _ (ih₂ hws)

section Inversion

variable {a b : Form}

/-- What a rule builds is given by the rule, from the parts that it was built from. -/
private theorem Derivation.Gives.of_build {r : Rule} {e : Derivation (.rule r)} {w : r.body.Value}
    (h : e.Gives (r.build w)) : ∃ d, e = .rule r d ∧ d.Gives w := by
  cases e with
  | rule r d =>
    obtain ⟨w', hw, hv⟩ := h
    obtain rfl := r.build_injective hv
    exact ⟨d, rfl, hw⟩

private theorem Derivation.Gives.of_inl {e : Derivation (.either a b)} {v : a.Value}
    (h : e.Gives (.inl v)) : ∃ d, e = .left d ∧ d.Gives v := by
  cases e with
  | left d =>
    obtain ⟨w, hw, hv⟩ := h
    obtain rfl := Sum.inl.inj hv
    exact ⟨d, rfl, hw⟩
  | right d =>
    obtain ⟨w, -, hv⟩ := h
    cases hv

private theorem Derivation.Gives.of_inr {e : Derivation (.either a b)} {v : b.Value}
    (h : e.Gives (.inr v)) : ∃ d, e = .right d ∧ d.Gives v := by
  cases e with
  | left d =>
    obtain ⟨w, -, hv⟩ := h
    cases hv
  | right d =>
    obtain ⟨w, hw, hv⟩ := h
    obtain rfl := Sum.inr.inj hv
    exact ⟨d, rfl, hw⟩

private theorem Derivation.Gives.of_none {e : Derivation (.optional a)} (h : e.Gives none) :
    e = .absent := by
  cases e with
  | absent => rfl
  | present d =>
    obtain ⟨w, -, hv⟩ := h
    cases hv

private theorem Derivation.Gives.of_some {e : Derivation (.optional a)} {v : a.Value}
    (h : e.Gives (some v)) : ∃ d, e = .present d ∧ d.Gives v := by
  cases e with
  | absent => cases h
  | present d =>
    obtain ⟨w, hw, hv⟩ := h
    obtain rfl := Option.some.inj hv
    exact ⟨d, rfl, hw⟩

private theorem Derivation.Gives.of_nil {e : Derivation (.many a)} (h : e.Gives []) :
    e = .nil := by
  cases e with
  | nil => rfl
  | cons d rest =>
    obtain ⟨w, ws, -, -, hv⟩ := h
    cases hv

private theorem Derivation.Gives.of_cons {e : Derivation (.many a)} {v : a.Value}
    {vs : List a.Value} (h : e.Gives (v :: vs)) :
    ∃ d rest, e = .cons d rest ∧ d.Gives v ∧ rest.Gives vs := by
  cases e with
  | nil => cases h
  | cons d rest =>
    obtain ⟨w, ws, hw, hws, hv⟩ := h
    obtain ⟨rfl, rfl⟩ := List.cons.inj hv
    exact ⟨d, rest, rfl, hw, hws⟩

end Inversion

/-- A value is given by one derivation at most. -/
theorem Derivation.Gives.unique {s : Form} {d e : Derivation s} {v : s.Value} (hd : d.Gives v)
    (he : e.Gives v) : d = e := by
  induction d with
  | token t =>
    cases e
    rfl
  | choice options i =>
    cases e
    obtain rfl := hd
    obtain rfl := he
    rfl
  | rule r d ih =>
    obtain ⟨w, hw, rfl⟩ := hd
    obtain ⟨d', rfl, hw'⟩ := he.of_build
    rw [ih hw hw']
  | seq first second ih₁ ih₂ =>
    cases e with
    | seq first' second' => rw [ih₁ hd.1 he.1, ih₂ hd.2 he.2]
  | left d ih =>
    obtain ⟨w, hw, rfl⟩ := hd
    obtain ⟨d', rfl, hw'⟩ := he.of_inl
    rw [ih hw hw']
  | right d ih =>
    obtain ⟨w, hw, rfl⟩ := hd
    obtain ⟨d', rfl, hw'⟩ := he.of_inr
    rw [ih hw hw']
  | absent =>
    obtain rfl := hd
    exact he.of_none.symm
  | present d ih =>
    obtain ⟨w, hw, rfl⟩ := hd
    obtain ⟨d', rfl, hw'⟩ := he.of_some
    rw [ih hw hw']
  | nil =>
    obtain rfl := hd
    exact he.of_nil.symm
  | cons d rest ih₁ ih₂ =>
    obtain ⟨w, ws, hw, hws, rfl⟩ := hd
    obtain ⟨d', rest', rfl, hw', hws'⟩ := he.of_cons
    rw [ih₁ hw hw', ih₂ hws hws']

/-- Tokens of the classes of a derivation are those of a value that it gives. -/
theorem Derivation.exists_gives {s : Form} (d : Derivation s) {tokens : List Token}
    (h : tokens.map Token.terminal = d.terminals) : ∃ v, d.Gives v ∧ s.tokens v = tokens := by
  induction d generalizing tokens with
  | token t =>
    obtain ⟨u, rfl, hu⟩ := List.map_eq_singleton_iff.mp h
    cases u with
    | name text =>
      cases hu
      exact ⟨text, trivial, rfl⟩
    | word w =>
      cases hu
      exact ⟨(), trivial, rfl⟩
    | mark m =>
      cases hu
      exact ⟨(), trivial, rfl⟩
  | choice options i =>
    obtain ⟨u, rfl, hu⟩ := List.map_eq_singleton_iff.mp h
    cases u <;> cases hu
    exact ⟨i, rfl, rfl⟩
  | rule r d ih =>
    obtain ⟨w, hw, ht⟩ := ih h
    exact ⟨r.build w, ⟨w, hw, rfl⟩, (r.tokens_build w).trans ht⟩
  | seq first second ih₁ ih₂ =>
    obtain ⟨left, right, rfl, hl, hr⟩ := List.map_eq_append_iff.mp h
    obtain ⟨v, hv, htv⟩ := ih₁ hl
    obtain ⟨w, hw, htw⟩ := ih₂ hr
    exact ⟨(v, w), ⟨hv, hw⟩, by rw [Form.tokens, htv, htw]⟩
  | left d ih =>
    obtain ⟨w, hw, ht⟩ := ih h
    exact ⟨.inl w, ⟨w, hw, rfl⟩, ht⟩
  | right d ih =>
    obtain ⟨w, hw, ht⟩ := ih h
    exact ⟨.inr w, ⟨w, hw, rfl⟩, ht⟩
  | absent => exact ⟨none, rfl, (List.map_eq_nil_iff.mp h).symm⟩
  | present d ih =>
    obtain ⟨w, hw, ht⟩ := ih h
    exact ⟨some w, ⟨w, hw, rfl⟩, ht⟩
  | nil => exact ⟨[], rfl, (List.map_eq_nil_iff.mp h).symm⟩
  | cons d rest ih₁ ih₂ =>
    obtain ⟨left, right, rfl, hl, hr⟩ := List.map_eq_append_iff.mp h
    obtain ⟨w, hw, htw⟩ := ih₁ hl
    obtain ⟨ws, hws, htws⟩ := ih₂ hr
    have htokens : (Form.many _).tokens (w :: ws) = left ++ right :=
      congr (congrArg _ htw) htws
    exact ⟨w :: ws, ⟨w, ws, hw, hws, rfl⟩, htokens⟩

/-! ## Every file is derived -/

/-- A value that some derivation gives. -/
def Derivable (s : Form) (v : s.Value) : Prop := ∃ d : Derivation s, d.Gives v

section

variable {a b : Form}

/-- A token is derived. -/
theorem Derivable.token (t : Terminal) (v : t.Value) : Derivable (.token t) v := ⟨.token t, trivial⟩

/-- So is each of several keywords. -/
theorem Derivable.choice (options : List Word) (i : Fin options.length) :
    Derivable (.choice options) i := ⟨.choice options i, rfl⟩

/-- What is built from derived parts is derived. -/
theorem Derivable.rule (r : Rule) (w : r.body.Value) (h : Derivable r.body w) {v : r.Value}
    (hv : r.build w = v) : Derivable (.rule r) v := by
  obtain ⟨d, hd⟩ := h
  exact ⟨.rule r d, w, hd, hv⟩

/-- Parts are derived one after the other. -/
theorem Derivable.seq {v : a.Value} {w : b.Value} (hv : Derivable a v) (hw : Derivable b w) :
    Derivable (.seq a b) (v, w) := by
  obtain ⟨d, hd⟩ := hv
  obtain ⟨e, he⟩ := hw
  exact ⟨.seq d e, hd, he⟩

/-- One of two parts is derived. -/
theorem Derivable.left {v : a.Value} (h : Derivable a v) : Derivable (.either a b) (.inl v) := by
  obtain ⟨d, hd⟩ := h
  exact ⟨.left d, v, hd, rfl⟩

/-- Or the other one is. -/
theorem Derivable.right {v : b.Value} (h : Derivable b v) : Derivable (.either a b) (.inr v) := by
  obtain ⟨d, hd⟩ := h
  exact ⟨.right d, v, hd, rfl⟩

/-- A part may be left out. -/
theorem Derivable.absent : Derivable (.optional a) none := ⟨.absent, rfl⟩

/-- It may be there. -/
theorem Derivable.present {v : a.Value} (h : Derivable a v) : Derivable (.optional a) (some v) := by
  obtain ⟨d, hd⟩ := h
  exact ⟨.present d, v, hd, rfl⟩

/-- It is derived whether or not it is there. -/
theorem Derivable.optional {v : Option a.Value} (h : ∀ w ∈ v, Derivable a w) :
    Derivable (.optional a) v := by
  cases v with
  | none => exact .absent
  | some w => exact .present (h w rfl)

/-- Any number of derived parts is derived. -/
theorem Derivable.many {vs : List a.Value} (h : ∀ v ∈ vs, Derivable a v) :
    Derivable (.many a) vs := by
  induction vs with
  | nil => exact ⟨.nil, rfl⟩
  | cons v vs ih =>
    obtain ⟨d, hd⟩ := h v List.mem_cons_self
    obtain ⟨e, he⟩ := ih fun w hw => h w (List.mem_cons_of_mem _ hw)
    exact ⟨.cons d e, v, vs, hd, he, rfl⟩

/-- A mark in front of each of several values. -/
def marked {α : Type} (values : List α) : List (Unit × α) := values.map fun v => ((), v)

@[simp]
private theorem map_snd_marked {α : Type} (values : List α) :
    (marked values).map (·.2) = values := by
  rw [marked, List.map_map]
  exact List.map_id _

/-- One derived part or more with a mark between them. -/
theorem Derivable.list (m : Mark) {first : a.Value} {others : List a.Value}
    (h : ∀ v ∈ first :: others, Derivable a v) :
    Derivable (.list m a) (first, marked others) := by
  refine (h first List.mem_cons_self).seq (.many fun v hv => ?_)
  obtain ⟨w, hw, rfl⟩ := List.mem_map.mp hv
  exact (Derivable.token _ _).seq (h w (List.mem_cons_of_mem _ hw))

private theorem exists_isSome (given : Bool) : ∃ v : Option Unit, v.isSome = given := by
  cases given with
  | true => exact ⟨some (), rfl⟩
  | false => exact ⟨none, rfl⟩

/-- A semicolon that may be left out. -/
theorem Derivable.semicolon (v : Option Unit) : Derivable (.optional (.mark .semicolon)) v :=
  .optional fun _ _ => .token _ _

private theorem derivable_names (p : Path) :
    Derivable (.list .dot .name) (p.head, marked p.tail) ∧ pathOf (p.head, marked p.tail) = p :=
  ⟨.list .dot fun _ _ => .token _ _, by rw [pathOf, map_snd_marked]⟩

private theorem derivable_rank (commas : Nat) : Derivable (.rule .arraySuffix) commas :=
  .rule .arraySuffix ((), List.replicate commas (), ())
    ((Derivable.token _ _).seq ((Derivable.many fun _ _ => .token _ _).seq (.token _ _)))
    List.length_replicate

end

/-- Types are derived, with their arguments. -/
theorem TypeTree.derivable : (tree : TypeTree) → Derivable (.rule .type) tree
  | .mk p arguments ranks nullable => by
    have harguments : ∀ type ∈ arguments, Derivable (.rule .type) type := fun type _ =>
      type.derivable
    have hpath : Derivable (.rule .typeName) p :=
      .rule .typeName _ (derivable_names p).1 (derivable_names p).2
    have hranks : Derivable (.many (.rule .arraySuffix)) ranks := .many fun n _ => derivable_rank n
    obtain ⟨v, hnullable⟩ := exists_isSome nullable
    have hmark : Derivable (.optional (.rule .nullable)) v :=
      .optional fun _ _ => .rule .nullable () (.token (.mark .question) ()) rfl
    cases arguments with
    | nil =>
      exact .rule .type (p, none, ranks, _)
        (hpath.seq (Derivable.absent.seq (hranks.seq hmark)))
        (congrArg (TypeTree.mk p [] ranks) hnullable)
    | cons first others =>
      have hlist : Derivable (.rule .typeArgs) (first, others) :=
        .rule .typeArgs ((), (first, marked others), ())
          ((Derivable.token _ _).seq ((Derivable.list .comma harguments).seq (.token _ _)))
          (Prod.ext rfl (map_snd_marked others))
      exact .rule .type (p, some (first, others), ranks, _)
        (hpath.seq (hlist.present.seq (hranks.seq hmark)))
        (congrArg (TypeTree.mk p (first :: others) ranks) hnullable)
termination_by tree => sizeOf tree
decreasing_by
  have := List.sizeOf_lt_of_mem ‹type ∈ arguments›
  simp only [TypeTree.mk.sizeOf_spec]
  omega

/-- Parameters are derived. -/
theorem Parameter.derivable (p : Parameter) : Derivable (.rule .parameter) p :=
  .rule .parameter (p.name, (), p.type)
    ((Derivable.token .name _).seq ((Derivable.token _ _).seq p.type.derivable)) rfl

/-- So is a list of parameters, which may be empty. -/
theorem derivable_parameters (ps : List Parameter) : ∃ v,
    Derivable (.optional (.list .comma (.rule .parameter))) v ∧ (v.map listOf).getD [] = ps := by
  cases ps with
  | nil => exact ⟨none, .absent, rfl⟩
  | cons first others =>
    refine ⟨some (first, marked others), .present (.list .comma fun p _ => p.derivable), ?_⟩
    exact congrArg (first :: ·) (map_snd_marked others)

/-- So are accessor blocks. -/
theorem derivable_block (block : List AccessorTree) : Derivable (.rule .accessors) block := by
  have haccessor : ∀ a : AccessorTree, Derivable (.rule .accessor) a := by
    rintro ⟨kind, terminated⟩
    obtain ⟨v, rfl⟩ := exists_isSome terminated
    obtain ⟨i, rfl⟩ : ∃ i, accessorOptions.get i = kind := by
      cases kind <;> decide
    exact .rule .accessor (i, v) ((Derivable.choice Word.accessors i).seq (.semicolon v)) rfl
  exact .rule .accessors ((), block, ())
    ((Derivable.token _ _).seq ((Derivable.many fun a _ => haccessor a).seq (.token _ _))) rfl

private theorem derivable_modifiers (ms : List Modifier) :
    Derivable (.many (.rule .modifier)) ms := by
  refine .many fun m _ => ?_
  obtain ⟨i, rfl⟩ : ∃ i, Modifier.all.get i = m := by
    cases m with
    | access who => cases who <;> decide
    | _ => decide
  exact .rule .modifier i (.choice Word.modifiers i) rfl

/-- Members are derived. -/
theorem MemberTree.derivable (m : MemberTree) : Derivable (.rule .member) m := by
  obtain ⟨ms, form⟩ := m
  have hmodifiers := derivable_modifiers ms
  have hname : ∀ name : String, Derivable .name name := Derivable.token .name
  have hmark : ∀ mark, Derivable (.mark mark) () := fun mark => .token (.mark mark) ()
  cases form with
  | property name type block =>
    refine .rule .member (.inl (ms, name, (), type, block)) ?_ rfl
    exact .left <| hmodifiers.seq <| (hname name).seq <| (hmark .colon).seq <|
      type.derivable.seq <| derivable_block block
  | field name type terminated =>
    obtain ⟨v, rfl⟩ := exists_isSome terminated
    refine .rule .member (.inr (.inl (ms, name, (), type, v))) ?_ rfl
    exact .right <| .left <| hmodifiers.seq <| (hname name).seq <| (hmark .colon).seq <|
      type.derivable.seq <| .semicolon v
  | indexer before last type block =>
    -- the grammar has a first parameter and others, the tree a last one and others
    obtain ⟨first, others, hps⟩ := List.exists_cons_of_ne_nil
      (List.append_ne_nil_of_right_ne_nil before (List.cons_ne_nil last []))
    have hlist : listOf (first, marked others) = before ++ [last] :=
      (congrArg (first :: ·) (map_snd_marked others)).trans hps.symm
    refine .rule .member
      (.inr (.inr (.inl (ms, (), (), (first, marked others), (), (), type, block)))) ?_ ?_
    · have hthis : Derivable (.word .this) () := .token (.word .this) ()
      have hparameters : Derivable (.list .comma (.rule .parameter)) (first, marked others) :=
        .list .comma fun p _ => p.derivable
      exact .right <| .right <| .left <| hmodifiers.seq <| hthis.seq <| (hmark .lsqb).seq <|
        hparameters.seq <| (hmark .rsqb).seq <| (hmark .colon).seq <| type.derivable.seq <|
        derivable_block block
    · simp only [Rule.build, memberOf, hlist, List.dropLast_concat, List.getLast_concat]
  | method name parameters result terminated =>
    obtain ⟨v, rfl⟩ := exists_isSome terminated
    obtain ⟨ps, hps, rfl⟩ := derivable_parameters parameters
    have hresult : Derivable (.optional (.seq (.mark .colon) (.rule .type)))
        (result.map fun type => ((), type)) := by
      cases result with
      | none => exact .absent
      | some type => exact .present ((hmark .colon).seq type.derivable)
    refine .rule .member
      (.inr (.inr (.inr (ms, name, (), ps, (), result.map fun type => ((), type), v)))) ?_ ?_
    · exact .right <| .right <| .right <| hmodifiers.seq <| (hname name).seq <|
        (hmark .lpar).seq <| hps.seq <| (hmark .rpar).seq <| hresult.seq <| .semicolon v
    · cases result <;> rfl

/-- Kinds are derived. -/
theorem Kind.derivable (k : Kind) : Derivable (.rule .kind) k := by
  have hword : ∀ w, Derivable (.word w) () := fun w => .token (.word w) ()
  cases k with
  | record => exact .rule .kind (.inl ()) (.left (hword _)) rfl
  | recordClass =>
    exact .rule .kind (.inr (.inl ((), ()))) (.right (.left ((hword _).seq (hword _)))) rfl
  | recordStruct =>
    exact .rule .kind (.inr (.inr (.inl ((), ()))))
      (.right (.right (.left ((hword _).seq (hword _))))) rfl
  | cls =>
    exact .rule .kind (.inr (.inr (.inr (.inl ()))))
      (.right (.right (.right (.left (hword _))))) rfl
  | struct =>
    exact .rule .kind (.inr (.inr (.inr (.inr ()))))
      (.right (.right (.right (.right (hword _))))) rfl

/-- Declarations are derived. -/
theorem TypeDeclaration.derivable (d : TypeDeclaration) : Derivable (.rule .declaration) d := by
  obtain ⟨⟨ms, kind, name⟩, parameters, bases, members⟩ := d
  have hparameters : Derivable (.optional (.rule .parameters)) parameters := by
    refine .optional fun ps _ => ?_
    obtain ⟨v, hv, hps⟩ := derivable_parameters ps
    exact .rule .parameters ((), v, ())
      ((Derivable.token (.mark .lpar) ()).seq (hv.seq (.token (.mark .rpar) ()))) hps
  obtain ⟨v, hv, hbases⟩ : ∃ v, Derivable (.optional (.rule .bases)) v ∧
      (v.map fun b => b.1 :: b.2).getD [] = bases := by
    cases bases with
    | nil => exact ⟨none, .absent, rfl⟩
    | cons first others =>
      refine ⟨some (first, others), .present ?_, rfl⟩
      exact .rule .bases ((), first, marked others)
        ((Derivable.token (.mark .colon) ()).seq (.list .comma fun type _ => type.derivable))
        (Prod.ext rfl (map_snd_marked others))
  obtain rfl := hbases
  refine .rule .declaration (ms, kind, name, parameters, v, (), members, ()) ?_ rfl
  exact (derivable_modifiers ms).seq <| kind.derivable.seq <| (Derivable.token .name name).seq <|
    hparameters.seq <| hv.seq <| (Derivable.token (.mark .lbrace) ()).seq <|
    (Derivable.many fun m _ => MemberTree.derivable m).seq <| .token (.mark .rbrace) ()

/-- Every file is derived. -/
theorem derivable_file (f : File) : Derivable (.rule .start) f := by
  refine .rule .start f (.many fun statement _ => ?_) rfl
  cases statement with
  | scope p terminated =>
    obtain ⟨v, rfl⟩ := exists_isSome terminated
    have hpath : Derivable (.rule .dottedName) p :=
      .rule .dottedName _ (derivable_names p).1 (derivable_names p).2
    have hscope : Derivable (.rule .scope) (p, v.isSome) :=
      .rule .scope ((), p, v)
        ((Derivable.token (.word .scope) ()).seq (hpath.seq (.semicolon v))) rfl
    exact .rule .item (.inl (p, v.isSome)) hscope.left rfl
  | type d => exact .rule .item (.inr d) d.derivable.right rfl

/-! ## Sentences -/

/-- The classes of a file can be derived. -/
def Sentence (classes : List Terminal) : Prop :=
  ∃ d : Derivation (.rule .start), d.terminals = classes

/-- Classes that a sentence begins with. -/
def Begins (classes : List Terminal) : Prop := ∃ rest, Sentence (classes ++ rest)

/-- Files of the same tokens are the same. -/
theorem tokensOfFile_injective : Function.Injective tokensOfFile := by
  intro f g h
  have hf := start_reads_tokensOfFile f
  rw [h, start_reads_tokensOfFile g] at hf
  exact (Option.some.inj hf).symm

/-- A token of a class. -/
def Terminal.sample : Terminal → Token
  | .name => .name "x"
  | .word w => .word w
  | .mark m => .mark m

/-- It is of this class. -/
theorem Terminal.terminal_sample (t : Terminal) : t.sample.terminal = t := by cases t <;> rfl

@[simp] private theorem map_terminal_sample (classes : List Terminal) :
    (classes.map Terminal.sample).map Token.terminal = classes := by
  rw [List.map_map]
  exact (List.map_congr_left fun t _ => t.terminal_sample).trans (List.map_id _)

/-- No sequence of classes has two derivations: both would give the file of the same tokens. -/
theorem Derivation.eq_of_terminals {d e : Derivation (.rule .start)}
    (h : d.terminals = e.terminals) : d = e := by
  obtain ⟨f, hf, htf⟩ := d.exists_gives (map_terminal_sample _)
  obtain ⟨g, hg, htg⟩ := e.exists_gives ((map_terminal_sample _).trans h)
  obtain rfl : f = g := tokensOfFile_injective (htf.trans htg.symm)
  exact hf.unique hg

/-- The classes of a file's tokens have exactly one derivation, and it gives this file. -/
theorem exists_derivation (f : File) : ∃ d : Derivation (.rule .start),
    d.Gives f ∧ d.terminals = (tokensOfFile f).map Token.terminal ∧
      ∀ e : Derivation (.rule .start), e.terminals = d.terminals → e = d := by
  obtain ⟨d, hd⟩ := derivable_file f
  exact ⟨d, hd, hd.terminals.symm, fun e he => Derivation.eq_of_terminals he⟩

/-- The classes of tokens are a sentence exactly if the tokens are those of a file. -/
theorem sentence_terminals_iff {tokens : List Token} :
    Sentence (tokens.map Token.terminal) ↔ ∃ f, tokensOfFile f = tokens := by
  constructor
  · rintro ⟨d, hd⟩
    obtain ⟨f, -, hf⟩ := d.exists_gives hd.symm
    exact ⟨f, hf⟩
  · rintro ⟨f, rfl⟩
    obtain ⟨d, -, hd, -⟩ := exists_derivation f
    exact ⟨d, hd⟩

/-- The classes of tokens begin a sentence exactly if the tokens begin those of a file. -/
theorem begins_terminals_iff {tokens : List Token} :
    Begins (tokens.map Token.terminal) ↔ ∃ f rest, tokensOfFile f = tokens ++ rest := by
  constructor
  · rintro ⟨classes, h⟩
    rw [← map_terminal_sample classes, ← List.map_append, sentence_terminals_iff] at h
    obtain ⟨f, hf⟩ := h
    exact ⟨f, _, hf⟩
  · rintro ⟨f, rest, h⟩
    refine ⟨rest.map Token.terminal, ?_⟩
    rw [← List.map_append, sentence_terminals_iff]
    exact ⟨f, h⟩

end KeyedAccess.Schema
