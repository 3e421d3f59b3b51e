import KeyedAccess.Proofs.Schema.History

/-!
# The grammar of declaration files

The grammar is given as data: a right-hand side for each rule, over classes of tokens. A derivation
takes every choice that a right-hand side leaves open, so two derivations of the same classes would
be two ways to understand a file. Each rule says how the values of its parts make up its own value;
for the start rule this is a file.

What a rule builds has the tokens of its parts, and different parts build different values.
-/

namespace KeyedAccess.Schema

/-- The classes of tokens. -/
inductive Terminal where
  /-- Any name. -/
  | name
  /-- A keyword. -/
  | word (w : Word)
  /-- A mark. -/
  | mark (m : Mark)
deriving DecidableEq, Repr

/-- The class of a token. -/
def Token.terminal : Token → Terminal
  | .name _ => .name
  | .word w => .word w
  | .mark m => .mark m

/-- What the grammar has rules for. -/
inductive Rule where
  /-- A file. -/
  | start
  /-- A statement. -/
  | item
  /-- A namespace statement. -/
  | scope
  /-- The names of a namespace. -/
  | dottedName
  /-- A declaration. -/
  | declaration
  /-- The kind of a declaration. -/
  | kind
  /-- A modifier. -/
  | modifier
  /-- The positional parameters of a declaration. -/
  | parameters
  /-- A parameter. -/
  | parameter
  /-- The base types of a declaration. -/
  | bases
  /-- A member. -/
  | member
  /-- An accessor block. -/
  | accessors
  /-- An accessor. -/
  | accessor
  /-- A type. -/
  | type
  /-- The names of a type. -/
  | typeName
  /-- The arguments of a type. -/
  | typeArgs
  /-- An array suffix. -/
  | arraySuffix
  /-- The mark of a type that admits no value. -/
  | nullable
deriving DecidableEq, Repr

/-- A right-hand side. -/
inductive Form where
  /-- A token of a class. -/
  | token (t : Terminal)
  /-- One of several keywords. -/
  | choice (options : List Word)
  /-- What a rule describes. -/
  | rule (r : Rule)
  /-- One part after the other. -/
  | seq (first second : Form)
  /-- One part or the other. -/
  | either (first second : Form)
  /-- A part that may be left out. -/
  | optional (part : Form)
  /-- Any number of parts. -/
  | many (part : Form)
deriving Repr

namespace Form

/-- A keyword. -/
abbrev word (w : Word) : Form := token (.word w)

/-- A mark. -/
abbrev mark (m : Mark) : Form := token (.mark m)

/-- A name. -/
abbrev name : Form := token .name

/-- One part or more with a mark between them. -/
abbrev list (m : Mark) (part : Form) : Form := seq part (many (seq (mark m) part))

end Form

open Form in
/-- The right-hand side of each rule. -/
def Rule.body : Rule → Form
  | start => many (rule item)
  | item => either (rule scope) (rule declaration)
  | scope => seq (word .scope) <| seq (rule dottedName) <| optional (mark .semicolon)
  | dottedName => list .dot name
  | declaration =>
    seq (many (rule modifier)) <| seq (rule kind) <| seq name <| seq (optional (rule parameters)) <|
      seq (optional (rule bases)) <| seq (mark .lbrace) <| seq (many (rule member)) (mark .rbrace)
  | kind =>
    either (word .record) <| either (seq (word .record) (word .cls)) <|
      either (seq (word .record) (word .struct)) <| either (word .cls) (word .struct)
  | modifier => choice Word.modifiers
  | parameters =>
    seq (mark .lpar) <| seq (optional (list .comma (rule parameter))) (mark .rpar)
  | parameter => seq name <| seq (mark .colon) (rule type)
  | bases => seq (mark .colon) (list .comma (rule type))
  | member =>
    -- a property, a field, an indexer and a method
    either (seq (many (rule modifier)) <| seq name <| seq (mark .colon) <| seq (rule type)
        (rule accessors)) <|
      either (seq (many (rule modifier)) <| seq name <| seq (mark .colon) <| seq (rule type)
        (optional (mark .semicolon))) <|
      either (seq (many (rule modifier)) <| seq (word .this) <| seq (mark .lsqb) <|
        seq (list .comma (rule parameter)) <| seq (mark .rsqb) <| seq (mark .colon) <|
        seq (rule type) (rule accessors)) <|
      seq (many (rule modifier)) <| seq name <| seq (mark .lpar) <|
        seq (optional (list .comma (rule parameter))) <| seq (mark .rpar) <|
        seq (optional (seq (mark .colon) (rule type))) (optional (mark .semicolon))
  | accessors => seq (mark .lbrace) <| seq (many (rule accessor)) (mark .rbrace)
  | accessor => seq (choice Word.accessors) (optional (mark .semicolon))
  | type =>
    seq (rule typeName) <| seq (optional (rule typeArgs)) <| seq (many (rule arraySuffix))
      (optional (rule nullable))
  | typeName => list .dot name
  | typeArgs => seq (mark .less) <| seq (list .comma (rule type)) (mark .more)
  | arraySuffix => seq (mark .lsqb) <| seq (many (mark .comma)) (mark .rsqb)
  | nullable => mark .question

/-- A way to obtain classes of tokens from a right-hand side. -/
inductive Derivation : Form → Type where
  /-- The token itself. -/
  | token (t : Terminal) : Derivation (.token t)
  /-- The keyword at a place of the list. -/
  | choice (options : List Word) (i : Fin options.length) : Derivation (.choice options)
  /-- The right-hand side of a rule. -/
  | rule (r : Rule) (d : Derivation r.body) : Derivation (.rule r)
  /-- Both parts. -/
  | seq {a b : Form} (first : Derivation a) (second : Derivation b) : Derivation (.seq a b)
  /-- The first of two parts. -/
  | left {a b : Form} (d : Derivation a) : Derivation (.either a b)
  /-- The second of two parts. -/
  | right {a b : Form} (d : Derivation b) : Derivation (.either a b)
  /-- The part is left out. -/
  | absent {a : Form} : Derivation (.optional a)
  /-- The part is there. -/
  | present {a : Form} (d : Derivation a) : Derivation (.optional a)
  /-- No more parts. -/
  | nil {a : Form} : Derivation (.many a)
  /-- One more part. -/
  | cons {a : Form} (d : Derivation a) (rest : Derivation (.many a)) : Derivation (.many a)

/-- The classes that a derivation gives. -/
def Derivation.terminals {s : Form} : Derivation s → List Terminal
  | token t => [t]
  | choice options i => [.word (options.get i)]
  | rule _ d => d.terminals
  | seq first second => first.terminals ++ second.terminals
  | left d => d.terminals
  | right d => d.terminals
  | absent => []
  | present d => d.terminals
  | nil => []
  | cons d rest => d.terminals ++ rest.terminals

/-! ## Values -/

/-- What a token of a class says beside its class. -/
@[reducible]
def Terminal.Value : Terminal → Type
  | .name => String
  | .word _ | .mark _ => Unit

/-- What a rule describes. -/
@[reducible]
def Rule.Value : Rule → Type
  | .start => File
  | .item => Item
  | .scope => Path × Bool
  | .dottedName => Path
  | .declaration => TypeDeclaration
  | .kind => Kind
  | .modifier => Modifier
  | .parameters => List Parameter
  | .parameter => Parameter
  | .bases => TypeTree × List TypeTree
  | .member => MemberTree
  | .accessors => List AccessorTree
  | .accessor => AccessorTree
  | .type => TypeTree
  | .typeName => Path
  | .typeArgs => TypeTree × List TypeTree
  | .arraySuffix => Nat
  | .nullable => Unit

/-- What the parts of a right-hand side say. -/
@[reducible]
def Form.Value : Form → Type
  | .token t => t.Value
  | .choice options => Fin options.length
  | .rule r => r.Value
  | .seq a b => a.Value × b.Value
  | .either a b => a.Value ⊕ b.Value
  | .optional a => Option a.Value
  | .many a => List a.Value

/-- The token of a class with what it says. -/
def Terminal.token : (t : Terminal) → t.Value → Token
  | .name, text => .name text
  | .word w, _ => .word w
  | .mark m, _ => .mark m

/-- The tokens of what a rule describes. -/
def Rule.tokens : (r : Rule) → r.Value → List Token
  | .start, f => tokensOfFile f
  | .item, statement => statement.tokens
  | .scope, (p, terminated) => (Item.scope p terminated).tokens
  | .dottedName, p => p.tokens
  | .declaration, d => d.tokens
  | .kind, k => k.words.map .word
  | .modifier, m => [.word (.modifier m)]
  | .parameters, ps => parenthesized ps
  | .parameter, p => p.tokens
  | .bases, (first, others) => baseTokens (first :: others)
  | .member, m => m.tokens
  | .accessors, block => blockTokens block
  | .accessor, a => a.tokens
  | .type, tree => tree.tokens
  | .typeName, p => p.tokens
  | .typeArgs, (first, others) => .mark .less :: (tokensOfTypes (first :: others) ++ [.mark .more])
  | .arraySuffix, commas => rankTokens commas
  | .nullable, _ => [.mark .question]

/-- The tokens of what the parts of a right-hand side say. -/
def Form.tokens : (s : Form) → s.Value → List Token
  | .token t, v => [t.token v]
  | .choice options, i => [.word (options.get i)]
  | .rule r, v => r.tokens v
  | .seq a b, v => a.tokens v.1 ++ b.tokens v.2
  | .either a _, .inl v => a.tokens v
  | .either _ b, .inr v => b.tokens v
  | .optional _, none => []
  | .optional a, some v => a.tokens v
  | .many a, vs => vs.flatMap a.tokens

/-- One value or more with a mark between them, as a list. -/
def listOf {α : Type} (v : α × List (Unit × α)) : List α := v.1 :: v.2.map (·.2)

/-- There is at least one value. -/
theorem listOf_ne_nil {α : Type} (v : α × List (Unit × α)) : listOf v ≠ [] := List.cons_ne_nil _ _

/-- The kinds of accessors in the order of their keywords. -/
def accessorOptions : List AccessorKind := [.get, .set, .start]

/-- A path from its first name and the others. -/
def pathOf (v : String × List (Unit × String)) : Path := ⟨v.1, v.2.map (·.2)⟩

/-- A kind from its keywords. -/
def kindOf : Rule.kind.body.Value → Kind
  | .inl _ => .record
  | .inr (.inl _) => .recordClass
  | .inr (.inr (.inl _)) => .recordStruct
  | .inr (.inr (.inr (.inl _))) => .cls
  | .inr (.inr (.inr (.inr _))) => .struct

/-- A declaration from its parts. -/
def declarationOf : Rule.declaration.body.Value → TypeDeclaration
  | (ms, k, n, ps, bs, _, members, _) =>
    ⟨⟨ms, k, n⟩, ps, (bs.map fun b => b.1 :: b.2).getD [], members⟩

/-- A member from its parts. -/
def memberOf : Rule.member.body.Value → MemberTree
  | .inl (ms, n, _, type, block) => ⟨ms, .property n type block⟩
  | .inr (.inl (ms, n, _, type, terminated)) => ⟨ms, .field n type terminated.isSome⟩
  | .inr (.inr (.inl (ms, _, _, ps, _, _, type, block))) =>
    ⟨ms, .indexer (listOf ps).dropLast ((listOf ps).getLast (listOf_ne_nil ps)) type block⟩
  | .inr (.inr (.inr (ms, n, _, ps, _, result, terminated))) =>
    ⟨ms, .method n ((ps.map listOf).getD []) (result.map (·.2)) terminated.isSome⟩

/-- A type from its parts. -/
def typeOf : Rule.type.body.Value → TypeTree
  | (p, arguments, ranks, mark) =>
    .mk p ((arguments.map fun a => a.1 :: a.2).getD []) ranks mark.isSome

/-- How the values of the parts make up what a rule describes. -/
def Rule.build : (r : Rule) → r.body.Value → r.Value
  | .start => id
  | .item => fun v => v.elim (fun s => .scope s.1 s.2) .type
  | .scope => fun v => (v.2.1, v.2.2.isSome)
  | .dottedName => pathOf
  | .declaration => declarationOf
  | .kind => kindOf
  | .modifier => Modifier.all.get
  | .parameters => fun v => (v.2.1.map listOf).getD []
  | .parameter => fun v => ⟨v.1, v.2.2⟩
  | .bases => fun v => (v.2.1, v.2.2.map (·.2))
  | .member => memberOf
  | .accessors => fun v => v.2.1
  | .accessor => fun v => ⟨accessorOptions.get v.1, v.2.isSome⟩
  | .type => typeOf
  | .typeName => pathOf
  | .typeArgs => fun v => (v.2.1.1, v.2.1.2.map (·.2))
  | .arraySuffix => fun v => v.2.1.length
  | .nullable => id

/-! ## Values keep the tokens -/

private theorem tokensOfTypes_listOf (first : TypeTree) (others : List (Unit × TypeTree)) :
    tokensOfTypes (listOf (first, others)) =
      first.tokens ++ others.flatMap fun v => [Token.mark .comma] ++ v.2.tokens := by
  induction others generalizing first with
  | nil => simp [listOf, tokensOfTypes]
  | cons second others ih =>
    have hrest := ih second.2
    simp only [listOf] at hrest
    rw [listOf, List.map_cons, tokensOfTypes, List.isEmpty_cons, if_neg Bool.false_ne_true, hrest,
      List.flatMap_cons, List.append_assoc, List.append_assoc]

private theorem parameterTokens_listOf (first : Parameter) (others : List (Unit × Parameter)) :
    parameterTokens (listOf (first, others)) =
      first.tokens ++ others.flatMap fun v => [Token.mark .comma] ++ v.2.tokens := by
  induction others generalizing first with
  | nil => simp [listOf, parameterTokens, separated]
  | cons second others ih =>
    have hrest := ih second.2
    simp only [listOf, parameterTokens] at hrest
    rw [listOf, parameterTokens, List.map_cons, List.map_cons, List.map_cons, separated,
      ← List.map_cons, hrest, List.flatMap_cons, List.append_assoc, List.append_assoc]
    exact List.cons_ne_nil _ _

private theorem tokens_pathOf (v : String × List (Unit × String)) :
    (pathOf v).tokens = (Form.list .dot .name).tokens v := by
  simp [pathOf, Path.tokens, Form.tokens, Terminal.token, List.flatMap_map]

private theorem semicolonTokens_isSome (v : Option Unit) :
    semicolonTokens v.isSome = (Form.optional (.mark .semicolon)).tokens v := by
  cases v <;> rfl

private theorem modifierTokens_eq (ms : List Modifier) :
    modifierTokens ms = (Form.many (.rule .modifier)).tokens ms :=
  List.map_eq_flatMap

private theorem parameterTokens_getD (v : Option (Parameter × List (Unit × Parameter))) :
    parameterTokens ((v.map listOf).getD []) =
      (Form.optional (.list .comma (.rule .parameter))).tokens v := by
  cases v with
  | none => rfl
  | some v => exact parameterTokens_listOf v.1 v.2

private theorem resultTokens_map (v : Option (Unit × TypeTree)) :
    resultTokens (v.map (·.2)) = (Form.optional (.seq (.mark .colon) (.rule .type))).tokens v := by
  cases v <;> rfl

/-- The tokens of a member from its parts. -/
theorem tokens_memberOf (v : Rule.member.body.Value) :
    (memberOf v).tokens = Rule.member.body.tokens v := by
  rcases v with ⟨ms, n, -, type, block⟩ | ⟨ms, n, -, type, terminated⟩ |
    ⟨ms, -, -, ⟨first, others⟩, -, -, type, block⟩ | ⟨ms, n, -, ps, -, result, terminated⟩
  · exact congrArg (· ++ _) (modifierTokens_eq ms)
  · rw [memberOf, MemberTree.tokens, MemberForm.tokens, modifierTokens_eq, semicolonTokens_isSome]
    rfl
  · rw [memberOf, MemberTree.tokens, MemberForm.tokens, modifierTokens_eq,
      List.dropLast_concat_getLast, parameterTokens_listOf]
    rfl
  · rw [memberOf, MemberTree.tokens, MemberForm.tokens, modifierTokens_eq, parameterTokens_getD,
      resultTokens_map, semicolonTokens_isSome]
    rfl

/-- The tokens of a type from its parts. -/
theorem tokens_typeOf (v : Rule.type.body.Value) : (typeOf v).tokens = Rule.type.body.tokens v := by
  obtain ⟨p, arguments, ranks, nullable⟩ := v
  cases arguments <;> cases nullable <;>
    simp [typeOf, TypeTree.tokens, Rule.body, Form.tokens, Rule.tokens]

/-- The tokens of a declaration from its parts. -/
theorem tokens_declarationOf (v : Rule.declaration.body.Value) :
    (declarationOf v).tokens = Rule.declaration.body.tokens v := by
  obtain ⟨ms, k, n, ps, bases, -, members, -⟩ := v
  cases ps <;> cases bases <;>
    simp [declarationOf, TypeDeclaration.tokens, TypeDeclaration.openTokens, Header.tokens,
      optionalParameters, baseTokens, modifierTokens_eq, Rule.body, Form.tokens, Rule.tokens,
      Terminal.token]

/-- What a rule builds has the tokens of its parts. -/
theorem Rule.tokens_build (r : Rule) (v : r.body.Value) :
    r.tokens (r.build v) = r.body.tokens v := by
  cases r with
  | start => rfl
  | item => cases v <;> rfl
  | scope =>
    exact congrArg (Token.word Word.scope :: v.2.1.tokens ++ ·) (semicolonTokens_isSome v.2.2)
  | dottedName => exact tokens_pathOf v
  | declaration => exact tokens_declarationOf v
  | kind => rcases v with u | ⟨u, w⟩ | ⟨u, w⟩ | u | u <;> rfl
  | modifier =>
    have hword : Word.modifiers.get v = .modifier (Modifier.all.get v) := List.getElem_map _
    exact congrArg (fun w => [Token.word w]) hword.symm
  | parameters =>
    exact congrArg (Token.mark .lpar :: · ++ [Token.mark .rpar]) (parameterTokens_getD v.2.1)
  | parameter => rfl
  | bases => exact congrArg (Token.mark .colon :: ·) (tokensOfTypes_listOf v.2.1 v.2.2)
  | member => exact tokens_memberOf v
  | accessors => rfl
  | accessor =>
    have hword : ∀ i, Word.accessors.get i = .accessor (accessorOptions.get i) := by decide
    have htokens := congrArg (Token.word (Word.accessors.get v.1) :: ·) (semicolonTokens_isSome v.2)
    rw [hword] at htokens
    exact htokens.trans (congrArg (fun w => [Token.word w] ++ _) (hword v.1).symm)
  | type => exact tokens_typeOf v
  | typeName => exact tokens_pathOf v
  | typeArgs =>
    exact congrArg (Token.mark .less :: · ++ [Token.mark .more])
      (tokensOfTypes_listOf v.2.1.1 v.2.1.2)
  | arraySuffix =>
    have hcommas : ∀ commas : List Unit, List.replicate commas.length (Token.mark .comma) =
        (Form.many (.mark .comma)).tokens commas := by
      intro commas
      induction commas with
      | nil => rfl
      | cons _ commas ih => exact congrArg (_ :: ·) ih
    exact congrArg (Token.mark .lsqb :: · ++ [Token.mark .rsqb]) (hcommas v.2.1)
  | nullable => rfl

/-! ## Values keep the parts -/

private theorem map_snd_injective {α : Type} :
    Function.Injective (List.map fun v : Unit × α => v.2) := fun _ _ =>
  (List.map_inj_right fun _ _ h => Prod.ext rfl h).mp

private theorem listOf_injective {α : Type} : Function.Injective (listOf (α := α)) := fun _ _ h =>
  Prod.ext (List.cons.inj h).1 (map_snd_injective (List.cons.inj h).2)

private theorem getD_map_injective {α β : Type} {make : α → List β} (hm : Function.Injective make)
    (hn : ∀ a, make a ≠ []) : Function.Injective fun v : Option α => (v.map make).getD [] := by
  intro v w h
  cases v with
  | none => cases w with
    | none => rfl
    | some b => exact absurd h.symm (hn b)
  | some a => cases w with
    | none => exact absurd h (hn a)
    | some b => exact congrArg some (hm h)

private theorem cons_injective {α : Type} : Function.Injective fun v : α × List α => v.1 :: v.2 :=
  fun _ _ h => Prod.ext (List.cons.inj h).1 (List.cons.inj h).2

private theorem isSome_injective : Function.Injective fun v : Option Unit => v.isSome := by
  intro v w h
  cases v <;> cases w <;> first | rfl | cases h

private theorem pathOf_injective : Function.Injective pathOf := by
  intro v w h
  obtain ⟨hhead, htail⟩ := Path.mk.inj h
  exact Prod.ext hhead (map_snd_injective htail)

private theorem declarationOf_injective : Function.Injective declarationOf := by
  rintro ⟨ms, k, n, ps, bs, _, members, _⟩ ⟨ms', k', n', ps', bs', _, members', _⟩ h
  obtain ⟨hheader, rfl, hbases, rfl⟩ := TypeDeclaration.mk.inj h
  obtain ⟨rfl, rfl, rfl⟩ := Header.mk.inj hheader
  have hb : bs = bs' := getD_map_injective cons_injective (fun _ => List.cons_ne_nil _ _) hbases
  rw [hb]

private theorem typeOf_injective : Function.Injective typeOf := by
  rintro ⟨p, arguments, ranks, mark⟩ ⟨p', arguments', ranks', mark'⟩ h
  obtain ⟨rfl, ha, rfl, hm⟩ := TypeTree.mk.inj h
  rw [getD_map_injective cons_injective (fun _ => List.cons_ne_nil _ _) ha, isSome_injective hm]

private theorem memberOf_injective : Function.Injective memberOf := by
  rintro (⟨ms, n, _, type, block⟩ | ⟨ms, n, _, type, terminated⟩ |
      ⟨ms, _, _, ps, _, _, type, block⟩ | ⟨ms, n, _, ps, _, result, terminated⟩)
    (⟨ms', n', _, type', block'⟩ | ⟨ms', n', _, type', terminated'⟩ |
      ⟨ms', _, _, ps', _, _, type', block'⟩ | ⟨ms', n', _, ps', _, result', terminated'⟩) h <;>
    obtain ⟨rfl, hform⟩ := MemberTree.mk.inj h
  -- members of different forms are different
  all_goals try cases hform; done
  case inl.inl =>
    cases hform
    rfl
  case inr.inl.inr.inl =>
    obtain ⟨rfl, rfl, ht⟩ := MemberForm.field.inj hform
    rw [isSome_injective ht]
  case inr.inr.inl.inr.inr.inl =>
    obtain ⟨hbefore, hlast, rfl, rfl⟩ := MemberForm.indexer.inj hform
    have hps : listOf ps = listOf ps' := by
      rw [← List.dropLast_concat_getLast (listOf_ne_nil ps), hbefore, hlast,
        List.dropLast_concat_getLast]
    rw [listOf_injective hps]
  case inr.inr.inr.inr.inr.inr =>
    obtain ⟨rfl, hps, hresult, ht⟩ := MemberForm.method.inj hform
    have hr : result = result' := Option.map_injective (fun _ _ he => Prod.ext rfl he) hresult
    rw [getD_map_injective listOf_injective listOf_ne_nil hps, hr, isSome_injective ht]

/-- Different parts build different values. -/
theorem Rule.build_injective (r : Rule) : Function.Injective r.build := by
  cases r with
  | start => exact fun v w h => h
  | item =>
    intro v w h
    rcases v with ⟨p, b⟩ | d <;> rcases w with ⟨q, c⟩ | e <;> cases h <;> rfl
  | scope =>
    intro v w h
    obtain ⟨hp, ht⟩ := Prod.mk.inj h
    exact Prod.ext rfl (Prod.ext hp (isSome_injective ht))
  | dottedName => exact pathOf_injective
  | declaration => exact declarationOf_injective
  | kind =>
    intro v w h
    rcases v with u | ⟨u, x⟩ | ⟨u, x⟩ | u | u <;>
      rcases w with u' | ⟨u', x'⟩ | ⟨u', x'⟩ | u' | u' <;> cases h <;> rfl
  | modifier =>
    have hget : ∀ i j, Modifier.all.get i = Modifier.all.get j → i = j := by decide
    exact hget
  | parameters =>
    intro v w h
    exact Prod.ext rfl (Prod.ext (getD_map_injective listOf_injective listOf_ne_nil h) rfl)
  | parameter =>
    intro v w h
    obtain ⟨hn, ht⟩ := Parameter.mk.inj h
    exact Prod.ext hn (Prod.ext rfl ht)
  | bases =>
    intro v w h
    obtain ⟨hf, ho⟩ := Prod.mk.inj h
    exact Prod.ext rfl (Prod.ext hf (map_snd_injective ho))
  | member => exact memberOf_injective
  | accessors => exact fun v w h => Prod.ext rfl (Prod.ext h rfl)
  | accessor =>
    intro v w h
    have hget : ∀ i j, accessorOptions.get i = accessorOptions.get j → i = j := by decide
    obtain ⟨hk, ht⟩ := AccessorTree.mk.inj h
    exact Prod.ext (hget _ _ hk) (isSome_injective ht)
  | type => exact typeOf_injective
  | typeName => exact pathOf_injective
  | typeArgs =>
    intro v w h
    obtain ⟨hf, ho⟩ := Prod.mk.inj h
    exact Prod.ext rfl (Prod.ext (Prod.ext hf (map_snd_injective ho)) rfl)
  | arraySuffix =>
    intro v w h
    have hcommas : v.2.1 = w.2.1 := List.ext_getElem h fun _ _ _ => rfl
    exact Prod.ext rfl (Prod.ext hcommas rfl)
  | nullable => exact fun v w h => h

end KeyedAccess.Schema
