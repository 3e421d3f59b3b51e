import KeyedAccess.Proofs.Schema.Outline
import KeyedAccess.Proofs.Schema.TypeText

/-!
# Types in their places

A type stands as the type of a field, of a positional parameter or as a base type. Where a text has
names in such a place, the text of the type can take their place: up to the type and behind it the
new text is scanned as the old one, and it is read as the type. So no two types have the same text.
Only a type that is several names needs several names in its place, because more words are keywords
behind them.

Main statement: `captured_types_of_parse`.
-/

namespace KeyedAccess.Schema

open Text

/-! ## Lists of types and of parameters -/

private theorem separated_cons_cons {α : Type} (separator first second : List α)
    (rest : List (List α)) :
    separated separator (first :: second :: rest) =
      first ++ separator ++ separated separator (second :: rest) := rfl

private theorem separated_append_cons {α : Type} (separator : List α) (before : List (List α))
    (part : List α) (others : List (List α)) :
    separated separator (before ++ part :: others) =
      before.flatMap (· ++ separator) ++ (part ++ others.flatMap (separator ++ ·)) := by
  induction before with
  | nil =>
    induction others generalizing part with
    | nil => exact (List.append_nil part).symm
    | cons next others ih =>
      have hnext := ih next
      simp only [List.nil_append, List.flatMap_nil] at hnext ⊢
      rw [separated_cons_cons, hnext, List.flatMap_cons]
      simp only [List.append_assoc]
  | cons first before ih =>
    obtain ⟨next, rest, he⟩ := List.exists_cons_of_ne_nil
      (List.append_ne_nil_of_right_ne_nil before (List.cons_ne_nil part others))
    rw [List.cons_append, he, separated_cons_cons, ← he, ih, List.flatMap_cons]
    simp only [List.append_assoc]

/-- The tokens of types between commas. -/
theorem tokensOfTypes_eq (types : List TypeTree) :
    tokensOfTypes types = separated [.mark .comma] (types.map TypeTree.tokens) := by
  induction types with
  | nil => rfl
  | cons type rest ih =>
    rw [tokensOfTypes, ih]
    cases rest with
    | nil => simp [separated]
    | cons => simp [separated]

/-- A declaration in which one type is left out. -/
inductive TypeHole where
  /-- The type of a field, behind the members of a declaration. -/
  | field (owner : TypeDeclaration) (modifiers : List Modifier) (name : String)
      (terminated : Bool) (others : List MemberTree)
  /-- The type of a positional parameter. -/
  | positional (header : Header) (before : List Parameter) (name : String)
      (others : List Parameter) (bases : List TypeTree) (members : List MemberTree)
  /-- A base type. -/
  | base (header : Header) (parameters : Option (List Parameter)) (before others : List TypeTree)
      (members : List MemberTree)

/-- The declaration with a type in its place. -/
def TypeHole.fill : TypeHole → TypeTree → TypeDeclaration
  | .field owner ms name terminated others, type =>
    { owner with members := owner.members ++ ⟨ms, .field name type terminated⟩ :: others }
  | .positional header before name others bases members, type =>
    ⟨header, some (before ++ ⟨name, type⟩ :: others), bases, members⟩
  | .base header parameters before others members, type =>
    ⟨header, parameters, before ++ type :: others, members⟩

/-- The tokens of the declaration in front of the type. -/
def TypeHole.front : TypeHole → List Token
  | .field owner ms name _ _ =>
    owner.openTokens ++ (modifierTokens ms ++ [.name name, .mark .colon])
  | .positional header before name _ _ _ =>
    header.tokens ++ .mark .lpar :: (parametersBefore before ++ [.name name, .mark .colon])
  | .base header parameters before _ _ =>
    header.tokens ++ (optionalParameters parameters ++ .mark .colon :: typesBefore before)

/-- The tokens of a body. -/
def bodyTokens (members : List MemberTree) : List Token :=
  .mark .lbrace :: (members.flatMap MemberTree.tokens ++ [.mark .rbrace])

/-- The tokens of the declaration behind the type. -/
def TypeHole.rear : TypeHole → List Token
  | .field _ _ _ terminated others =>
    semicolonTokens terminated ++ (others.flatMap MemberTree.tokens ++ [.mark .rbrace])
  | .positional _ _ _ others bases members =>
    (others.flatMap fun p => .mark .comma :: p.tokens) ++
      .mark .rpar :: (baseTokens bases ++ bodyTokens members)
  | .base _ _ _ others members =>
    (others.flatMap fun type => .mark .comma :: type.tokens) ++ bodyTokens members

/-- The tokens of the type stand between those in front of it and those behind it. -/
theorem TypeHole.tokens_fill (hole : TypeHole) (type : TypeTree) :
    (hole.fill type).tokens = hole.front ++ (type.tokens ++ hole.rear) := by
  cases hole with
  | field owner ms name terminated others =>
    simp [fill, front, rear, TypeDeclaration.tokens, TypeDeclaration.openTokens, MemberTree.tokens,
      MemberForm.tokens]
  | positional header before name others bases members =>
    have hparameters : parameterTokens (before ++ ⟨name, type⟩ :: others) =
        parametersBefore before ++ (.name name :: .mark .colon :: (type.tokens ++
          others.flatMap fun p => .mark .comma :: p.tokens)) := by
      rw [parameterTokens, List.map_append, List.map_cons, separated_append_cons]
      simp [parametersBefore, Parameter.tokens, List.flatMap_map]
    simp [fill, front, rear, bodyTokens, TypeDeclaration.tokens, TypeDeclaration.openTokens,
      optionalParameters, parenthesized, hparameters]
  | base header parameters before others members =>
    have hbases : baseTokens (before ++ type :: others) =
        .mark .colon :: (typesBefore before ++ (type.tokens ++
          others.flatMap fun type => .mark .comma :: type.tokens)) := by
      rw [baseTokens, tokensOfTypes_eq, List.map_append, List.map_cons, separated_append_cons]
      simp [typesBefore, List.flatMap_map]
    simp [fill, front, rear, bodyTokens, TypeDeclaration.tokens, TypeDeclaration.openTokens, hbases]

/-- Directly in front of the type stands a mark. -/
theorem TypeHole.exists_front_eq (hole : TypeHole) :
    ∃ tokens m, hole.front = tokens ++ [Token.mark m] := by
  cases hole with
  | field owner ms name terminated others =>
    exact ⟨owner.openTokens ++ (modifierTokens ms ++ [Token.name name]), .colon, by simp [front]⟩
  | positional header before name others bases members =>
    exact ⟨header.tokens ++ Token.mark .lpar :: (parametersBefore before ++ [Token.name name]),
      .colon, by simp [front]⟩
  | base header parameters before others members =>
    rcases List.eq_nil_or_concat before with rfl | ⟨types, last, rfl⟩
    · exact ⟨header.tokens ++ optionalParameters parameters, .colon, by simp [front, typesBefore]⟩
    · exact ⟨header.tokens ++ (optionalParameters parameters ++
        Token.mark .colon :: (typesBefore types ++ last.tokens)), .comma,
        by simp [front, typesBefore]⟩

/-- The declaration begins with a keyword. -/
theorem TypeHole.front_cons (hole : TypeHole) : ∃ w rest, hole.front = .word w :: rest := by
  cases hole with
  | field owner =>
    obtain ⟨w, rest, he⟩ := owner.openTokens_cons
    rw [front, he]
    exact ⟨w, _, rfl⟩
  | positional header | base header =>
    obtain ⟨w, rest, he⟩ := header.tokens_cons
    rw [front, he]
    exact ⟨w, _, rfl⟩

/-- Directly behind the type stands a token that is no part of a type. -/
theorem TypeHole.rear_cons (hole : TypeHole) :
    ∃ t rest, hole.rear = t :: rest ∧ t.endsType = true := by
  cases hole with
  | field owner ms name terminated others =>
    cases terminated with
    | true => exact ⟨_, _, rfl, rfl⟩
    | false => cases others with
      | nil => exact ⟨_, _, rfl, rfl⟩
      | cons m others =>
        obtain ⟨t, rest, he, ht⟩ := m.tokens_cons
        rw [rear, List.flatMap_cons, he]
        exact ⟨t, _, rfl, Token.endsType_of_endsMember ht⟩
  | positional header before name others bases members => cases others <;> exact ⟨_, _, rfl, rfl⟩
  | base header parameters before others members => cases others <;> exact ⟨_, _, rfl, rfl⟩

/-! ## The way to a type -/

/-- The slot that the type fills. -/
def TypeHole.slot : TypeHole → Slot
  | .field owner ms name _ _ => .member owner ms name
  | .positional header before name _ _ _ => .parameter (.declaration header) before name
  | .base header parameters before _ _ => .base header parameters before

section

variable {items : File}

/-- Base types with the commas behind them. -/
theorem run_typesBefore (h : Header) (ps : Option (List Parameter)) (before types : List TypeTree)
    (rest : List Token) :
    (⟨items, .typing (.base h ps before) [] .start⟩ : State).run (typesBefore types ++ rest) =
      (⟨items, .typing (.base h ps (before ++ types)) [] .start⟩ : State).run rest := by
  induction types generalizing before with
  | nil => rw [List.append_nil]; rfl
  | cons type types ih =>
    rw [typesBefore, List.flatMap_cons, ← typesBefore, List.append_assoc, List.append_assoc,
      List.singleton_append, run_slot _ _ rfl, Slot.filled, run_of_next rfl, ih, List.append_assoc,
      List.singleton_append]

/-- What stands between the header of a declaration and its base types. -/
theorem run_baseMark (h : Header) (ps : Option (List Parameter)) (rest : List Token) :
    (⟨items, .named h⟩ : State).run (optionalParameters ps ++ .mark .colon :: rest) =
      (⟨items, .typing (.base h ps []) [] .start⟩ : State).run rest := by
  cases ps with
  | none => exact run_of_next rfl rest
  | some ps =>
    rw [optionalParameters, parenthesized, List.cons_append, run_of_next rfl, List.append_assoc,
      List.singleton_append, run_declarationParameters, run_of_next rfl]

/-- The tokens of a declaration in front of a type lead to the type. -/
theorem TypeHole.run_front (hole : TypeHole) :
    (⟨items, .between []⟩ : State).run hole.front =
      some ⟨items, .typing hole.slot [] .start⟩ := by
  cases hole with
  | field owner ms name terminated others =>
    obtain ⟨t, rest, he, ht⟩ : ∃ t rest,
        modifierTokens ms ++ [Token.name name, .mark .colon] = t :: rest ∧ t.endsMember = true := by
      cases ms <;> exact ⟨_, _, rfl, rfl⟩
    rw [front, he, run_openTokens owner ht, ← he, run_memberModifiers, List.nil_append,
      run_of_next rfl, run_of_next rfl]
    rfl
  | positional header before name others bases members =>
    obtain ⟨n, rest, he⟩ : ∃ n rest,
        parametersBefore before ++ [Token.name name, .mark .colon] = .name n :: rest := by
      cases before <;> exact ⟨_, _, rfl⟩
    rw [front, run_header, run_of_next rfl, he, run_parametersOpen, ← he, parametersBefore,
      run_parametersBefore, List.nil_append, run_of_next rfl, run_of_next rfl]
    rfl
  | base header parameters before others members =>
    rw [front, run_header, run_baseMark, ← List.append_nil (typesBefore before), run_typesBefore]
    rfl

/-- A type that is several names and nothing else. -/
def TypeTree.Dotted (type : TypeTree) : Prop := ∃ p : Path, p.tail ≠ [] ∧ type = .mk p [] [] false

/-- Behind a type no keywords may stand but those that may stand behind names. Behind several names
there are more of them. -/
theorem TypeTree.words_spot {type : TypeTree} {p : Path} (h : type.Dotted → p.tail ≠ []) :
    ∀ w ∈ type.spot.context.words, w ∈ (Spot.path p).context.words := by
  obtain ⟨q, arguments, ranks, nullable⟩ := type
  have hmember : ∀ w ∈ memberWords, w ∈ (Spot.path p).context.words := by
    obtain ⟨first, _ | ⟨second, others⟩⟩ := p
    · exact fun w hw => hw
    · change ∀ w ∈ memberWords, w ∈ afterDottedName.words
      decide
  cases nullable with
  | true => exact hmember
  | false => cases arguments with
    | cons => exact hmember
    | nil => cases ranks with
      | cons => exact hmember
      | nil =>
        obtain ⟨first, _ | ⟨second, others⟩⟩ := q
        · exact hmember
        · have hp := h ⟨_, List.cons_ne_nil second others, rfl⟩
          obtain ⟨first', _ | ⟨second', others'⟩⟩ := p
          · exact absurd rfl hp
          · exact fun w hw => hw

/-- Behind a type a name may stand. -/
theorem TypeTree.names_spot (type : TypeTree) : type.spot.context.names = true := by
  obtain ⟨⟨first, tail⟩, arguments, ranks, nullable⟩ := type
  cases nullable <;> cases arguments <;> cases ranks <;> cases tail <;> rfl

/-- The text of a type is cut into the tokens of the type. -/
theorem TypeTree.Legible.scan {type : TypeTree} (h : type.Legible) (slot : Slot)
    {gap rest : List Char} (hg : Blank gap) (hr : ∀ c ∈ rest.head?, isAsciiNameChar c = false) :
    Scan ⟨items, .typing slot [] .start⟩ (written (type.parts gap) ++ rest) (type.parts gap)
      ⟨items, .typing slot [] type.spot⟩ rest := by
  have hrun : (⟨items, .typing slot [] .start⟩ : State).run ((type.parts gap).map Prod.snd) =
      some ⟨items, .typing slot [] type.spot⟩ := by
    rw [type.map_snd_parts, ← List.append_nil type.tokens, run_type]
    rfl
  refine scan_of_follows hrun (type.blank_parts hg) (type.isChain_parts h gap) ?_ hr
  obtain ⟨name, others, he, hname⟩ := type.exists_parts_eq
  intro part hp
  rw [he] at hp
  cases hp
  exact .inr ⟨fun _ => rfl, hname h⟩

/-- What stands behind names is scanned in the same way behind another type. -/
theorem Scan.behind_type {slot : Slot} {p : Path} {text rest : List Char}
    {parts : List (List Char × Token)} {last : State}
    (h : Scan ⟨items, .typing slot [] (.path p)⟩ text parts last rest)
    (hp : ∀ part ∈ parts.head?, part.2.endsType = true) {type : TypeTree}
    (ht : type.Dotted → p.tail ≠ []) :
    ∃ last', Scan ⟨items, .typing slot [] type.spot⟩ text parts last' rest := by
  cases h with
  | nil => exact ⟨_, .nil ..⟩
  | cons hg hl hs h =>
    -- behind the first token it has been forgotten which type it was
    rw [State.step_of_type? slot rfl (hp _ rfl)] at hs
    have hfilled : (⟨items, slot.filled (.mk p [] [] false)⟩ : State).outline =
        (⟨items, slot.filled type⟩ : State).outline :=
      congrArg (State.mk []) (slot.outline_filled_eq ..)
    obtain ⟨next, hstep, hnext⟩ := State.step_of_outline hfilled hs
    obtain ⟨last', hscan, -⟩ := h.of_outline hnext
    rw [← State.step_of_type? slot type.type?_spot (hp _ rfl)] at hstep
    have hnames : (Spot.path p).context.names = true := by
      obtain ⟨first, _ | ⟨second, others⟩⟩ := p <;> rfl
    obtain rfl := eq_append_of_lexeme hl
    exact ⟨last', .cons hg (lexeme_elsewhere hnames type.names_spot hl (State.admits_of_step hstep)
      fun w hw _ => type.words_spot ht w hw) hstep hscan⟩

end

/-! ## The text around a type -/

/-- A declaration captures the text of a type at the place of the type. The positional parameter of
a class or a structure declares nothing, nor does one of a record that has a member of its name. -/
def TypeHole.Captures (hole : TypeHole) (d : Declaration) (text : String) : Prop :=
  match hole with
  | .field _ _ name _ others => ∃ before m behind, d.members = before ++ m :: behind ∧
      behind.length = others.length ∧ m.name = name ∧ m.kind = .field ∧ m.type = text
  | .positional header _ name _ _ members => header.kind.isRecord = true →
      name ∉ members.map (·.meaning.name) →
      ∃ m ∈ d.members, m.name = name ∧ m.kind = .property ∧ m.type = text
  | .base _ _ before others _ =>
    d.bases = before.map TypeTree.text ++ text :: others.map TypeTree.text

/-- With a type in its place, a declaration captures its text there. -/
theorem TypeHole.captures_fill (hole : TypeHole) (type : TypeTree) (scope : Option String) :
    hole.Captures ((hole.fill type).meaning scope) type.text := by
  cases hole with
  | field owner ms name terminated others =>
    let d := (field owner ms name terminated others).fill type
    refine ⟨d.positional (d.members.map MemberTree.meaning) ++ owner.members.map MemberTree.meaning,
      (⟨ms, .field name type terminated⟩ : MemberTree).meaning, others.map MemberTree.meaning, ?_,
      List.length_map .., rfl, rfl, rfl⟩
    simp only [d, TypeDeclaration.meaning, fill, List.map_append, List.map_cons, List.append_assoc]
  | positional header before name others bases members =>
    intro hrecord hname
    let d := (positional header before name others bases members).fill type
    let m : Member := { name, type := type.text, setter := some header.positionalSetter }
    have hfree : name ∉ (members.map MemberTree.meaning).map (·.name) := by
      rw [List.map_map]
      exact hname
    have hm : m ∈ d.positional (d.members.map MemberTree.meaning) :=
      TypeDeclaration.mem_positional_iff.mpr ⟨hrecord, _, rfl, ⟨name, type⟩,
        List.mem_append_right _ List.mem_cons_self, hfree, rfl⟩
    exact ⟨m, List.mem_append_left _ hm, rfl, rfl, rfl⟩
  | base header parameters before others members =>
    simp only [Captures, TypeDeclaration.meaning, fill, List.map_append, List.map_cons]

/-- A declaration in which one type is left out, within a file. -/
structure TypePlace where
  /-- The statements before it. -/
  before : File
  /-- The declaration. -/
  hole : TypeHole
  /-- The statements after it. -/
  after : File

/-- The file with a type in its place. -/
def TypePlace.fill (place : TypePlace) (type : TypeTree) : File :=
  place.before ++ .type (place.hole.fill type) :: place.after

/-- The tokens of the type stand between those in front of it and those behind it. -/
theorem TypePlace.tokens_fill (place : TypePlace) (type : TypeTree) :
    tokensOfFile (place.fill type) = tokensOfFile place.before ++ place.hole.front ++
      (type.tokens ++ (place.hole.rear ++ tokensOfFile place.after)) := by
  simp [fill, tokensOfFile, Item.tokens, TypeHole.tokens_fill]

/-- The tokens in front of a type lead to the type. -/
theorem TypePlace.run_front (place : TypePlace) :
    State.start.run (tokensOfFile place.before ++ place.hole.front) =
      some ⟨place.before, .typing place.hole.slot [] .start⟩ := by
  obtain ⟨w, rest, he⟩ := place.hole.front_cons
  rw [State.start, he, run_fileBefore, List.nil_append, ← he, TypeHole.run_front]

/-- A text in which names, joined by dots, stand in the place of a type. It is cut into the tokens
in front of them, the names behind their blanks, and the tokens behind them. -/
structure TypePlace.Around (place : TypePlace) (p : Path) (text : String)
    (front : List (List Char × Token)) (gap : List Char) (names rear : List (List Char × Token))
    (rest : List Char) : Prop where
  /-- These are all of its tokens. -/
  cut : Tokenized text.toList (front ++ (gap, .name p.head) :: (names ++ rear)) rest
  /-- Some stand in front of the type. -/
  before : front.map Prod.snd = tokensOfFile place.before ++ place.hole.front
  /-- Some are the names. -/
  names : .name p.head :: names.map Prod.snd = p.tokens
  /-- The others stand behind the type. -/
  behind : rear.map Prod.snd = place.hole.rear ++ tokensOfFile place.after

/-- The last token of some names is a name. -/
theorem Path.exists_tokens_eq (p : Path) :
    ∃ tokens name, p.tokens = tokens ++ [Token.name name] := by
  rcases List.eq_nil_or_concat p.tail with he | ⟨others, last, he⟩
  · exact ⟨[], p.head, by simp [Path.tokens, he]⟩
  · exact ⟨.name p.head ::
        (others.flatMap (fun name => [Token.mark .dot, .name name]) ++ [Token.mark .dot]),
      last, by simp [Path.tokens, he]⟩

/-- The text of a type between the tokens around it. -/
def writtenAround (front : List (List Char × Token)) (gap : List Char)
    (rear : List (List Char × Token)) (rest : List Char) (text : String) : String :=
  String.ofList (written front ++ (gap ++ (text.toList ++ (written rear ++ rest))))

section

variable {place : TypePlace} {p : Path} {text : String}
    {front names rear : List (List Char × Token)}
  {gap rest : List Char}

/-- Such a text is read with the names in the place of the type. -/
theorem TypePlace.Around.readFile (h : place.Around p text front gap names rear rest) :
    readFile text.toList = .ok (place.fill (.mk p [] [] false)) := by
  obtain ⟨last, hscan, hrest⟩ := h.cut
  refine hscan.readFile hrest ?_
  rw [place.tokens_fill, List.map_append, List.map_cons, List.map_append, h.before, h.behind,
    ← List.cons_append, h.names]
  simp [TypeTree.tokens]

/-- It is scanned up to the names, whatever stands there, and behind them. -/
theorem TypePlace.Around.scans (h : place.Around p text front gap names rear rest) :
    Blank gap ∧ Trailing rest ∧ (∀ c ∈ (written rear ++ rest).head?, isAsciiNameChar c = false) ∧
      (∀ other, Scan .start (written front ++ other) front
        ⟨place.before, .typing place.hole.slot [] .start⟩ other) ∧
      ∃ last, Scan ⟨place.before, .typing place.hole.slot [] (.path p)⟩ (written rear ++ rest) rear
        last rest := by
  obtain ⟨last, hscan, hrest⟩ := h.cut
  have hgap : Blank gap := (hscan.legible _ (List.mem_append_right _ List.mem_cons_self)).1
  rw [← List.cons_append] at hscan
  obtain ⟨s, left, hfront, hmore⟩ := hscan.split
  obtain ⟨s', left', hnames, hrear⟩ := hmore.split
  have hs : some s = some ⟨place.before, .typing place.hole.slot [] .start⟩ := by
    rw [← place.run_front, ← h.before, hfront.run]
  cases hs
  have hs' : some s' = some ⟨place.before, .typing place.hole.slot [] (.path p)⟩ := by
    rw [← hnames.run, List.map_cons, h.names, ← List.append_nil p.tokens, run_path]
    rfl
  cases hs'
  obtain rfl := hrear.eq_written
  refine ⟨hgap, hrest, ?_, fun other => hfront.replace fun part hp hm => ?_, last, hrear⟩
  · obtain ⟨tokens, name, he⟩ := p.exists_tokens_eq
    have hlast : (((gap, Token.name p.head) :: names).map Prod.snd).getLast? =
        some (.name name) := by
      rw [List.map_cons, h.names, he, List.getLast?_concat]
    rw [List.getLast?_map] at hlast
    obtain ⟨⟨before, t⟩, hpart, rfl⟩ := Option.map_eq_some_iff.mp hlast
    exact hnames.head_not_nameChar hpart
  · obtain ⟨tokens, m, he⟩ := place.hole.exists_front_eq
    have hlast : (front.map Prod.snd).getLast? = some (.mark m) := by
      rw [h.before, he, ← List.append_assoc, List.getLast?_concat]
    rw [List.getLast?_map, Option.mem_def.mp hp] at hlast
    exact absurd (Option.some.inj hlast) (hm m)

/-- The text of a type in the place of names is read as the type in that place. A type that is
several names takes the place of several names. -/
theorem TypePlace.Around.readFile_fill (h : place.Around p text front gap names rear rest)
    {type : TypeTree} (ht : type.Legible) (hd : type.Dotted → p.tail ≠ []) :
    Schema.readFile (writtenAround front gap rear rest type.text).toList =
      .ok (place.fill type) := by
  obtain ⟨hgap, hrest, hends, hfront, last, hrear⟩ := h.scans
  have hfirst : ∀ part ∈ rear.head?, part.2.endsType = true := by
    obtain ⟨t, more, he, hends⟩ := place.hole.rear_cons
    intro part hp
    have hhead : (rear.map Prod.snd).head? = some t := by
      rw [h.behind, he]
      rfl
    rw [List.head?_map, Option.mem_def.mp hp] at hhead
    exact Option.some.inj hhead ▸ hends
  obtain ⟨last', hbehind⟩ := hrear.behind_type hfirst hd
  have hall := (hfront _).trans ((ht.scan place.hole.slot hgap hends).trans hbehind)
  have htokens : (front ++ (type.parts gap ++ rear)).map Prod.snd =
      tokensOfFile (place.fill type) := by
    rw [place.tokens_fill, List.map_append, List.map_append, h.before, h.behind, type.map_snd_parts]
  have hread := hall.readFile hrest htokens
  rw [writtenAround, String.toList_ofList]
  simpa only [type.written_parts, List.append_assoc] using hread

end

/-- The header of a declaration has nothing to do with the type in its place. -/
theorem TypeHole.header_fill (hole : TypeHole) (type other : TypeTree) :
    (hole.fill type).header = (hole.fill other).header := by
  cases hole <;> rfl

/-- Neither have its accessor blocks. -/
theorem TypeHole.blocks_fill (hole : TypeHole) (type other : TypeTree) :
    (hole.fill type).members.filterMap (·.form.block?) =
      (hole.fill other).members.filterMap (·.form.block?) := by
  cases hole with
  | field owner ms name terminated others =>
    simp only [fill, List.filterMap_append, List.filterMap_cons, MemberForm.block?]
  | positional | base => rfl

/-- Whether a file has a meaning does not depend on the type in a place. -/
theorem TypePlace.meaningful_fill {place : TypePlace} {other : TypeTree}
    (h : (place.fill other).Meaningful) (type : TypeTree) : (place.fill type).Meaningful where
  blocks := by
    have hblocks : blocksOfFile (place.fill type) = blocksOfFile (place.fill other) := by
      simp only [blocksOfFile, fill, List.flatMap_append, List.flatMap_cons,
        place.hole.blocks_fill type other]
    exact hblocks ▸ h.blocks
  distinct := by
    have hnames : (typesOf (place.fill type)).map (·.header.name) =
        (typesOf (place.fill other)).map (·.header.name) := by
      simp only [typesOf, fill, List.filterMap_append, List.filterMap_cons, Item.declaration?,
        List.map_append, List.map_cons, place.hole.header_fill type other]
    exact hnames ▸ h.distinct

/-- The text of a type is captured again in every text in which it takes the place of names, or of
several names if it is several names: the new text is read with the type in that place, and if the
old one is parsed, the new one is parsed, and its declaration captures the text of the type. -/
def TypeTree.Recaptured (type : TypeTree) : Prop :=
  ∀ (place : TypePlace) (p : Path) (text : String) (front : List (List Char × Token))
    (gap : List Char) (names rear : List (List Char × Token)) (rest : List Char),
    place.Around p text front gap names rear rest → (type.Dotted → p.tail ≠ []) →
      readFile (writtenAround front gap rear rest type.text).toList = .ok (place.fill type) ∧
      ∀ old, parse text = .ok old → ∃ out d,
        parse (writtenAround front gap rear rest type.text) = .ok out ∧
        out[(typesOf place.before).length]? = some d ∧ place.hole.Captures d type.text

/-- Every type of names is captured again. -/
theorem TypeTree.Legible.recaptured {type : TypeTree} (h : type.Legible) : type.Recaptured := by
  intro place p text front gap names rear rest haround hdotted
  have hread := haround.readFile_fill h hdotted
  refine ⟨hread, fun old hold => ⟨declarationsFrom none (place.fill type),
    (place.hole.fill type).meaning (scopeBehind place.before), ?_, ?_, place.hole.captures_fill ..⟩⟩
  · obtain ⟨f, hf, hmeaning⟩ := exists_readFile_of_parse hold
    cases haround.readFile.symm.trans hf
    have hmeaningful := TypePlace.meaningful_fill (meaning_eq_ok_iff.mp hmeaning).1 type
    rw [parse_of_ok hread, meaning_eq_ok_iff.mpr ⟨hmeaningful, rfl⟩]
    rfl
  · rw [TypePlace.fill, declarationsFrom_append, Option.or_none,
      List.getElem?_append_right (Nat.le_of_eq (length_declarationsFrom ..)),
      length_declarationsFrom, Nat.sub_self]
    rfl

/-- The class `A` over a base type that is left out. -/
def heirPlace : TypePlace := ⟨[], .base ⟨[], .cls, "A"⟩ none [] [] [], []⟩

/-- The class `A` over a base type of two names. -/
theorem around_heirPlace : heirPlace.Around ⟨"T", ["T"]⟩ "class A:T.T\x7b\x7d"
    [([], .word .cls), ([' '], .name "A"), ([], .mark .colon)] []
    [([], .mark .dot), ([], .name "T")] [([], .mark .lbrace), ([], .mark .rbrace)] [] where
  cut := ⟨_, .cons .nil rfl rfl (.cons (.white rfl .nil) rfl rfl (.cons .nil rfl rfl
    (.cons .nil rfl rfl (.cons .nil rfl rfl (.cons .nil rfl rfl (.cons .nil rfl rfl
    (.cons .nil rfl rfl (.nil _ _)))))))), .blank .nil⟩
  before := rfl
  names := rfl
  behind := rfl

/-- No two types of names have the same text: a class over either of them would have one text, and a
text is read as one file. -/
theorem TypeTree.Legible.eq_of_text {type other : TypeTree} (h : type.Legible) (ho : other.Legible)
    (he : type.text = other.text) : type = other := by
  have hnames : ["T"] ≠ [] := List.cons_ne_nil "T" []
  have hread := around_heirPlace.readFile_fill h fun _ => hnames
  rw [he, around_heirPlace.readFile_fill ho fun _ => hnames] at hread
  have hfile : heirPlace.fill other = heirPlace.fill type := Except.ok.inj hread
  simpa [heirPlace, TypePlace.fill, TypeHole.fill, eq_comm] using hfile

/-! ## The types of a file -/

/-- The types of a member: its own and those of its parameters. -/
def MemberForm.types : MemberForm → List TypeTree
  | .property _ type _ | .field _ type _ => [type]
  | .indexer before last type _ => (before ++ [last]).map (·.type) ++ [type]
  | .method _ parameters result _ => parameters.map (·.type) ++ result.toList

/-- The types of a declaration: those of its positional parameters, its base types and those of its
members. -/
def TypeDeclaration.types (d : TypeDeclaration) : List TypeTree :=
  (d.parameters.getD []).map (·.type) ++ d.bases ++ d.members.flatMap (·.form.types)

/-- The types of a file. -/
def File.types (f : File) : List TypeTree := (typesOf f).flatMap TypeDeclaration.types

private theorem mem_separated {α : Type} {separator part : List α} {parts : List (List α)}
    (hp : part ∈ parts) {a : α} (ha : a ∈ part) : a ∈ separated separator parts := by
  obtain ⟨before, others, rfl⟩ := List.append_of_mem hp
  rw [separated_append_cons]
  exact List.mem_append_right _ (List.mem_append_left _ ha)

/-- The tokens of the type of a parameter are among those of the parameters. -/
theorem mem_parameterTokens {ps : List Parameter} {type : TypeTree} (h : type ∈ ps.map (·.type))
    {t : Token} (ht : t ∈ type.tokens) : t ∈ parameterTokens ps := by
  obtain ⟨p, hp, rfl⟩ := List.mem_map.mp h
  exact mem_separated (List.mem_map_of_mem hp) (List.mem_cons_of_mem _ (List.mem_cons_of_mem _ ht))

/-- The tokens of the types of a member are among its tokens. -/
theorem MemberForm.mem_tokens {form : MemberForm} {type : TypeTree} (h : type ∈ form.types)
    {t : Token} (ht : t ∈ type.tokens) : t ∈ form.tokens := by
  cases form with
  | property | field =>
    cases List.mem_singleton.mp h
    simp [tokens, ht]
  | indexer before last own block =>
    rcases List.mem_append.mp h with h | h
    · simp [tokens, mem_parameterTokens h ht]
    · cases List.mem_singleton.mp h
      simp [tokens, ht]
  | method name parameters result terminated =>
    rcases List.mem_append.mp h with h | h
    · simp [tokens, mem_parameterTokens h ht]
    · cases Option.mem_toList.mp h
      simp [tokens, resultTokens, ht]

/-- The tokens of the types of a declaration are among its tokens. -/
theorem TypeDeclaration.mem_tokens {d : TypeDeclaration} {type : TypeTree} (h : type ∈ d.types)
    {t : Token} (ht : t ∈ type.tokens) : t ∈ d.tokens := by
  obtain ⟨header, parameters, bases, members⟩ := d
  simp only [tokens, openTokens, List.append_assoc, List.mem_append, List.mem_cons]
  rcases List.mem_append.mp h with h | h
  · rcases List.mem_append.mp h with h | h
    · cases parameters with
      | none => cases h
      | some ps =>
        have hps : type ∈ ps.map (·.type) := h
        simp [optionalParameters, parenthesized, mem_parameterTokens hps ht]
    · have hbases : t ∈ baseTokens bases := by
        rw [baseTokens, tokensOfTypes_eq]
        cases bases with
        | nil => cases h
        | cons first others =>
          exact List.mem_cons_of_mem _ (mem_separated (List.mem_map_of_mem h) ht)
      exact .inr (.inr (.inl hbases))
  · obtain ⟨m, hm, h⟩ := List.mem_flatMap.mp h
    have hmember : t ∈ members.flatMap MemberTree.tokens :=
      List.mem_flatMap.mpr ⟨m, hm, List.mem_append_right _ (MemberForm.mem_tokens h ht)⟩
    exact .inr (.inr (.inr (.inl (.inr hmember))))

/-- The types of a text that is read are types of names. -/
theorem legible_of_mem_types {text : List Char} {f : File} (h : readFile text = .ok f)
    {type : TypeTree} (ht : type ∈ f.types) : type.Legible := by
  obtain ⟨d, hd, htype⟩ := List.mem_flatMap.mp ht
  obtain ⟨item, hitem, he⟩ := List.mem_filterMap.mp hd
  intro t hmem
  refine legible_of_readFile h t (List.mem_flatMap.mpr ⟨item, hitem, ?_⟩)
  cases item with
  | scope => cases he
  | type d' =>
    cases he
    exact TypeDeclaration.mem_tokens htype hmem

/-- The text that a declaration holds as a type is that of one of the given types, or it says that a
method has no result. -/
structure Holds (types : List TypeTree) (d : Declaration) : Prop where
  /-- Its bases are such texts. -/
  bases : ∀ base ∈ d.bases, ∃ type ∈ types, type.text = base
  /-- So are the types of its members. -/
  members : ∀ m ∈ d.members,
    (∃ type ∈ types, type.text = m.type) ∨ m.kind = .method ∧ m.type = "void"

/-- A declaration holds the texts of its types. -/
theorem TypeDeclaration.holds_meaning (d : TypeDeclaration) (scope : Option String) :
    Holds d.types (d.meaning scope) where
  bases := by
    intro base hb
    obtain ⟨type, ht, rfl⟩ := List.mem_map.mp hb
    exact ⟨type, List.mem_append_left _ (List.mem_append_right _ ht), rfl⟩
  members := by
    intro m hm
    rcases List.mem_append.mp hm with hm | hm
    · obtain ⟨-, ps, hp, p, hmem, -, rfl⟩ := mem_positional_iff.mp hm
      have htypes : p.type ∈ (d.parameters.getD []).map (·.type) := by
        rw [hp, Option.getD_some]
        exact List.mem_map_of_mem hmem
      exact .inl ⟨p.type, List.mem_append_left _ (List.mem_append_left _ htypes), rfl⟩
    · obtain ⟨⟨ms, form⟩, hmem, rfl⟩ := List.mem_map.mp hm
      have hform {type : TypeTree} (ht : type ∈ form.types) : type ∈ d.types :=
        List.mem_append_right _ (List.mem_flatMap.mpr ⟨_, hmem, ht⟩)
      cases form with
      | property name type block => exact .inl ⟨type, hform List.mem_cons_self, rfl⟩
      | field name type terminated => exact .inl ⟨type, hform List.mem_cons_self, rfl⟩
      | indexer before last type block =>
        exact .inl ⟨type, hform (List.mem_append_right _ List.mem_cons_self), rfl⟩
      | method name parameters result terminated => cases result with
        | none => exact .inr ⟨rfl, rfl⟩
        | some type => exact .inl ⟨type, hform (List.mem_append_right _ List.mem_cons_self), rfl⟩

/-- Declarations hold the texts of the types of their file. -/
theorem holds_declarationsFrom (f : File) (scope : Option String) :
    ∀ d ∈ declarationsFrom scope f, Holds f.types d := by
  induction f generalizing scope with
  | nil => exact fun d hd => absurd hd List.not_mem_nil
  | cons item f ih =>
    cases item with
    | scope path terminated => exact ih (some path.text)
    | type first =>
      have hwider {types : List TypeTree} {d : Declaration} (h : Holds types d)
          (hsub : ∀ type ∈ types, type ∈ File.types (.type first :: f)) :
          Holds (File.types (.type first :: f)) d :=
        ⟨fun base hb => (h.bases base hb).imp fun type ht => ⟨hsub type ht.1, ht.2⟩,
          fun m hm => (h.members m hm).imp_left fun hex => hex.imp fun type ht =>
            ⟨hsub type ht.1, ht.2⟩⟩
      intro d hd
      rcases List.mem_cons.mp hd with rfl | hd
      · exact hwider (first.holds_meaning scope) fun type ht => List.mem_append_left _ ht
      · exact hwider (ih scope d hd) fun type ht => List.mem_append_right _ ht

/-- The text of a type is canonical and loses nothing of the type. -/
structure TypeTree.Faithful (type : TypeTree) : Prop where
  /-- It has no comment and no white space but one space behind each comma between arguments. -/
  tidy : Tidy false type.text.toList
  /-- Written as a type, it is captured again. -/
  recaptured : type.Recaptured
  /-- No other type that is captured from any text has it. -/
  unique : ∀ other g, readFile other = .ok g → ∀ same ∈ g.types, same.text = type.text → same = type
  /-- No other type that is captured from any text was written like it. -/
  source : ∀ other g, readFile other = .ok g → ∀ same ∈ g.types,
    ∀ (parts : List (List Char × Token)) (gap : List Char), (∀ part ∈ parts, Blank part.1) →
      parts.map Prod.snd = same.tokens → Blank gap → written parts = gap ++ type.text.toList →
        same = type

/-- Whatever a text that is parsed holds as types are the texts of the types of a file, and these
texts are canonical and lose nothing. -/
theorem captured_types_of_parse {text : String} {out : List Declaration}
    (h : parse text = .ok out) :
    ∃ f, readFile text.toList = .ok f ∧ (∀ d ∈ out, Holds f.types d) ∧
      ∀ type ∈ f.types, type.Faithful := by
  obtain ⟨f, hread, hmeaning⟩ := exists_readFile_of_parse h
  obtain ⟨-, rfl⟩ := meaning_eq_ok_iff.mp hmeaning
  refine ⟨f, hread, holds_declarationsFrom f none, fun type ht => ?_⟩
  have hlegible := legible_of_mem_types hread ht
  exact
    { tidy := type.tidy_text hlegible
      recaptured := hlegible.recaptured
      unique := fun other g hg same hs he =>
        (legible_of_mem_types hg hs).eq_of_text hlegible he
      source := fun other g hg same hs parts gap hb hp hgap hw =>
        (legible_of_mem_types hg hs).eq_of_text hlegible
          (hlegible.text_eq_of_written (legible_of_mem_types hg hs) hb hp hgap hw) }

/-- A field whose type is named by keywords gives a text that is a base type again. -/
theorem captured_types_of_keywords :
    (∃ out, parse "class A \x7b x:record.class<this< public,set>>[, ,]? \x7d" = .ok out) ∧
      Tidy false "record.class<this<public, set>>[,,]?".toList ∧
      ∃ out d, parse "class A:record.class<this<public, set>>[,,]?\x7b\x7d" = .ok out ∧
        out[0]? = some d ∧ d.bases = ["record.class<this<public, set>>[,,]?"] := by
  let type : TypeTree := .mk ⟨"record", ["class"]⟩
    [.mk ⟨"this", []⟩ [.mk ⟨"public", []⟩ [] [] false,
      .mk ⟨"set", []⟩ [] [] false] [] false] [2] true
  have htext : type.text = "record.class<this<public, set>>[,,]?" := by decide
  have hread : readFile "class A \x7b x:record.class<this< public,set>>[, ,]? \x7d".toList =
      .ok [.type ⟨⟨[], .cls, "A"⟩, none, [], [⟨[], .field "x" type false⟩]⟩] := by
    rw [readFile]
    repeat rw [readFrom_token rfl rfl rfl]
    exact readFrom_blank rfl rfl
  have hparse : parse "class A \x7b x:record.class<this< public,set>>[, ,]? \x7d" = .ok _ :=
    parse_of_ok hread
  obtain ⟨f, hf, -, htypes⟩ := captured_types_of_parse hparse
  cases hread.symm.trans hf
  obtain ⟨htidy, hrecaptured, -, -⟩ := htypes type List.mem_cons_self
  rw [htext] at htidy
  have hheir : parse "class A:T.T\x7b\x7d" = .ok _ := parse_of_ok around_heirPlace.readFile
  obtain ⟨-, hcaptured⟩ := hrecaptured heirPlace _ _ _ _ _ _ _ around_heirPlace
    fun _ => List.cons_ne_nil "T" []
  obtain ⟨out, d, hout, hd, hbases⟩ := hcaptured _ hheir
  rw [htext] at hout hbases
  exact ⟨⟨_, hparse⟩, htidy, out, d, hout, hd, hbases⟩

end KeyedAccess.Schema
