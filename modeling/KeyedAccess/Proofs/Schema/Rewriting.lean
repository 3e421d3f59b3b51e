import KeyedAccess.Proofs.Schema.Parts

/-!
# Rewriting syntax trees of the grammar

Every node of a derivation finds among the parts of its children exactly what it looks for, whatever
is left out or repeated. So the rewriting of such a tree fails only at an accessor block that is not
sound, the first one in source order, or at a name that is declared again, and what it gives is what
the file of the derivation means.
-/

namespace KeyedAccess.Schema

/-! ## Nodes -/

/-- What the modifiers of a node stand for. -/
def modifierParts (ms : List Modifier) : List Part := ms.map fun m => .modifier m.text

private theorem filterMap_modifierParts {β : Type} {select : Part → Option β}
    (h : ∀ text, select (.modifier text) = none) (ms : List Modifier) (parts : List Part) :
    (modifierParts ms ++ parts).filterMap select = parts.filterMap select := by
  have hnil : (modifierParts ms).filterMap select = [] :=
    filterMap_map_eq_nil (fun m : Modifier => .modifier m.text) (fun m => h m.text) ms
  rw [List.filterMap_append, hnil, List.nil_append]

private theorem firstName_modifierParts (ms : List Modifier) (parts : List Part) :
    firstName (modifierParts ms ++ parts) = firstName parts := by
  have hnone : (modifierParts ms).findSome? Part.name? = none := by
    rw [List.findSome?_eq_none_iff]
    intro p hp
    obtain ⟨m, -, rfl⟩ := List.mem_map.mp hp
    rfl
  rw [firstName, firstName, List.findSome?_append, hnone, Option.none_or]

private theorem filterMap_modifier_modifierParts (ms : List Modifier) (parts : List Part)
    (h : parts.filterMap Part.modifier? = []) :
    (modifierParts ms ++ parts).filterMap Part.modifier? = ms.map Modifier.text := by
  have hmap : (modifierParts ms).filterMap Part.modifier? = ms.map Modifier.text :=
    filterMap_map_eq_map (fun m : Modifier => .modifier m.text) Modifier.text
      (fun _ => rfl) ms
  rw [List.filterMap_append, h, List.append_nil, hmap]

private theorem blockMember_modifierParts (kind : MemberKind) (name : String) (ms : List Modifier)
    (type : TypeTree) (block : List AccessorTree) {parts : List Part}
    (ht : parts.filterMap Part.type? = [type.text])
    (ha : parts.filterMap Part.accessors? = [block.map (·.kind.text)])
    (hm : parts.filterMap Part.modifier? = []) :
    blockMember kind name (modifierParts ms ++ parts) = .ok (.member
      { name, type := type.text, kind, accessibility := accessibility ms, hasGetter := hasGet block,
        setter := setterOf block }) := by
  have haccessors : required Part.accessors? (modifierParts ms ++ parts) = .ok _ :=
    required_eq_ok ((filterMap_modifierParts (fun _ => rfl) ms parts).trans ha)
  have htype : required Part.type? (modifierParts ms ++ parts) = .ok _ :=
    required_eq_ok ((filterMap_modifierParts (fun _ => rfl) ms parts).trans ht)
  have hget : (block.map (·.kind.text)).contains "get" = hasGet block :=
    contains_kind_text block .get
  simp only [blockMember, haccessors, htype, bind, Except.bind, pure, Except.pure,
    filterMap_modifier_modifierParts ms parts hm, accessibilityOf_map, setterFrom_map, hget]

private theorem filterMap_optionalParameters {β : Type} {select : Part → Option β}
    (hg : select .gap = none) (h : ∀ name text, select (.parameter name text) = none)
    (v : Option (Parameter × List (Unit × Parameter))) :
    ((Form.optional (.list .comma (.rule .parameter))).parts false v).filterMap select = [] := by
  cases v with
  | none =>
    rw [List.filterMap_eq_nil_iff]
    intro p hp
    obtain rfl := List.mem_singleton.mp hp
    exact hg
  | some v =>
    have hparts : (Form.optional (.list .comma (.rule .parameter))).parts false (some v) = _ :=
      parts_list .comma .parameter v
    rw [hparts]
    exact filterMap_map_eq_nil Rule.parameter.part (fun p => h p.name p.type.text) _

private theorem rewrite_property (ms : List Modifier) (n : String) (type : TypeTree)
    (block : List AccessorTree) :
    Label.property.rewrite (Rule.member.body.parts false (.inl (ms, n, (), type, block))) =
      .ok (.member (MemberTree.mk ms (.property n type block)).meaning) := by
  have hparts : Rule.member.body.parts false (.inl (ms, n, (), type, block)) =
      modifierParts ms ++
        [Part.token (.name n), .type type.text, .accessors (block.map (·.kind.text))] :=
    congrArg (· ++ _) (parts_many false .modifier ms)
  rw [hparts, Label.rewrite, firstName_modifierParts]
  exact blockMember_modifierParts .property n ms type block rfl rfl rfl

private theorem rewrite_field (ms : List Modifier) (n : String) (type : TypeTree)
    (terminated : Option Unit) :
    Label.field.rewrite
        (Rule.member.body.parts false (.inr (.inl (ms, n, (), type, terminated)))) =
      .ok (.member (MemberTree.mk ms (.field n type terminated.isSome)).meaning) := by
  have hparts : Rule.member.body.parts false (.inr (.inl (ms, n, (), type, terminated))) =
      modifierParts ms ++ [Part.token (.name n), .type type.text] := by
    cases terminated <;> exact congrArg (· ++ _) (parts_many false .modifier ms)
  have htype : required Part.type? (modifierParts ms ++ [Part.token (.name n), .type type.text]) =
      .ok type.text := required_eq_ok (filterMap_modifierParts (fun _ => rfl) ms _)
  have hmodifiers := filterMap_modifier_modifierParts ms
    [Part.token (.name n), .type type.text] rfl
  simp only [hparts, Label.rewrite, htype, firstName_modifierParts, hmodifiers, accessibilityOf_map]
  rfl

private theorem rewrite_indexer (ms : List Modifier) (ps : Parameter × List (Unit × Parameter))
    (type : TypeTree) (block : List AccessorTree) :
    Label.indexer.rewrite (Rule.member.body.parts false
        (.inr (.inr (.inl (ms, (), (), ps, (), (), type, block))))) =
      .ok (.member (MemberTree.mk ms (.indexer (listOf ps).dropLast
        ((listOf ps).getLast (listOf_ne_nil ps)) type block)).meaning) := by
  have hparts : Rule.member.body.parts false
      (.inr (.inr (.inl (ms, (), (), ps, (), (), type, block)))) =
      modifierParts ms ++ ((listOf ps).map Rule.parameter.part ++
        [Part.type type.text, .accessors (block.map (·.kind.text))]) :=
    congr (congrArg HAppend.hAppend (parts_many false .modifier ms))
      (congrArg (· ++ _) (parts_list .comma .parameter ps))
  have hskip : ∀ {β : Type} {select : Part → Option β},
      (∀ name text, select (.parameter name text) = none) → ∀ parts,
      ((listOf ps).map Rule.parameter.part ++ parts).filterMap select = parts.filterMap select := by
    intro β select h parts
    rw [List.filterMap_append, filterMap_map_eq_nil Rule.parameter.part
      (fun p => h p.name p.type.text), List.nil_append]
  rw [hparts, Label.rewrite]
  exact blockMember_modifierParts .indexer "this" ms type block (hskip (fun _ _ => rfl) _)
    (hskip (fun _ _ => rfl) _) (hskip (fun _ _ => rfl) _)

private theorem rewrite_method (ms : List Modifier) (n : String)
    (ps : Option (Parameter × List (Unit × Parameter))) (result : Option (Unit × TypeTree))
    (terminated : Option Unit) :
    Label.method.rewrite (Rule.member.body.parts false
        (.inr (.inr (.inr (ms, n, (), ps, (), result, terminated))))) =
      .ok (.member (MemberTree.mk ms (.method n ((ps.map listOf).getD []) (result.map (·.2))
        terminated.isSome)).meaning) := by
  let parameters := (Form.optional (.list .comma (.rule .parameter))).parts false ps
  let results := (Form.optional (.seq (.mark .colon) (.rule .type))).parts false result
  have hparts : Rule.member.body.parts false
      (.inr (.inr (.inr (ms, n, (), ps, (), result, terminated)))) =
      modifierParts ms ++ (.token (.name n) :: (parameters ++ results)) := by
    have hend : results ++ (Form.optional (.mark .semicolon)).parts false terminated = results := by
      cases terminated <;> exact List.append_nil _
    exact congr (congrArg HAppend.hAppend (parts_many false .modifier ms))
      (congrArg (fun parts : List Part => Part.token (.name n) :: (parameters ++ parts)) hend)
  have hresults : results.filterMap Part.type? = (result.map fun v => v.2.text).toList ∧
      results.filterMap Part.modifier? = [] := by
    cases result <;> exact ⟨rfl, rfl⟩
  have htype : findOne Part.type?
      (modifierParts ms ++ (.token (.name n) :: (parameters ++ results))) =
        .ok (result.map fun v => v.2.text) := by
    refine findOne_eq_toList ?_
    rw [filterMap_modifierParts fun _ => rfl]
    refine (List.filterMap_append ..).trans ?_
    rw [filterMap_optionalParameters rfl (fun _ _ => rfl), hresults.1, List.nil_append]
  have hmodifiers := filterMap_modifier_modifierParts ms
    (.token (.name n) :: (parameters ++ results)) <| by
      refine (List.filterMap_append ..).trans ?_
      rw [filterMap_optionalParameters rfl (fun _ _ => rfl), hresults.2, List.nil_append]
  have hname : firstName (modifierParts ms ++ (.token (.name n) :: (parameters ++ results))) =
      .ok n :=
    firstName_modifierParts ms _
  simp only [hparts, Label.rewrite, htype, hname, hmodifiers, accessibilityOf_map]
  cases result <;> rfl

private theorem positionalFrom_map (d : TypeDeclaration) (declared : List Member) :
    positionalFrom d.header.kind.text (d.header.modifiers.map Modifier.text) declared
        (d.parameters.map fun ps => ps.map fun p => (p.name, p.type.text)) =
      d.positional declared := by
  have hrecord : "record".toList.isPrefixOf d.header.kind.text.toList = d.header.kind.isRecord := by
    cases d.header.kind <;> decide
  have hstruct : (d.header.kind.text == "record struct") = (d.header.kind == .recordStruct) := by
    cases d.header.kind <;> decide
  have hconstant : (d.header.modifiers.map Modifier.text).contains "readonly" =
      d.header.modifiers.contains .constant :=
    contains_map_text Modifier.text_injective d.header.modifiers .constant
  unfold positionalFrom TypeDeclaration.positional
  cases d.parameters with
  | none => rfl
  | some ps =>
    simp only [Option.map_some, hrecord, hstruct, hconstant, List.filter_map, List.map_map]
    rfl

/-- The parameters of a type are rewritten to those of its tree. -/
theorem rewrite_parameters (w : Rule.parameters.body.Value) :
    Label.parameters.rewrite (Rule.parameters.body.parts false w) =
      .ok (Rule.parameters.part (Rule.parameters.build w)) := by
  obtain ⟨u, ps, u₁⟩ := w
  have hfound : ((Form.optional (.list .comma (.rule .parameter))).parts false ps).filterMap
      Part.parameter? = ((ps.map listOf).getD []).map fun p => (p.name, p.type.text) := by
    cases ps with
    | none => rfl
    | some ps =>
      have hparts : (Form.optional (.list .comma (.rule .parameter))).parts false (some ps) = _ :=
        parts_list .comma .parameter ps
      rw [hparts]
      exact filterMap_map_eq_map Rule.parameter.part
        (fun p => (p.name, p.type.text)) (fun _ => rfl) _
  exact congrArg (fun values => Except.ok (Part.parameters values))
    ((congrArg (List.filterMap _) (List.append_nil _)).trans hfound)

/-- So is that of the base types. -/
theorem rewrite_bases (w : Rule.bases.body.Value) :
    Label.bases.rewrite (Rule.bases.body.parts false w) =
      .ok (Rule.bases.part (Rule.bases.build w)) := by
  have hfound : ((listOf w.2).map Rule.type.part).filterMap Part.type? =
      (listOf w.2).map TypeTree.text :=
    filterMap_map_eq_map Rule.type.part TypeTree.text (fun _ => rfl) _
  exact congrArg (fun values => Except.ok (Part.bases values))
    ((congrArg (List.filterMap _) (parts_list .comma .type w.2)).trans hfound)

/-- The parts of a declaration behind its modifiers. -/
def declarationParts (k : Kind) (n : String) (ps : Option (List Parameter))
    (bases : Option (TypeTree × List TypeTree)) (members : List MemberTree) : List Part :=
  [Part.kind k.text, .token (.name n)] ++ ((ps.map Rule.parameters.part).toList ++
    ((bases.map Rule.bases.part).toList ++ members.map Rule.member.part))

/-- A declaration consists of its modifiers and these parts. -/
theorem parts_declaration (ms : List Modifier) (k : Kind) (n : String)
    (ps : Option (List Parameter)) (bases : Option (TypeTree × List TypeTree)) (u u₁ : Unit)
    (members : List MemberTree) :
    Rule.declaration.body.parts false (ms, k, n, ps, bases, u, members, u₁) =
      modifierParts ms ++ declarationParts k n ps bases members := by
  have hmembers : (Form.many (.rule .member)).parts false members ++ [] =
      members.map Rule.member.part := by rw [List.append_nil, parts_many]
  refine congr (congrArg HAppend.hAppend (parts_many false .modifier ms)) ?_
  cases ps <;> cases bases <;>
    exact congrArg (fun last => [Part.kind k.text, .token (.name n)] ++ (_ ++ (_ ++ last)))
      hmembers

private theorem filterMap_declarationParts {β : Type} {select : Part → Option β}
    (h : ∀ m, select (.member m) = none) (k : Kind) (n : String)
    (ps : Option (List Parameter)) (bases : Option (TypeTree × List TypeTree))
    (members : List MemberTree) :
    (declarationParts k n ps bases members).filterMap select =
      (declarationParts k n ps bases []).filterMap select := by
  have hmembers : (members.map Rule.member.part).filterMap select = [] :=
    filterMap_map_eq_nil Rule.member.part (fun m => h m.meaning) members
  simp only [declarationParts, List.filterMap_append, hmembers, List.map_nil, List.filterMap_nil]

private theorem filterMap_member_declarationParts (k : Kind) (n : String)
    (ps : Option (List Parameter)) (bases : Option (TypeTree × List TypeTree))
    (members : List MemberTree) :
    (declarationParts k n ps bases members).filterMap Part.member? =
      members.map MemberTree.meaning := by
  have hmembers : (members.map Rule.member.part).filterMap Part.member? =
      members.map MemberTree.meaning :=
    filterMap_map_eq_map Rule.member.part MemberTree.meaning (fun _ => rfl) members
  simp only [declarationParts, List.filterMap_append, hmembers]
  cases ps <;> cases bases <;> rfl

/-- The node of a declaration is rewritten to what it means in no namespace. -/
theorem rewrite_declaration (w : Rule.declaration.body.Value) :
    Label.declaration.rewrite (Rule.declaration.body.parts false w) =
      .ok (.declaration ((declarationOf w).meaning none)) := by
  obtain ⟨ms, k, n, ps, bases, u, members, u₁⟩ := w
  -- what is neither a modifier nor a member is found among the few parts between them
  have hbetween {β : Type} {select : Part → Option β} (hm : ∀ text, select (.modifier text) = none)
      (h : ∀ m, select (.member m) = none) :
      (modifierParts ms ++ declarationParts k n ps bases members).filterMap select =
        (declarationParts k n ps bases []).filterMap select :=
    (filterMap_modifierParts hm ms _).trans (filterMap_declarationParts h k n ps bases members)
  have hkind : required Part.kind? (modifierParts ms ++ declarationParts k n ps bases members) =
      .ok k.text := by
    refine required_eq_ok ((hbetween (fun _ => rfl) fun _ => rfl).trans ?_)
    cases ps <;> cases bases <;> rfl
  have hparameters :
      findOne Part.parameters? (modifierParts ms ++ declarationParts k n ps bases members) =
        .ok (ps.map fun ps => ps.map fun p => (p.name, p.type.text)) := by
    refine findOne_eq_toList ((hbetween (fun _ => rfl) fun _ => rfl).trans ?_)
    cases ps <;> cases bases <;> rfl
  have hbases : findOne Part.bases? (modifierParts ms ++ declarationParts k n ps bases members) =
      .ok (bases.map fun b => (b.1 :: b.2).map TypeTree.text) := by
    refine findOne_eq_toList ((hbetween (fun _ => rfl) fun _ => rfl).trans ?_)
    cases ps <;> cases bases <;> rfl
  have hbody := (filterMap_modifierParts (fun _ => rfl) ms _).trans
    (filterMap_member_declarationParts k n ps bases members)
  have hmodifiers := filterMap_modifier_modifierParts ms (declarationParts k n ps bases members) (by
    refine (filterMap_declarationParts (fun _ => rfl) k n ps bases members).trans ?_
    cases ps <;> cases bases <;> rfl)
  have hname : firstName (modifierParts ms ++ declarationParts k n ps bases members) = .ok n :=
    firstName_modifierParts ms _
  have hpartial : (ms.map Modifier.text).contains "partial" = ms.contains .augmentable :=
    contains_map_text Modifier.text_injective ms .augmentable
  have hpositional : positionalFrom k.text (ms.map Modifier.text) (members.map MemberTree.meaning)
      (ps.map fun ps => ps.map fun p => (p.name, p.type.text)) =
      (declarationOf (ms, k, n, ps, bases, u, members, u₁)).positional
        (members.map MemberTree.meaning) :=
    positionalFrom_map (declarationOf (ms, k, n, ps, bases, u, members, u₁)) _
  rw [parts_declaration, Label.rewrite, declarationFrom, hkind]
  simp only [hparameters, hbases, hbody, hmodifiers, hname, hpartial, hpositional, bind,
    Except.bind, pure, Except.pure]
  cases bases <;> rfl

/-- The node of a type is rewritten to the text of the type. -/
theorem rewrite_type (w : Rule.type.body.Value) :
    Label.type.rewrite (Rule.type.body.parts false w) = .ok (.type (typeOf w).text) := by
  obtain ⟨p, arguments, ranks, mark⟩ := w
  let texts : List String := [p.text] ++
    ((arguments.map fun a => "<" ++ textOfTypes (a.1 :: a.2) ++ ">").toList ++
      (ranks.map rankText ++ (mark.map fun _ => "?").toList))
  have hparts : Rule.type.body.parts false (p, arguments, ranks, mark) = texts.map .text := by
    have hranks : (Form.many (.rule .arraySuffix)).parts false ranks =
        (ranks.map rankText).map .text := by
      rw [parts_many, List.map_map]
      rfl
    simp only [texts, List.map_append, ← hranks]
    cases arguments <;> cases mark <;> rfl
  have htexts : textsOf Part.shown? (texts.map .text) = .ok (texts.map id) :=
    textsOf_map (fun _ => rfl) texts
  have hjoin : String.join texts = (typeOf (p, arguments, ranks, mark)).text := by
    cases arguments <;> cases mark <;> simp [texts, typeOf, TypeTree.text, String.append_assoc]
  rw [hparts, Label.rewrite, htexts, List.map_id, ← hjoin]
  rfl

private theorem rewrite_names (w : String × List (Unit × String)) {label : Label}
    (hl : label = .dottedName ∨ label = .typeName) :
    label.rewrite ((Form.list .dot .name).parts false w) = .ok (.text (pathOf w).text) := by
  have htexts : textsOf Part.shown? ((listOf w).map fun name => .token (.name name)) =
      .ok ((listOf w).map id) := textsOf_map (fun _ => rfl) (listOf w)
  rw [List.map_id] at htexts
  rcases hl with rfl | rfl <;> rw [parts_names, Label.rewrite, htexts] <;> rfl

private theorem rewrite_typeArgs (w : Rule.typeArgs.body.Value) :
    Label.typeArgs.rewrite (Rule.typeArgs.body.parts false w) =
      .ok (Rule.typeArgs.part (Rule.typeArgs.build w)) := by
  obtain ⟨u, types, u₁⟩ := w
  have hparts : Rule.typeArgs.body.parts false (u, types, u₁) =
      (listOf types).map Rule.type.part := (List.append_nil _).trans (parts_list .comma .type types)
  have htexts : textsOf Part.type? ((listOf types).map Rule.type.part) = .ok _ :=
    textsOf_map (fun _ => rfl) (listOf types)
  rw [hparts, Label.rewrite, htexts]
  exact congrArg (fun text => Except.ok (Part.text ("<" ++ text ++ ">")))
    (intercalate_text (listOf types))

private theorem rewrite_arraySuffix (w : Rule.arraySuffix.body.Value) :
    Label.arraySuffix.rewrite (Rule.arraySuffix.body.parts true w) =
      .ok (.text (rankText w.2.1.length)) := by
  obtain ⟨u, commas, u₁⟩ := w
  let marks : List Mark := .lsqb :: (commas.map (fun _ => Mark.comma) ++ [Mark.rsqb])
  have hparts : Rule.arraySuffix.body.parts true (u, commas, u₁) =
      marks.map fun m => .token (.mark m) := by
    have hcommas : (Form.many (.mark .comma)).parts true commas =
        commas.map fun _ => Part.token (.mark .comma) := List.map_eq_flatMap.symm
    simp only [marks, List.map_cons, List.map_append, List.map_map, List.map_nil]
    exact congrArg (fun parts => Part.token (.mark .lsqb) :: (parts ++ [_])) hcommas
  have htexts : textsOf Part.shown? (marks.map fun m => .token (.mark m)) = .ok _ :=
    textsOf_map (fun _ => rfl) marks
  have hjoin : String.join (marks.map fun m => (Token.mark m).text) = rankText commas.length := by
    have hcommas : ∀ commas : List Unit,
        (String.join (commas.map fun _ => (Token.mark .comma).text)).toList =
          List.replicate commas.length ',' := by
      intro commas
      induction commas with
      | nil => rfl
      | cons _ commas ih =>
        rw [List.map_cons, String.join_cons, String.toList_append, ih]
        rfl
    rw [← String.toList_inj]
    simp only [marks, List.map_cons, List.map_append, List.map_map, List.map_nil, String.join_cons,
      String.join_append, String.join_nil, String.toList_append, rankText, String.toList_ofList]
    exact congrArg (fun chars => '[' :: (chars ++ [']'])) (hcommas commas)
  rw [hparts, Label.rewrite, htexts]
  exact congrArg (fun text => Except.ok (Part.text text)) hjoin

/-- The nodes of all rules but those of accessor blocks are rewritten to what they stand for. -/
theorem Rule.rewrite_parts {r : Rule} (hr : r ≠ .accessors) (w : r.body.Value) {label : Label}
    (hl : r.label? (r.body.branch w) = some label) :
    label.rewrite (r.body.parts r.keepsTokens w) = .ok (r.part (r.build w)) := by
  cases r with
  | accessors => exact absurd rfl hr
  | item => cases hl
  | start =>
    cases hl
    exact congrArg (fun parts => Except.ok (Part.items parts)) (parts_many false .item w)
  | dottedName =>
    cases hl
    exact rewrite_names w (.inl rfl)
  | typeName =>
    cases hl
    exact rewrite_names w (.inr rfl)
  | declaration =>
    cases hl
    exact rewrite_declaration w
  | modifier =>
    cases hl
    have hword : Word.modifiers.get w = .modifier (Modifier.all.get w) := List.getElem_map _
    exact congrArg (fun word => Except.ok (Part.modifier (Word.text word))) hword
  | parameters =>
    cases hl
    exact rewrite_parameters w
  | bases =>
    cases hl
    exact rewrite_bases w
  | member =>
    rcases w with w | w | w | w
    · cases hl
      exact rewrite_property ..
    · cases hl
      exact rewrite_field ..
    · cases hl
      exact rewrite_indexer ..
    · cases hl
      exact rewrite_method ..
  | accessor =>
    cases hl
    have hword : ∀ i, (Word.accessors.get i).text = (accessorOptions.get i).text := by decide
    exact congrArg (fun text => Except.ok (Part.text text)) (hword w.1)
  | type =>
    cases hl
    exact rewrite_type w
  | typeArgs =>
    cases hl
    exact rewrite_typeArgs w
  | arraySuffix =>
    cases hl
    exact rewrite_arraySuffix w
  | kind =>
    cases hl
    rcases w with u | ⟨u, u₁⟩ | ⟨u, u₁⟩ | u | u <;> rfl
  | scope | parameter | nullable =>
    cases hl
    rfl

/-- The node of an accessor block fails exactly if the block is not sound. -/
theorem rewrite_accessors (w : Rule.accessors.body.Value) :
    Label.accessors.rewrite (Rule.accessors.body.parts false w) =
      unlessFaulty [w.2.1] (Rule.accessors.part w.2.1) := by
  obtain ⟨u, block, u₁⟩ := w
  have hparts : Rule.accessors.body.parts false (u, block, u₁) = block.map Rule.accessor.part :=
    (List.append_nil _).trans (parts_many false .accessor block)
  have htexts : textsOf Part.shown? (block.map Rule.accessor.part) =
      .ok (block.map (·.kind.text)) := textsOf_map (fun _ => rfl) block
  rw [hparts, Label.rewrite, htexts]
  exact blockFrom_map block

/-- A node fails at the first block among its parts that is not sound, and otherwise stands for what
its rule builds. -/
theorem Rule.rewrite_node (r : Rule) (w : r.body.Value) {label : Label}
    (hl : r.label? (r.body.branch w) = some label) :
    (unlessFaulty (r.body.blocks w) (r.body.parts r.keepsTokens w) >>= label.rewrite) =
      unlessFaulty (r.blocks (r.build w)) (r.part (r.build w)) := by
  by_cases hr : r = .accessors
  · subst hr
    cases hl
    have hnone : Rule.accessors.body.blocks w = [] := Form.blocks_eq_nil rfl w
    rw [hnone]
    exact rewrite_accessors w
  · rw [unlessFaulty_bind (Rule.rewrite_parts hr w hl), Rule.blocks_build hr]

/-- Only a statement has no node of its own; it stands for the statement that it consists of. -/
theorem Rule.parts_of_label? {r : Rule} {w : r.body.Value}
    (hl : r.label? (r.body.branch w) = none) :
    r = .item ∧ r.body.parts r.keepsTokens w = [r.part (r.build w)] := by
  cases r with
  | item => rcases w with s | d <;> exact ⟨rfl, rfl⟩
  | member => rcases w with w | w | w | w <;> cases hl
  | _ => cases hl

/-- The children of two lists are rewritten one after the other. -/
theorem rewriteAll_append (first second : List SyntaxTree) :
    rewriteAll (first ++ second) =
      (do return (← rewriteAll first) ++ (← rewriteAll second)) := by
  induction first with
  | nil =>
    rw [List.nil_append, rewriteAll]
    cases rewriteAll second <;> rfl
  | cons tree first ih =>
    rw [List.cons_append, rewriteAll, rewriteAll, ih]
    cases tree.rewrite with
    | error e => rfl
    | ok part =>
      cases rewriteAll first with
      | error e => rfl
      | ok parts => cases rewriteAll second <;> rfl

/-- A single child. -/
theorem rewriteAll_singleton (tree : SyntaxTree) :
    rewriteAll [tree] = (do return [← tree.rewrite]) := by
  rw [rewriteAll, rewriteAll]
  cases tree.rewrite <;> rfl

/-- What holds of the body of a rule holds of the rule, whether or not it has a node of its own. -/
private theorem rewriteAll_rule {r : Rule} {d : Derivation r.body} {w : r.body.Value}
    {trees : List SyntaxTree} {more : List Token} (hw : d.Gives w)
    (ht : d.trees r.keepsTokens (r.body.tokens w ++ more) = (trees, more))
    (hr : rewriteAll trees = unlessFaulty (r.body.blocks w) (r.body.parts r.keepsTokens w))
    (keep : Bool) : ∃ trees,
      (Derivation.rule r d).trees keep ((Form.rule r).tokens (r.build w) ++ more) = (trees, more) ∧
      rewriteAll trees = unlessFaulty (r.blocks (r.build w)) [r.part (r.build w)] := by
  have htokens : (Form.rule r).tokens (r.build w) = r.body.tokens w := r.tokens_build w
  cases hl : r.label? (r.body.branch w) with
  | none =>
    obtain ⟨rfl, hparts⟩ := Rule.parts_of_label? hl
    have hblocks : Rule.item.blocks (Rule.item.build w) = Rule.item.body.blocks w :=
      Rule.blocks_build (by decide) w
    refine ⟨trees, ?_, ?_⟩
    · rw [htokens, Derivation.trees, ht, hw.branch, hl]
    · rw [hr, hparts, hblocks]
  | some label =>
    have hnode := r.rewrite_node w hl
    rw [← hr] at hnode
    refine ⟨[.node label trees], ?_, ?_⟩
    · rw [htokens, Derivation.trees, ht, hw.branch, hl]
    · rw [rewriteAll_singleton, SyntaxTree.rewrite, hnode]
      exact unlessFaulty_bind rfl

/-- The children of a derivation take the tokens of its value. They fail at the first block of the
value that is not sound, and otherwise stand for what the value says. -/
theorem Derivation.Gives.rewriteAll_trees {s : Form} {d : Derivation s} {v : s.Value}
    (h : d.Gives v) (keep : Bool) (more : List Token) :
    ∃ trees, d.trees keep (s.tokens v ++ more) = (trees, more) ∧
      rewriteAll trees = unlessFaulty (s.blocks v) (s.parts keep v) := by
  induction d generalizing keep more with
  | token t =>
    refine ⟨_, rfl, ?_⟩
    cases hk : t.kept keep <;> simp [hk, Form.parts, Form.tokens] <;> rfl
  | choice options i =>
    obtain rfl := h
    refine ⟨_, rfl, ?_⟩
    cases keep <;> rfl
  | rule r d ih =>
    obtain ⟨w, hw, rfl⟩ := h
    obtain ⟨trees, ht, hr⟩ := ih hw r.keepsTokens more
    exact rewriteAll_rule hw ht hr keep
  | seq first second ih₁ ih₂ =>
    obtain ⟨trees, ht, hr⟩ := ih₁ h.1 keep (_ ++ more)
    obtain ⟨others, ho, hro⟩ := ih₂ h.2 keep more
    refine ⟨trees ++ others, ?_, ?_⟩
    · rw [Form.tokens, List.append_assoc, Derivation.trees, ht, ho]
    · rw [rewriteAll_append, hr, hro]
      exact unlessFaulty_append
  | left d ih =>
    obtain ⟨w, hw, rfl⟩ := h
    exact ih hw keep more
  | right d ih =>
    obtain ⟨w, hw, rfl⟩ := h
    exact ih hw keep more
  | @absent a =>
    obtain rfl := h
    refine ⟨_, rfl, ?_⟩
    simp only [Form.parts]
    cases a.leavesGap <;> rfl
  | present d ih =>
    obtain ⟨w, hw, rfl⟩ := h
    exact ih hw keep more
  | nil =>
    obtain rfl := h
    exact ⟨[], rfl, rfl⟩
  | @cons a d rest ih₁ ih₂ =>
    obtain ⟨w, ws, hw, hws, rfl⟩ := h
    obtain ⟨trees, ht, hr⟩ := ih₁ hw keep ((Form.many a).tokens ws ++ more)
    obtain ⟨others, ho, hro⟩ := ih₂ hws keep more
    have htokens : (Form.many a).tokens (w :: ws) = a.tokens w ++ (Form.many a).tokens ws := rfl
    refine ⟨trees ++ others, ?_, ?_⟩
    · rw [htokens, List.append_assoc, Derivation.trees, ht, ho]
    · rw [rewriteAll_append, hr, hro]
      exact unlessFaulty_append

/-- The statements of a file are collected to its declarations. -/
theorem collect_map (scope : Option String) (f : File) :
    collect scope (f.map Item.part) = .ok (declarationsFrom scope f) := by
  induction f generalizing scope with
  | nil => rfl
  | cons item f ih =>
    cases item with
    | scope path terminated => exact ih _
    | type d =>
      rw [List.map_cons, Item.part, collect, ih]
      rfl

/-- The syntax tree of a derivation means what the file of the derivation means. In particular
nothing is missing in it and nothing is found too often. -/
theorem Derivation.Gives.meaning_tree {d : Derivation (.rule .start)} {f : File} (h : d.Gives f) :
    (d.tree (tokensOfFile f)).meaning = (meaning f).mapError fun e => .invalid e.message := by
  have hrewrite : (d.tree (tokensOfFile f)).rewrite =
      unlessFaulty (blocksOfFile f) (.items (f.map Item.part)) := by
    cases d with
    | rule r d =>
      obtain ⟨w, hw, rfl⟩ := h
      obtain ⟨trees, ht, hr⟩ := hw.rewriteAll_trees Rule.start.keepsTokens []
      have htokens : Rule.start.body.tokens w ++ [] = tokensOfFile w := List.append_nil _
      rw [htokens] at ht
      have htree : ((Derivation.rule .start d).tree (tokensOfFile w)) = .node .start trees := by
        rw [Derivation.tree, ht]
      rw [Rule.build, id, htree, SyntaxTree.rewrite, hr]
      exact Rule.rewrite_node .start w rfl
  rw [SyntaxTree.meaning, hrewrite, meaning, unlessFaulty]
  cases (blocksOfFile f).findSome? blockFault with
  | some e => rfl
  | none =>
    simp only [bind, Except.bind, collect_map]
    cases firstRepeated [] ((declarationsFrom none f).map (·.identifier)) <;> rfl

end KeyedAccess.Schema
