import KeyedAccess.Proofs.Schema.Tight

/-!
# The text of types

The text of a type has no comment and no blank but one space behind each comma between arguments,
and no type that is written in another way has it. Its tokens are told apart, also where the names
of the type are keywords.
-/

namespace KeyedAccess.Schema

open Text

/-- What holds of a type if it holds of the arguments holds of every type. -/
@[elab_as_elim]
theorem TypeTree.induction {motive : TypeTree → Prop}
    (mk : ∀ p arguments ranks nullable, (∀ argument ∈ arguments, motive argument) →
      motive (.mk p arguments ranks nullable)) (type : TypeTree) : motive type := by
  obtain ⟨p, arguments, ranks, nullable⟩ := type
  exact mk p arguments ranks nullable fun argument _ => argument.induction mk
termination_by sizeOf type
decreasing_by
  have hlt := List.sizeOf_lt_of_mem ‹argument ∈ arguments›
  simp only [TypeTree.mk.sizeOf_spec]
  omega

/-! ## Tokens with blanks -/

/-- Tokens without blanks in front of them. -/
def bare (tokens : List Token) : List (List Char × Token) := tokens.map fun t => ([], t)

mutual

/-- The tokens of a type as its text has them, behind given blanks. -/
def TypeTree.parts (gap : List Char) : TypeTree → List (List Char × Token)
  | .mk p arguments ranks nullable =>
    (gap, .name p.head) :: (bare (p.tail.flatMap fun name => [.mark .dot, .name name]) ++
      ((if arguments.isEmpty then []
        else ([], .mark .less) :: (partsOfTypes [] arguments ++ [([], .mark .more)])) ++
        bare (ranks.flatMap rankTokens ++ if nullable then [.mark .question] else [])))

/-- The tokens of type arguments as their text has them, behind given blanks. -/
def partsOfTypes (gap : List Char) : List TypeTree → List (List Char × Token)
  | [] => []
  | type :: rest =>
    type.parts gap ++
      ((if rest.isEmpty then [] else [([], .mark .comma)]) ++ partsOfTypes [' '] rest)

end

@[simp] private theorem map_snd_bare (tokens : List Token) :
    (bare tokens).map Prod.snd = tokens := by
  rw [bare, List.map_map]
  exact List.map_id tokens

/-- Their text has no blanks. -/
theorem written_bare (tokens : List Token) :
    written (bare tokens) = tokens.flatMap fun t => t.text.toList := by
  rw [bare, written, List.flatMap_map]
  rfl

private theorem map_snd_partsOfTypes {types : List TypeTree}
    (h : ∀ type ∈ types, ∀ gap, (type.parts gap).map Prod.snd = type.tokens) (gap : List Char) :
    (partsOfTypes gap types).map Prod.snd = tokensOfTypes types := by
  induction types generalizing gap with
  | nil => rfl
  | cons type rest ih =>
    rw [partsOfTypes, tokensOfTypes, List.map_append, List.map_append, h type List.mem_cons_self,
      ih fun t ht => h t (List.mem_cons_of_mem _ ht), List.append_assoc]
    cases rest <;> rfl

/-- The parts of a type are its tokens. -/
@[simp] theorem TypeTree.map_snd_parts (type : TypeTree) (gap : List Char) :
    (type.parts gap).map Prod.snd = type.tokens := by
  induction type using TypeTree.induction generalizing gap with
  | mk p arguments ranks nullable ih =>
    have harguments := map_snd_partsOfTypes ih []
    cases arguments with
    | nil => simp [parts, tokens, Path.tokens]
    | cons first others => simp [parts, tokens, Path.tokens, harguments]

/-- The text of a path has dots between the names. -/
theorem Path.toList_text (p : Path) :
    p.text.toList = p.head.toList ++ p.tail.flatMap fun name => '.' :: name.toList := by
  obtain ⟨head, tail⟩ := p
  simp only [text, String.toList_intercalate, List.map_cons]
  induction tail generalizing head with
  | nil => simp
  | cons name tail ih =>
    rw [List.map_cons, List.intercalate_cons_cons, ih, List.flatMap_cons, List.append_assoc]
    rfl

private theorem toList_rankText (commas : Nat) :
    (rankText commas).toList = (rankTokens commas).flatMap fun t => t.text.toList := by
  have hcommas : (List.replicate commas (Token.mark .comma)).flatMap (fun t => t.text.toList) =
      List.replicate commas ',' := by
    induction commas with
    | zero => rfl
    | succ commas ih =>
      rw [List.replicate_succ, List.flatMap_cons, ih]
      rfl
  rw [rankText, String.toList_ofList, rankTokens, List.flatMap_cons, List.flatMap_append, hcommas]
  rfl

/-- The text of a type, part by part. -/
theorem TypeTree.toList_text (p : Path) (arguments : List TypeTree) (ranks : List Nat)
    (nullable : Bool) :
    (TypeTree.mk p arguments ranks nullable).text.toList =
      p.text.toList ++
        ((if arguments.isEmpty then [] else '<' :: ((textOfTypes arguments).toList ++ ['>'])) ++
          (ranks.flatMap (fun rank => (rankText rank).toList) ++
            if nullable then ['?'] else [])) := by
  cases arguments <;> cases nullable <;> simp [text, String.toList_join, List.flatMap_map]

private theorem toList_textOfTypes_cons (type : TypeTree) (rest : List TypeTree) :
    (textOfTypes (type :: rest)).toList =
      type.text.toList ++ ((if rest.isEmpty then [] else [',', ' ']) ++
        (textOfTypes rest).toList) := by
  cases rest <;> simp [textOfTypes]

/-- Written type arguments are their text, if each type is. -/
theorem written_partsOfTypes {types : List TypeTree}
    (h : ∀ type ∈ types, ∀ gap, written (type.parts gap) = gap ++ type.text.toList)
    (hn : types ≠ []) (gap : List Char) :
    written (partsOfTypes gap types) = gap ++ (textOfTypes types).toList := by
  induction types generalizing gap with
  | nil => exact absurd rfl hn
  | cons type rest ih =>
    rw [partsOfTypes, written_append, written_append, h type List.mem_cons_self,
      toList_textOfTypes_cons, List.append_assoc]
    cases rest with
    | nil => rfl
    | cons second rest =>
      rw [ih (fun t ht => h t (List.mem_cons_of_mem _ ht)) (List.cons_ne_nil _ _)]
      rfl

/-- The written parts of a type are its text. -/
theorem TypeTree.written_parts (type : TypeTree) (gap : List Char) :
    written (type.parts gap) = gap ++ type.text.toList := by
  induction type using TypeTree.induction generalizing gap with
  | mk p arguments ranks nullable ih =>
    have hranks : (ranks.flatMap rankTokens).flatMap (fun t => t.text.toList) =
        ranks.flatMap fun rank => (rankText rank).toList := by
      simp only [List.flatMap_assoc, toList_rankText]
    have hpath : (p.tail.flatMap fun name => [Token.mark .dot, .name name]).flatMap
        (fun t => t.text.toList) = p.tail.flatMap fun name => '.' :: name.toList := by
      simp [List.flatMap_assoc, Token.text, Mark.char]
    rw [parts, written_cons, written_append, written_append, written_bare, written_bare,
      toList_text, Path.toList_text, List.flatMap_append, hranks, hpath, List.append_assoc]
    cases arguments with
    | nil => cases nullable <;> rfl
    | cons first others =>
      have harguments := written_partsOfTypes ih (List.cons_ne_nil first others) []
      simp only [List.isEmpty_cons, Bool.false_eq_true, if_false, written_cons, written_append,
        harguments]
      cases nullable <;> rfl

/-- A type whose names are written like names. -/
def TypeTree.Legible (type : TypeTree) : Prop := ∀ t ∈ type.tokens, t.Legible

/-- The arguments of such a type are such types, and its path is one of names. -/
theorem TypeTree.Legible.inv {p : Path} {arguments : List TypeTree} {ranks : List Nat}
    {nullable : Bool} (h : (TypeTree.mk p arguments ranks nullable).Legible) :
    p.Legible ∧ ∀ argument ∈ arguments, argument.Legible := by
  have hmem : ∀ {types : List TypeTree} {type}, type ∈ types → ∀ t ∈ type.tokens,
      t ∈ tokensOfTypes types := by
    intro types type hm t ht
    induction types with
    | nil => cases hm
    | cons first rest ih =>
      rw [tokensOfTypes]
      rcases List.mem_cons.mp hm with rfl | hm
      · exact List.mem_append_left _ (List.mem_append_left _ ht)
      · exact List.mem_append_right _ (ih hm)
  constructor
  · refine Path.legible_of_tokens fun t ht => h t ?_
    rw [TypeTree.tokens]
    simp only [List.append_assoc]
    exact List.mem_append_left _ ht
  · intro argument ha t ht
    refine h t ?_
    have hne : arguments.isEmpty = false := by
      cases arguments with
      | nil => cases ha
      | cons => rfl
    rw [TypeTree.tokens, hne]
    simp only [Bool.false_eq_true, if_false, List.append_assoc]
    exact List.mem_append_right _ (List.mem_append_left _ (List.mem_cons_of_mem _
      (List.mem_append_left _ (hmem ha t ht))))

private theorem isChain_append_marks {parts marks : List (List Char × Token)}
    (h : parts.IsChain Follows)
    (hm : ∀ part ∈ marks, ∃ m, part.2 = .mark m) : (parts ++ marks).IsChain Follows := by
  have hmark : ∀ {a b : List Char × Token}, (∃ m, b.2 = .mark m) → Follows a b := by
    rintro a ⟨gap, t⟩ ⟨m, rfl⟩
    exact follows_mark a gap m
  refine List.isChain_append.mpr ⟨h, ?_, fun x _ y hy => hmark (hm y (List.mem_of_mem_head? hy))⟩
  induction marks with
  | nil => exact .nil
  | cons part marks ih =>
    refine List.isChain_cons.mpr ⟨fun y hy => hmark (hm y ?_), ih fun part hp => ?_⟩
    · exact List.mem_cons_of_mem _ (List.mem_of_mem_head? hy)
    · exact hm part (List.mem_cons_of_mem _ hp)

private theorem isChain_path (p : Path) (h : p.Legible) (gap : List Char) :
    ((gap, Token.name p.head) ::
      bare (p.tail.flatMap fun name => [.mark .dot, .name name])).IsChain Follows := by
  obtain ⟨head, tail⟩ := p
  induction tail generalizing head gap with
  | nil => exact .singleton _
  | cons name tail ih =>
    have htail : Path.Legible ⟨name, tail⟩ := fun n hn => h n (List.mem_cons_of_mem _ hn)
    exact .cons_cons (follows_mark _ _ _) (.cons_cons
      (follows_name rfl (htail name List.mem_cons_self) _ _) (ih [] name htail))

/-- The tokens of a type begin with its first name, which has the blanks in front of the type. -/
theorem TypeTree.exists_parts_eq (type : TypeTree) :
    ∃ name others, (∀ gap, type.parts gap = (gap, .name name) :: others) ∧
      (type.Legible → IsName name) := by
  obtain ⟨p, arguments, ranks, nullable⟩ := type
  exact ⟨p.head, _, fun _ => rfl, fun h => h.inv.1 _ List.mem_cons_self⟩

private theorem isChain_partsOfTypes {types : List TypeTree}
    (h : ∀ type ∈ types, type.Legible ∧ ∀ gap, (type.parts gap).IsChain Follows) {m : Mark}
    (hm : (Token.mark m).announces = true) (before gap : List Char) :
    ((before, Token.mark m) :: partsOfTypes gap types).IsChain Follows := by
  induction types generalizing m before gap with
  | nil => exact .singleton _
  | cons type rest ih =>
    obtain ⟨hl, hc⟩ := h type List.mem_cons_self
    have hfirst : ((before, Token.mark m) :: type.parts gap).IsChain Follows := by
      obtain ⟨name, others, he, hname⟩ := type.exists_parts_eq
      refine List.isChain_cons.mpr ⟨fun y hy => ?_, hc gap⟩
      rw [he] at hy
      cases hy
      exact follows_name hm (hname hl) _ _
    rw [partsOfTypes]
    cases rest with
    | nil => exact isChain_append_marks hfirst (by simp [partsOfTypes])
    | cons second rest =>
      have hrest := ih (fun t ht => h t (List.mem_cons_of_mem _ ht)) (m := .comma) rfl [] [' ']
      refine List.isChain_append.mpr ⟨hfirst, hrest, fun x _ y hy => ?_⟩
      cases hy
      exact follows_mark _ _ _

/-- Every token of a type follows the one before it. -/
theorem TypeTree.isChain_parts {type : TypeTree} (h : type.Legible) (gap : List Char) :
    (type.parts gap).IsChain Follows := by
  induction type using TypeTree.induction generalizing gap with
  | mk p arguments ranks nullable ih =>
    obtain ⟨hp, ha⟩ := h.inv
    have hranks : ∀ part ∈ bare (ranks.flatMap rankTokens ++
        if nullable then [Token.mark .question] else []), ∃ m, part.2 = .mark m := by
      intro part hpart
      obtain ⟨t, ht, rfl⟩ := List.mem_map.mp hpart
      rcases List.mem_append.mp ht with ht | ht
      · obtain ⟨rank, -, ht⟩ := List.mem_flatMap.mp ht
        simp only [rankTokens, List.mem_cons, List.mem_append, List.mem_replicate,
          List.not_mem_nil, or_false] at ht
        obtain rfl | ⟨-, rfl⟩ | rfl := ht <;> exact ⟨_, rfl⟩
      · cases nullable with
        | true => exact ⟨_, List.mem_singleton.mp ht⟩
        | false => cases ht
    have hpath := isChain_path p hp gap
    rw [parts]
    cases arguments with
    | nil => exact isChain_append_marks hpath hranks
    | cons first others =>
      have harguments := isChain_partsOfTypes (m := .less)
        (fun argument hm => ⟨ha argument hm, ih argument hm (ha argument hm)⟩) rfl [] []
      have hclosed := isChain_append_marks harguments (show ∀ part ∈ ([], .mark .more) :: bare _,
        ∃ m, part.2 = .mark m from List.forall_mem_cons.mpr ⟨⟨_, rfl⟩, hranks⟩)
      refine List.isChain_append.mpr ⟨hpath, ?_, fun x _ y hy => ?_⟩
      · simpa using hclosed
      · cases hy
        exact follows_mark _ _ _

/-- In front of every token of a type argument stand blanks. -/
theorem blank_partsOfTypes {types : List TypeTree}
    (h : ∀ type ∈ types, ∀ gap, Blank gap → ∀ part ∈ type.parts gap, Blank part.1)
    {gap : List Char} (hg : Blank gap) : ∀ part ∈ partsOfTypes gap types, Blank part.1 := by
  induction types generalizing gap with
  | nil => exact fun part hp => absurd hp List.not_mem_nil
  | cons type rest ih =>
    intro part hp
    rw [partsOfTypes] at hp
    rcases List.mem_append.mp hp with hp | hp
    · exact h type List.mem_cons_self gap hg part hp
    · rcases List.mem_append.mp hp with hp | hp
      · cases rest with
        | nil => cases hp
        | cons =>
          cases List.mem_singleton.mp hp
          exact .nil
      · exact ih (fun t ht => h t (List.mem_cons_of_mem _ ht)) (.white rfl .nil) part hp

/-- In front of every token of a type stand blanks. -/
theorem TypeTree.blank_parts (type : TypeTree) {gap : List Char} (hg : Blank gap) :
    ∀ part ∈ type.parts gap, Blank part.1 := by
  induction type using TypeTree.induction generalizing gap with
  | mk p arguments ranks nullable ih =>
    have hbare : ∀ tokens, ∀ part ∈ bare tokens, Blank part.1 := by
      intro tokens part hp
      obtain ⟨t, -, rfl⟩ := List.mem_map.mp hp
      exact .nil
    intro part hp
    rw [parts] at hp
    rcases List.mem_cons.mp hp with rfl | hp
    · exact hg
    rcases List.mem_append.mp hp with hp | hp
    · exact hbare _ part hp
    rcases List.mem_append.mp hp with hp | hp
    · cases arguments with
      | nil => cases hp
      | cons first others =>
        rcases List.mem_cons.mp hp with rfl | hp
        · exact .nil
        rcases List.mem_append.mp hp with hp | hp
        · exact blank_partsOfTypes (fun t ht _ => ih t ht) .nil part hp
        · cases List.mem_singleton.mp hp
          exact .nil
    · exact hbare _ part hp

/-! ## Tidy texts -/

/-- A text without comments whose only white space is one space behind each comma outside square
brackets. Whether the text begins inside of square brackets is given; it ends outside. -/
inductive Tidy : Bool → List Char → Prop where
  /-- Nothing. -/
  | nil : Tidy false []
  /-- A letter, a digit, an underscore or a mark of a type other than brackets and commas. -/
  | other {inside : Bool} {c : Char} {rest : List Char}
    (hc : isAsciiNameChar c = true ∨ c ∈ ['.', '<', '>', '?']) (h : Tidy inside rest) :
    Tidy inside (c :: rest)
  /-- Square brackets are opened. -/
  | opened {rest : List Char} (h : Tidy true rest) : Tidy false ('[' :: rest)
  /-- Square brackets are closed. -/
  | closed {rest : List Char} (h : Tidy false rest) : Tidy true (']' :: rest)
  /-- A comma of an array suffix. -/
  | rank {rest : List Char} (h : Tidy true rest) : Tidy true (',' :: rest)
  /-- A comma between type arguments. -/
  | argument {rest : List Char} (h : Tidy false rest) : Tidy false (',' :: ' ' :: rest)

/-- A tidy text may stand behind another one. -/
theorem Tidy.append {inside : Bool} {text rest : List Char} (h : Tidy inside text)
    (hr : Tidy false rest) : Tidy inside (text ++ rest) := by
  induction h with
  | nil => exact hr
  | other hc _ ih => exact .other hc ih
  | opened _ ih => exact .opened ih
  | closed _ ih => exact .closed ih
  | rank _ ih => exact .rank ih
  | argument _ ih => exact .argument ih

/-- A name is tidy. -/
theorem IsName.tidy {name : String} (h : IsName name) : Tidy false name.toList := by
  obtain ⟨c, letters, he, hc, hletters⟩ := h
  rw [he]
  refine .other (.inl (isAsciiNameChar_of_start hc)) ?_
  clear he hc
  induction letters with
  | nil => exact .nil
  | cons d letters ih =>
    exact .other (.inl (hletters d List.mem_cons_self))
      (ih fun e he => hletters e (List.mem_cons_of_mem _ he))

/-- The text of a path is tidy. -/
theorem Path.Legible.tidy {p : Path} (h : p.Legible) : Tidy false p.text.toList := by
  obtain ⟨head, tail⟩ := p
  rw [Path.toList_text]
  refine (h head List.mem_cons_self).tidy.append ?_
  have htail : ∀ name ∈ tail, IsName name := fun name hn => h name (List.mem_cons_of_mem _ hn)
  clear h
  induction tail with
  | nil => exact .nil
  | cons name tail ih =>
    rw [List.flatMap_cons, List.cons_append]
    exact .other (.inr (by decide)) ((htail name List.mem_cons_self).tidy.append
      (ih fun n hn => htail n (List.mem_cons_of_mem _ hn)))

private theorem tidy_rankText (commas : Nat) : Tidy false (rankText commas).toList := by
  rw [rankText, String.toList_ofList]
  refine .opened ?_
  induction commas with
  | zero => exact .closed .nil
  | succ commas ih => exact .rank ih

private theorem tidy_textOfTypes {types : List TypeTree}
    (h : ∀ type ∈ types, Tidy false type.text.toList) : Tidy false (textOfTypes types).toList := by
  induction types with
  | nil => exact .nil
  | cons type rest ih =>
    have hrest := ih fun t ht => h t (List.mem_cons_of_mem _ ht)
    rw [toList_textOfTypes_cons]
    refine (h type List.mem_cons_self).append ?_
    cases rest with
    | nil => exact hrest
    | cons => exact .argument hrest

/-- The text of a type is tidy. -/
theorem TypeTree.tidy_text {type : TypeTree} (h : type.Legible) : Tidy false type.text.toList := by
  induction type using TypeTree.induction with
  | mk p arguments ranks nullable ih =>
    obtain ⟨hp, ha⟩ := h.inv
    have hranks : Tidy false (ranks.flatMap fun rank => (rankText rank).toList) := by
      clear h
      induction ranks with
      | nil => exact .nil
      | cons rank ranks ih => exact (tidy_rankText rank).append ih
    have hmark : Tidy false (if nullable then ['?'] else []) := by
      cases nullable with
      | true => exact .other (.inr (by decide)) .nil
      | false => exact .nil
    rw [toList_text]
    refine hp.tidy.append (Tidy.append ?_ (hranks.append hmark))
    cases arguments with
    | nil => exact .nil
    | cons first others =>
      have harguments := tidy_textOfTypes fun argument hm => ih argument hm (ha argument hm)
      exact .other (.inr (by decide)) (harguments.append (.other (.inr (by decide)) .nil))

/-! ## Texts without their spaces -/

/-- A text without its spaces. -/
def unspaced (text : List Char) : List Char := text.filter (· != ' ')

private theorem unspaced_append (text rest : List Char) :
    unspaced (text ++ rest) = unspaced text ++ unspaced rest := List.filter_append text rest

private theorem unspaced_cons {c : Char} (h : c ≠ ' ') (rest : List Char) :
    unspaced (c :: rest) = c :: unspaced rest := List.filter_cons_of_pos (bne_iff_ne.mpr h)

private theorem not_mem_of_typeChar {c : Char}
    (h : isAsciiNameChar c = true ∨ c ∈ ['.', '<', '>', '?']) :
    isWhite c = false ∧ c ∉ [' ', '#', '[', ']', ','] := by
  rcases h with h | h
  · refine ⟨Bool.eq_false_iff.mpr fun hw => ?_, fun hm => ?_⟩
    · have hb := (Blank.white hw .nil).head_not_nameChar c rfl
      rw [h] at hb
      cases hb
    · have hnone : ∀ c ∈ [' ', '#', '[', ']', ','], isAsciiNameChar c = false := by decide
      rw [hnone c hm] at h
      cases h
  · have hall : ∀ c ∈ ['.', '<', '>', '?'], isWhite c = false ∧ c ∉ [' ', '#', '[', ']', ','] := by
      decide
    exact hall c h

/-- The blanks of a tidy text are spaces. -/
theorem Tidy.eq_space {inside : Bool} {text : List Char} (h : Tidy inside text) :
    ∀ c ∈ text, c ≠ '#' ∧ (isWhite c = true → c = ' ') := by
  induction h with
  | nil => exact fun c hc => absurd hc List.not_mem_nil
  | other hc _ ih =>
    obtain ⟨hw, hm⟩ := not_mem_of_typeChar hc
    refine List.forall_mem_cons.mpr ⟨⟨?_, fun ht => ?_⟩, ih⟩
    · rintro rfl
      exact hm (by decide)
    · exact absurd (hw.symm.trans ht) Bool.false_ne_true
  | opened _ ih | closed _ ih | rank _ ih =>
    exact List.forall_mem_cons.mpr ⟨⟨by decide, by decide⟩, ih⟩
  | argument _ ih =>
    exact List.forall_mem_cons.mpr ⟨⟨by decide, by decide⟩,
      List.forall_mem_cons.mpr ⟨⟨by decide, fun _ => rfl⟩, ih⟩⟩

/-- A text with a space behind each comma outside square brackets. Whether the text begins inside of
square brackets is given. -/
def respaced : Bool → List Char → List Char
  | _, [] => []
  | inside, c :: rest =>
    if c = '[' then c :: respaced true rest
    else if c = ']' then c :: respaced false rest
    else if c = ',' ∧ inside = false then c :: ' ' :: respaced inside rest
    else c :: respaced inside rest

/-- A tidy text has its spaces at the commas outside square brackets. -/
theorem Tidy.respaced_unspaced {inside : Bool} {text : List Char} (h : Tidy inside text) :
    respaced inside (unspaced text) = text := by
  induction h with
  | nil => rfl
  | @other inside c rest hc _ ih =>
    obtain ⟨-, hm⟩ := not_mem_of_typeChar hc
    simp only [List.mem_cons, List.not_mem_nil, or_false, not_or] at hm
    obtain ⟨hspace, -, hopen, hclose, hcomma⟩ := hm
    rw [unspaced_cons hspace, respaced, if_neg hopen, if_neg hclose, if_neg fun h => hcomma h.1, ih]
  | opened _ ih | closed _ ih | rank _ ih => exact congrArg _ ih
  | argument _ ih => exact congrArg (fun rest => ',' :: ' ' :: rest) ih

/-- So it is determined by what else is in it. -/
theorem Tidy.eq_of_unspaced {inside : Bool} {text other : List Char} (h : Tidy inside text)
    (ho : Tidy inside other) (he : unspaced text = unspaced other) : text = other := by
  rw [← h.respaced_unspaced, he, ho.respaced_unspaced]

/-- Of blanks that are spaces nothing is left. -/
theorem Blank.unspaced_eq_nil {gap : List Char} (h : Blank gap)
    (hs : ∀ c ∈ gap, c ≠ '#' ∧ (isWhite c = true → c = ' ')) : unspaced gap = [] := by
  induction h with
  | nil => rfl
  | white hc _ ih =>
    obtain rfl := (hs _ List.mem_cons_self).2 hc
    exact ih fun c hm => hs c (List.mem_cons_of_mem _ hm)
  | comment => exact absurd rfl (hs '#' List.mem_cons_self).1

/-- No token has a space. -/
theorem Token.Legible.unspaced_eq {t : Token} (h : t.Legible) :
    unspaced t.text.toList = t.text.toList := by
  have hname : ∀ {text : String}, IsName text → unspaced text.toList = text.toList := by
    rintro text ⟨c, letters, he, hc, hletters⟩
    rw [he]
    refine List.filter_eq_self.mpr fun d hd => bne_iff_ne.mpr ?_
    rintro rfl
    rcases List.mem_cons.mp hd with rfl | hd
    · revert hc
      decide
    · have hspace := hletters ' ' hd
      revert hspace
      decide
  cases t with
  | name text => exact hname h
  | word w => exact hname w.isName
  | mark m => cases m <;> decide

/-- Without its spaces, a text of tokens whose blanks are spaces is the text of the tokens. -/
theorem unspaced_written {parts : List (List Char × Token)}
    (hb : ∀ part ∈ parts, Blank part.1 ∧ part.2.Legible)
    (hs : ∀ c ∈ written parts, c ≠ '#' ∧ (isWhite c = true → c = ' ')) :
    unspaced (written parts) = (parts.map Prod.snd).flatMap fun t => t.text.toList := by
  induction parts with
  | nil => rfl
  | cons part parts ih =>
    obtain ⟨gap, t⟩ := part
    obtain ⟨⟨hgap, ht⟩, hparts⟩ := List.forall_mem_cons.mp hb
    rw [written_cons] at hs ⊢
    rw [unspaced_append, unspaced_append, ht.unspaced_eq, List.map_cons, List.flatMap_cons,
      hgap.unspaced_eq_nil fun c hc => hs c (List.mem_append_left _ hc),
      ih hparts fun c hc => hs c (List.mem_append_right _ (List.mem_append_right _ hc))]
    rfl

/-- Dropping blanks drops those in front of the first token. -/
theorem skipBlank_written {gap : List Char} (hg : Blank gap) {t : Token} (ht : t.Legible)
    (parts : List (List Char × Token)) :
    skipBlank false (written ((gap, t) :: parts)) = written (([], t) :: parts) := by
  have hname : ∀ text, t = .name text → IsName text := by
    rintro text rfl
    exact ht
  obtain ⟨c, letters, he, hw, hh⟩ := Token.head hname
  rw [written_cons, written_cons, skipBlank_append hg, he, List.nil_append, List.cons_append,
    skipBlank_cons hw hh]

/-- A type of names whose tokens are written as the text of another one has that text. -/
theorem TypeTree.Legible.text_eq_of_written {type same : TypeTree} (h : type.Legible)
    (hs : same.Legible) {parts : List (List Char × Token)} (hb : ∀ part ∈ parts, Blank part.1)
    (ht : parts.map Prod.snd = same.tokens) {gap : List Char} (hg : Blank gap)
    (hw : written parts = gap ++ type.text.toList) : same.text = type.text := by
  have hlegible : ∀ part ∈ parts, part.2.Legible := fun part hp =>
    hs part.2 (ht ▸ List.mem_map_of_mem hp)
  -- without the blanks in front of the first token the two texts agree
  obtain ⟨first, others, rfl⟩ : ∃ first others, parts = first :: others := by
    refine List.exists_cons_of_ne_nil fun he => ?_
    obtain ⟨name, others, heq, -⟩ := same.exists_parts_eq
    have hmap := same.map_snd_parts []
    rw [heq, ← ht, he] at hmap
    cases hmap
  obtain ⟨before, t⟩ := first
  have hfirst : t.Legible := hlegible _ List.mem_cons_self
  have htext : written (([], t) :: others) = type.text.toList := by
    obtain ⟨name, rest, heq, hname⟩ := type.exists_parts_eq
    have hown := type.written_parts gap
    rw [heq, ← hw] at hown
    have hskip := congrArg (skipBlank false) hown.symm
    rw [skipBlank_written (hb _ List.mem_cons_self) hfirst,
      skipBlank_written (t := .name name) hg (hname h), ← heq, type.written_parts] at hskip
    exact hskip
  have hparts : ∀ part ∈ ([], t) :: others, Blank part.1 ∧ part.2.Legible :=
    List.forall_mem_cons.mpr ⟨⟨.nil, hfirst⟩, fun part hp =>
      ⟨hb part (List.mem_cons_of_mem _ hp), hlegible part (List.mem_cons_of_mem _ hp)⟩⟩
  have hown : ∀ part ∈ same.parts [], Blank part.1 ∧ part.2.Legible := fun part hp =>
    ⟨same.blank_parts .nil part hp, hs part.2 (same.map_snd_parts [] ▸ List.mem_map_of_mem hp)⟩
  have hsame : written (same.parts []) = same.text.toList := same.written_parts []
  have hunspaced : unspaced same.text.toList = unspaced type.text.toList := by
    rw [← hsame, ← htext,
      unspaced_written hown fun c hc => (same.tidy_text hs).eq_space c (hsame ▸ hc),
      unspaced_written hparts fun c hc => (type.tidy_text h).eq_space c (htext ▸ hc),
      same.map_snd_parts, ← ht]
    rfl
  exact String.toList_inj.mp ((same.tidy_text hs).eq_of_unspaced (type.tidy_text h) hunspaced)

end KeyedAccess.Schema
