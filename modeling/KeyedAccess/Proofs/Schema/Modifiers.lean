import KeyedAccess.Proofs.Schema.Outline

/-!
# Modifiers in front of a member

A member that stands in a text without modifiers may be given any. In front of its name the reader
rests in the body of the declaration, whatever it has to finish to get there; behind the name its
state has the outline that it had without modifiers, so the rest of the text is scanned as before.
Only the name itself may be cut off in another way: behind a modifier the keywords of the kinds of
types may stand, so a member that is named like one of them cannot have modifiers.
-/

namespace KeyedAccess.Schema

open Text

/-! ## Resting states -/

/-- The state after finishing the parts that may end, at most `count` of them. -/
def State.resting : Nat → State → State
  | 0, s => s
  | count + 1, s =>
    match s.settle with
    | some settled => settled.resting count
    | none => s

/-- Where a part may end, only marks go on with it. -/
theorem State.direct_eq_none_of_settle {s settled : State} (h : s.settle = some settled) {t : Token}
    (ht : ∀ m, t ≠ .mark m) : s.direct t = none := by
  cases State.settles_of_eq_some h with
  | @type items slot spot type htype =>
    cases t with
    | mark m => exact absurd rfl (ht m)
    | name | word => cases spot <;> first | rfl | cases htype
  | _ =>
    cases t with
    | mark m => exact absurd rfl (ht m)
    | name | word => rfl

/-- So a name or a keyword is taken by the resting state. -/
theorem State.stepWithin_eq_direct (count : Nat) (s : State) {t : Token} (ht : ∀ m, t ≠ .mark m) :
    s.stepWithin count t = (s.resting count).direct t := by
  induction count generalizing s with
  | zero => rfl
  | succ count ih =>
    rw [State.stepWithin, State.resting]
    cases hs : s.settle with
    | none => cases s.direct t <;> rfl
    | some settled =>
      rw [State.direct_eq_none_of_settle hs ht]
      exact ih settled

/-- Only in a body the keyword of an indexer is taken. -/
theorem State.eq_of_direct_this {s next : State} (h : s.direct (.word .this) = some next) :
    ∃ b ms, s = ⟨s.items, .body b ms⟩ ∧ next = ⟨s.items, .this b ms⟩ := by
  obtain ⟨items, place⟩ := s
  cases place with
  | body b ms =>
    refine ⟨b, ms, rfl, ?_⟩
    cases ms <;> exact (Option.some.inj h).symm
  | typing slot frames spot => cases frames <;> cases spot <;> cases h
  | between ms => cases ms <;> cases h
  | parametersOpen owner => cases owner <;> cases h
  | parameterTyped owner => cases owner <;> cases h
  | _ => cases h

/-- A state that takes the keyword of an indexer as a body does rests in that body. -/
theorem State.resting_eq_body {s : State} {items : File} {b : Body}
    (h : s.step (.word .this) = some ⟨items, .this b []⟩) : s.resting 2 = ⟨items, .body b []⟩ := by
  rw [State.step, s.stepWithin_eq_direct 2 (fun _ => Token.noConfusion)] at h
  obtain ⟨b', ms, hrest, he⟩ := State.eq_of_direct_this h
  cases he
  exact hrest

/-! ## Modifiers and the first token of a member -/

/-- Modifiers as they are written, each with the blanks behind it. -/
def modifierText (spaced : List (Modifier × List Char)) : List Char :=
  spaced.flatMap fun part => part.1.text.toList ++ part.2

/-- Behind each modifier there is a blank. -/
def Parted (spaced : List (Modifier × List Char)) : Prop :=
  ∀ part ∈ spaced, Blank part.2 ∧ part.2 ≠ []

/-- Behind a modifier with its blanks no word goes on. -/
theorem Parted.head_not_nameChar {part : Modifier × List Char}
    {spaced : List (Modifier × List Char)} (h : Parted (part :: spaced)) (text : List Char) :
    ∀ c ∈ (part.2 ++ text).head?, isAsciiNameChar c = false := by
  obtain ⟨hb, hn⟩ := h part List.mem_cons_self
  obtain ⟨c, rest, hp⟩ := List.exists_cons_of_ne_nil hn
  rw [hp] at hb ⊢
  exact hb.head_not_nameChar

/-- In a body modifiers are cut off and taken. -/
theorem scan_modifiers (items : File) (b : Body) (before : List Modifier) {gap : List Char}
    (hg : Blank gap) {spaced : List (Modifier × List Char)} (hp : Parted spaced)
    (text : List Char) :
    ∃ parts last, parts.map Prod.snd = modifierTokens (spaced.map Prod.fst) ∧ Blank last ∧
      Scan ⟨items, .body b before⟩ (gap ++ (modifierText spaced ++ text)) parts
        ⟨items, .body b (before ++ spaced.map Prod.fst)⟩ (last ++ text) := by
  induction spaced generalizing before gap with
  | nil =>
    refine ⟨[], gap, rfl, hg, ?_⟩
    rw [List.map_nil, List.append_nil]
    exact .nil ..
  | cons part spaced ih =>
    obtain ⟨m, behind⟩ := part
    have hbehind := (hp _ List.mem_cons_self).1
    obtain ⟨parts, last, htokens, hlast, hscan⟩ := ih (before ++ [m]) hbehind
      (fun p h => hp p (List.mem_cons_of_mem _ h))
    refine ⟨(gap, .word (.modifier m)) :: parts, last, congrArg (_ :: ·) htokens, hlast, ?_⟩
    have htext : modifierText ((m, behind) :: spaced) ++ text =
        (Token.word (.modifier m)).text.toList ++ (behind ++ (modifierText spaced ++ text)) := by
      simp only [modifierText, List.flatMap_cons, List.append_assoc]
      rfl
    have hmodifiers : before ++ ((m, behind) :: spaced).map Prod.fst =
        before ++ [m] ++ spaced.map Prod.fst := by
      rw [List.map_cons, List.append_assoc, List.singleton_append]
    have hl : lexeme (Place.body b before).context
        ((Token.word (.modifier m)).text.toList ++ (behind ++ (modifierText spaced ++ text))) =
          some (.word (.modifier m), behind ++ (modifierText spaced ++ text)) :=
      lexeme_of_admits (Place.body_admits b before (List.mem_cons_of_mem _ (Word.mem_modifiers m)))
        trivial (hp.head_not_nameChar _)
    rw [htext, hmodifiers]
    exact .cons hg hl (State.step_of_next rfl) hscan

/-- The name of a member, unless it is an indexer. -/
def MemberForm.name? : MemberForm → Option String
  | .property name _ _ | .field name _ _ | .method name _ _ _ => some name
  | .indexer .. => none

/-- The first token of a member behind its modifiers. -/
def MemberForm.first (form : MemberForm) : Token := form.name?.elim (.word .this) .name

/-- A member that is named like a kind of types. -/
def MemberForm.KindNamed (form : MemberForm) : Prop := ∃ w ∈ Word.kinds, form.name? = some w.text

/-- Behind its modifiers a member begins with its first token. -/
theorem MemberForm.tokens_eq (form : MemberForm) :
    form.tokens = form.first :: form.tokens.tail := by
  cases form <;> rfl

/-- The first token of a member is no mark. -/
theorem MemberForm.first_ne_mark (form : MemberForm) (m : Mark) : form.first ≠ .mark m := by
  cases form <;> exact Token.noConfusion

/-- Behind modifiers the first token of a member leads to a state of the same outline. -/
theorem MemberForm.step_first {items : File} {b : Body} {form : MemberForm} {next : State}
    (h : (⟨items, .body b []⟩ : State).direct form.first = some next) (ms : List Modifier) :
    ∃ next', (⟨items, .body b ms⟩ : State).step form.first = some next' ∧
      next.outline = next'.outline := by
  cases form <;> cases h <;> exact ⟨_, State.step_of_next rfl, rfl⟩

/-- Behind modifiers in a body no keyword of a kind is taken. -/
theorem State.step_kind {items : File} {b : Body} {ms : List Modifier} {w : Word}
    (hw : w ∈ Word.kinds) : (⟨items, .body b ms⟩ : State).step (.word w) = none := by
  simp only [Word.kinds, List.mem_cons, List.not_mem_nil, or_false] at hw
  obtain rfl | rfl | rfl := hw <;> cases ms <;> rfl

section

variable {context : Context} {form : MemberForm} {behind : List Char}

/-- The first token of a member is a word, and no word goes on behind it. -/
theorem MemberForm.isName_first (hn : context.names = true)
    (h : lexeme context (form.first.text.toList ++ behind) = some (form.first, behind)) :
    IsName form.first.text ∧ (∀ c ∈ behind.head?, isAsciiNameChar c = false) := by
  refine ⟨?_, wordEnds_of_lexeme hn h form.first_ne_mark⟩
  have hl := legible_of_lexeme h
  cases form with
  | indexer => exact Word.this.isName
  | _ => exact hl

/-- Behind a modifier the name of a member is cut off as a keyword if it is that of a kind. -/
theorem MemberForm.lexeme_kind (hn : context.names = true)
    (h : lexeme context (form.first.text.toList ++ behind) = some (form.first, behind))
    {w : Word} (hw : w ∈ Word.kinds) (he : form.name? = some w.text) (b : Body) (m : Modifier)
    (ms : List Modifier) :
    lexeme (Place.body b (m :: ms)).context (form.first.text.toList ++ behind) =
      some (.word w, behind) := by
  obtain ⟨-, hends⟩ := form.isName_first hn h
  have htext : form.first.text = (Token.word w).text := by rw [first, he]; rfl
  rw [htext]
  exact lexeme_of_admits (t := .word w)
    (List.mem_cons_of_mem _ (List.mem_append_left Word.modifiers hw)) trivial hends

/-- Otherwise the first token of a member is cut off behind a modifier as it is without one. -/
theorem MemberForm.lexeme_first (hn : context.names = true)
    (hw : ∀ w ∈ memberWords, w ∈ context.words)
    (h : lexeme context (form.first.text.toList ++ behind) = some (form.first, behind))
    (hk : ¬ form.KindNamed) (b : Body) (m : Modifier) (ms : List Modifier) :
    lexeme (Place.body b (m :: ms)).context (form.first.text.toList ++ behind) =
      some (form.first, behind) := by
  have hadmits : (Place.body b (m :: ms)).context.Admits form.first := by
    cases form with
    | indexer => exact List.mem_cons_self
    | _ => rfl
  refine lexeme_elsewhere hn rfl h hadmits fun w hin he => ?_
  have hname : form.name? = some w.text := by
    cases form <;> cases he <;> rfl
  rcases List.mem_cons.mp hin with rfl | hin
  · exact hw _ List.mem_cons_self
  · rcases List.mem_append.mp hin with hin | hin
    · exact absurd ⟨w, hin, hname⟩ hk
    · exact hw w (List.mem_cons_of_mem _ hin)

end

/-! ## The text in front of a member -/

/-- Behind a keyword of an unfinished statement the reader does not rest in front of a member. -/
theorem Place.Moves.resting_ne_body {place next : Place} {w : Word}
    (h : place.Moves (.word w) next) (done items : File) (b : Body) :
    (⟨done, next⟩ : State).resting 2 ≠ ⟨items, .body b []⟩ := by
  cases h with
  | memberModifier => simp [State.resting, State.settle]
  | typing slot h => cases h
  | _ =>
    intro he
    cases he

/-- So it does not behind any keyword. -/
theorem State.resting_ne_body {s next : State} {w : Word} (h : s.step (.word w) = some next)
    (items : File) (b : Body) : next.resting 2 ≠ ⟨items, .body b []⟩ := by
  rw [State.step, s.stepWithin_eq_direct 2 (fun _ => Token.noConfusion)] at h
  have hdirect := State.direct_of_eq_some h
  generalize s.resting 2 = settled at hdirect
  cases hdirect with
  | move done hmove => exact hmove.resting_ne_body done items b

/-- A member without modifiers within a file. -/
structure Site where
  /-- The statements before its declaration. -/
  before : File
  /-- The declaration with the members before it. -/
  owner : TypeDeclaration
  /-- What it is. -/
  form : MemberForm
  /-- The members after it. -/
  others : List MemberTree
  /-- The statements after its declaration. -/
  after : File

/-- The declaration with modifiers in front of the member. -/
def Site.declaration (site : Site) (ms : List Modifier) : TypeDeclaration :=
  { site.owner with members := site.owner.members ++ ⟨ms, site.form⟩ :: site.others }

/-- The file with modifiers in front of the member. -/
def Site.file (site : Site) (ms : List Modifier) : File :=
  site.before ++ .type (site.declaration ms) :: site.after

/-- The tokens in front of the member. -/
def Site.front (site : Site) : List Token := tokensOfFile site.before ++ site.owner.openTokens

/-- The tokens from the name of the member on. -/
def Site.rear (site : Site) : List Token :=
  site.form.tokens ++ (site.others.flatMap MemberTree.tokens ++ .mark .rbrace ::
    tokensOfFile site.after)

/-- The modifiers of the member stand between the tokens in front of it and its name. -/
theorem Site.tokens_file (site : Site) (ms : List Modifier) :
    tokensOfFile (site.file ms) = site.front ++ (modifierTokens ms ++ site.rear) := by
  simp [tokensOfFile, file, declaration, front, rear, Item.tokens, TypeDeclaration.tokens,
    TypeDeclaration.openTokens, MemberTree.tokens]

/-- The tokens in front of the member lead into the body of its declaration. -/
theorem Site.run_front (site : Site) {t : Token} (ht : t.endsMember = true) (rest : List Token) :
    State.start.run (site.front ++ t :: rest) =
      (⟨site.before, .body site.owner []⟩ : State).run (t :: rest) := by
  obtain ⟨w, tokens, he⟩ := site.owner.openTokens_cons
  rw [front, List.append_assoc, State.start, he, List.cons_append, run_fileBefore, List.nil_append,
    ← List.cons_append, ← he, run_openTokens _ ht]

/-- The member begins in a text between `front` and `behind`. -/
def Site.Begins (site : Site) (text front behind : List Char) : Prop :=
  ∃ parts gap post rest, Tokenized text (parts ++ (gap, site.form.first) :: post) rest ∧
    parts.map Prod.snd = site.front ∧ front = written parts ++ gap ∧
    behind = site.form.first.text.toList ++ (written post ++ rest)

/-- From the name of the member on, a text is cut into the tokens that stand there. -/
theorem Site.rear_eq {site : Site} {text gap rest : List Char}
    {parts post : List (List Char × Token)}
    (hc : Tokenized text (parts ++ (gap, site.form.first) :: post) rest)
    (h : readFile text = .ok (site.file [])) (hf : parts.map Prod.snd = site.front) :
    site.rear = site.form.first :: post.map Prod.snd := by
  have htokens := hc.map_snd h
  rw [site.tokens_file, List.map_append, hf] at htokens
  exact (List.append_cancel_left htokens).symm

/-- In a text that is read the member begins somewhere. -/
theorem Site.exists_begins {site : Site} {text : List Char}
    (h : readFile text = .ok (site.file [])) : ∃ front behind, site.Begins text front behind := by
  obtain ⟨parts, rest, hcut⟩ := exists_tokenized h
  have htokens := hcut.map_snd h
  rw [site.tokens_file] at htokens
  obtain ⟨front, others, rfl, hfront, hothers⟩ := List.map_eq_append_iff.mp htokens
  have hrear : others.map Prod.snd = site.form.first ::
      (site.form.tokens.tail ++ (site.others.flatMap MemberTree.tokens ++ .mark .rbrace ::
        tokensOfFile site.after)) := by
    rw [hothers, rear, MemberForm.tokens_eq]
    rfl
  obtain ⟨⟨gap, t⟩, post, rfl, rfl, -⟩ := List.map_eq_cons_iff.mp hrear
  exact ⟨_, _, front, gap, post, rest, hcut, hfront, rfl, rfl⟩

section

variable {site : Site} {s : State} {text behind : List Char} {parts : List (List Char × Token)}

/-- Behind the tokens in front of the member the reader rests in the body of the declaration. -/
theorem Site.resting_front (h : Scan .start text parts s behind)
    (hf : parts.map Prod.snd = site.front) : s.resting 2 = ⟨site.before, .body site.owner []⟩ := by
  have hrun : s.run [.word .this] = some ⟨site.before, .this site.owner []⟩ := by
    have hfront := site.run_front (t := .word .this) rfl []
    rw [← hf, State.run_append, h.run, Option.bind_some] at hfront
    exact hfront.trans (run_of_next rfl [])
  obtain ⟨next, hstep, ⟨⟩⟩ := Option.bind_eq_some_iff.mp hrun
  exact State.resting_eq_body hstep

/-- There names and keywords are taken as in the body. -/
theorem Site.step_front (h : Scan .start text parts s behind)
    (hf : parts.map Prod.snd = site.front) {t : Token} (ht : ∀ m, t ≠ .mark m) :
    s.step t = (⟨site.before, .body site.owner []⟩ : State).direct t := by
  rw [← Site.resting_front h hf, State.step, s.stepWithin_eq_direct 2 ht]

/-- There names may stand, and all keywords that a member can begin with. -/
theorem Site.context_front (h : Scan .start text parts s behind)
    (hf : parts.map Prod.snd = site.front) :
    s.place.context.names = true ∧ ∀ w ∈ memberWords, w ∈ s.place.context.words := by
  have hadmits {t : Token} {next : State} (ht : ∀ m, t ≠ .mark m)
      (hd : (⟨site.before, .body site.owner []⟩ : State).direct t = some next) :
      s.place.context.Admits t :=
    State.admits_of_step ((Site.step_front h hf ht).trans hd)
  refine ⟨hadmits (t := .name "x") (fun _ => Token.noConfusion) rfl, fun w hw => ?_⟩
  rcases List.mem_cons.mp hw with rfl | hw
  · exact hadmits (t := .word .this) (fun _ => Token.noConfusion) rfl
  · obtain ⟨m, -, rfl⟩ := List.mem_map.mp hw
    exact hadmits (t := .word (.modifier m)) (fun _ => Token.noConfusion) rfl

/-- Where a word follows directly, the last token in front of the member is a mark. -/
theorem Site.mark_of_getLast? (h : Scan .start text parts s behind)
    (hf : parts.map Prod.snd = site.front) {c : Char} (hc : behind.head? = some c)
    (hname : isAsciiNameChar c = true) {part : List Char × Token} (hp : part ∈ parts.getLast?) :
    ∃ m, part.2 = .mark m := by
  obtain ⟨gap, t⟩ := part
  cases t with
  | mark m => exact ⟨m, rfl⟩
  | name n =>
    have hends := h.head_not_nameChar hp c hc
    rw [hname] at hends
    cases hends
  | word w =>
    obtain ⟨front, rfl⟩ := List.getLast?_eq_some_iff.mp hp
    obtain ⟨mid, left, -, hlast⟩ := h.split
    cases hlast with
    | cons hg hl hs hnil =>
      cases hnil
      exact absurd (Site.resting_front h hf) (State.resting_ne_body hs _ _)

/-- The text in front of the member may go on in another way. -/
theorem Site.scan_front {gap : List Char} (h : Scan .start text parts s (gap ++ behind))
    (hf : parts.map Prod.snd = site.front) {c : Char} (hc : behind.head? = some c)
    (hname : isAsciiNameChar c = true) (other : List Char) :
    Scan .start (written parts ++ (gap ++ other)) parts s (gap ++ other) := by
  refine h.replace fun part hp hm d hd => ?_
  cases gap with
  | cons e gap => exact .inr hd
  | nil =>
    obtain ⟨m, he⟩ := Site.mark_of_getLast? h hf hc hname hp
    exact absurd he (hm m)

/-- With modifiers in front of the member the reader comes to it in a body with these modifiers. -/
theorem Site.scan_modified {gap : List Char} (hg : Blank gap)
    (h : Scan .start text parts s (gap ++ behind)) (hf : parts.map Prod.snd = site.front) {c : Char}
    (hc : behind.head? = some c) (hname : isAsciiNameChar c = true) {m : Modifier}
    {blanks : List Char} {spaced : List (Modifier × List Char)}
    (hp : Parted ((m, blanks) :: spaced)) :
    ∃ others last, others.map Prod.snd = site.front ++ modifierTokens (m :: spaced.map Prod.fst) ∧
      Blank last ∧
      Scan .start (written parts ++ (gap ++
        (modifierText ((m, blanks) :: spaced) ++ behind))) others
        ⟨site.before, .body site.owner (m :: spaced.map Prod.fst)⟩ (last ++ behind) := by
  have hfront := Site.scan_front h hf hc hname (modifierText ((m, blanks) :: spaced) ++ behind)
  have hstep : s.step (.word (.modifier m)) = some ⟨site.before, .body site.owner [m]⟩ :=
    Site.step_front h hf (fun _ => Token.noConfusion)
  obtain ⟨others, last, htokens, hlast, hscan⟩ := scan_modifiers site.before site.owner [m]
    (hp _ List.mem_cons_self).1 (fun p h => hp p (List.mem_cons_of_mem _ h)) behind
  have htext : modifierText ((m, blanks) :: spaced) ++ behind =
      (Token.word (.modifier m)).text.toList ++ (blanks ++ (modifierText spaced ++ behind)) := by
    simp only [modifierText, List.flatMap_cons, List.append_assoc]
    rfl
  have hl : lexeme s.place.context (modifierText ((m, blanks) :: spaced) ++ behind) =
      some (.word (.modifier m), blanks ++ (modifierText spaced ++ behind)) := by
    rw [htext]
    exact lexeme_of_admits (State.admits_of_step hstep) trivial (hp.head_not_nameChar _)
  refine ⟨parts ++ (gap, .word (.modifier m)) :: others, last, ?_, hlast,
    hfront.trans (.cons hg hl hstep hscan)⟩
  rw [List.map_append, List.map_cons, hf, htokens]
  rfl

end

/-- With modifiers in front of it, a member is read as it was, with these modifiers, unless it is
named like a kind of types: then its name is refused as a keyword. -/
theorem Site.readFile_modified {site : Site} {text front behind : List Char}
    (hr : readFile text = .ok (site.file [])) (hb : site.Begins text front behind) {m : Modifier}
    {blanks : List Char} {spaced : List (Modifier × List Char)}
    (hp : Parted ((m, blanks) :: spaced)) :
    (¬ site.form.KindNamed → readFile (front ++ (modifierText ((m, blanks) :: spaced) ++ behind)) =
        .ok (site.file (m :: spaced.map Prod.fst))) ∧
      ∀ w ∈ Word.kinds, site.form.name? = some w.text →
        readFile (front ++ (modifierText ((m, blanks) :: spaced) ++ behind)) =
          .error (.token (.word w) behind) := by
  obtain ⟨parts, gap, post, rest, hcut, hf, rfl, rfl⟩ := hb
  have hpost := Site.rear_eq hcut hr hf
  obtain ⟨last, hscan, hrest⟩ := hcut
  obtain ⟨s, left, hfront, hmember⟩ := hscan.split
  cases hmember with
  | @cons _ next _ _ text tail _ _ _ hg hl hs htail =>
    obtain rfl := eq_append_of_lexeme hl
    obtain rfl := htail.eq_written
    obtain ⟨hnames, hwords⟩ := Site.context_front hfront hf
    obtain ⟨c, letters, hc, hstart, -⟩ := (site.form.isName_first hnames hl).1
    have hhead : (site.form.first.text.toList ++ (written post ++ rest)).head? = some c := by
      rw [hc]
      rfl
    obtain ⟨others, blanks', htokens, hblanks, hnew⟩ := Site.scan_modified hg hfront hf hhead
      (isAsciiNameChar_of_start hstart) hp
    rw [List.append_assoc]
    refine ⟨fun hk => ?_, fun w hw he => ?_⟩
    · have hcut := site.form.lexeme_first hnames hwords hl hk site.owner m (spaced.map Prod.fst)
      rw [Site.step_front hfront hf site.form.first_ne_mark] at hs
      obtain ⟨next', hstep, hout⟩ := MemberForm.step_first hs (m :: spaced.map Prod.fst)
      obtain ⟨last', hbehind, -⟩ := htail.of_outline hout
      refine (hnew.trans (.cons hblanks hcut hstep hbehind)).readFile hrest ?_
      rw [List.map_append, List.map_cons, htokens, List.append_assoc, site.tokens_file, hpost]
    · obtain ⟨start, hread⟩ := hnew.readFrom _
      have hcut := site.form.lexeme_kind hnames hl hw he site.owner m (spaced.map Prod.fst)
      rw [readFile, hread]
      obtain ⟨d, more, hd, hwhite, hhash⟩ := (site.form.isName_first hnames hl).1.head
      rw [hd, List.cons_append] at hcut ⊢
      exact readFrom_refused (by rw [skipBlank_append hblanks, skipBlank_cons hwhite hhash]) hcut
        (State.step_kind hw)

/-! ## The modified member -/

/-- Modifiers only say who may use a member. -/
theorem MemberTree.meaning_modifiers (ms : List Modifier) (form : MemberForm) :
    (⟨ms, form⟩ : MemberTree).meaning =
      { (⟨[], form⟩ : MemberTree).meaning with accessibility := accessibility ms } := by
  cases form <;> rfl

/-- The members of the declaration in front of the member of a site: its positional properties and
the members before. -/
def Site.membersBefore (site : Site) : List Member :=
  (site.declaration []).positional ((site.declaration []).members.map MemberTree.meaning) ++
    site.owner.members.map MemberTree.meaning

/-- With modifiers in front of the member, the declaration differs in who may use that member. -/
theorem Site.meaning_declaration (site : Site) (ms : List Modifier) (scope : Option String) :
    (site.declaration ms).meaning scope =
      { (site.declaration []).meaning scope with
        members := site.membersBefore ++
          { (⟨[], site.form⟩ : MemberTree).meaning with accessibility := accessibility ms } ::
            site.others.map MemberTree.meaning } := by
  have hbody : (site.declaration ms).members.map MemberTree.meaning =
      site.owner.members.map MemberTree.meaning ++
        { (⟨[], site.form⟩ : MemberTree).meaning with accessibility := accessibility ms } ::
          site.others.map MemberTree.meaning := by
    simp only [declaration, List.map_append, List.map_cons, MemberTree.meaning_modifiers ms]
  have hnames : ((site.declaration ms).members.map MemberTree.meaning).map (·.name) =
      ((site.declaration []).members.map MemberTree.meaning).map (·.name) := by
    rw [hbody]
    simp only [declaration, List.map_append, List.map_cons]
  have hpositional :
      (site.declaration ms).positional ((site.declaration ms).members.map MemberTree.meaning) =
        (site.declaration []).positional
        ((site.declaration []).members.map MemberTree.meaning) := by
    simp only [TypeDeclaration.positional, hnames]
    rfl
  simp only [TypeDeclaration.meaning, hpositional, membersBefore, List.append_assoc]
  rw [hbody]
  rfl

/-- With modifiers in front of the member, the file is as meaningful as without. -/
theorem Site.meaningful_file {site : Site} (h : (site.file []).Meaningful) (ms : List Modifier) :
    (site.file ms).Meaningful where
  blocks := by
    have hblocks : blocksOfFile (site.file ms) = blocksOfFile (site.file []) := by
      simp only [blocksOfFile, file, declaration, List.flatMap_append, List.flatMap_cons,
        List.filterMap_append, List.filterMap_cons]
    exact hblocks ▸ h.blocks
  distinct := by
    have hnames : (typesOf (site.file ms)).map (·.header.name) =
        (typesOf (site.file [])).map (·.header.name) := by
      simp only [typesOf, file, declaration, List.filterMap_append, List.filterMap_cons,
        List.map_append, Item.declaration?, List.map_cons]
    exact hnames ▸ h.distinct

/-- The declarations of the file with modifiers in front of the member. -/
theorem Site.declarationsFrom_file (site : Site) (ms : List Modifier) :
    declarationsFrom none (site.file ms) =
      declarationsFrom none site.before ++
        { (site.declaration []).meaning (scopeBehind site.before) with
          members := site.membersBefore ++
            { (⟨[], site.form⟩ : MemberTree).meaning with accessibility := accessibility ms } ::
              site.others.map MemberTree.meaning } ::
          declarationsFrom (scopeBehind site.before) site.after := by
  rw [file, declarationsFrom_append, Option.or_none, declarationsFrom, site.meaning_declaration ms]

/-- A member without modifiers, in a text that is parsed, may be given any modifiers: the
declarations stay the same but for who may use the member, and that is what the first access
modifier says. The exception are members that are named like a kind of types: with a modifier in
front of it, their name is refused. -/
theorem parse_modified {text : String} {out : List Declaration} (h : parse text = .ok out)
    {site : Site} (hs : readFile text.toList = .ok (site.file [])) :
    ∃ (first : List Declaration) (d : Declaration) (before : List Member) (member : Member)
      (behind : List Member) (others : List Declaration),
      out = first ++ { d with members := before ++ member :: behind } :: others ∧
      first.length = (typesOf site.before).length ∧
      member = (⟨[], site.form⟩ : MemberTree).meaning ∧ behind.length = site.others.length ∧
      (∃ front rear, site.Begins text.toList front rear) ∧
      ∀ front rear, site.Begins text.toList front rear → front ++ rear = text.toList ∧
        ∀ spaced, Parted spaced →
          (spaced = [] ∨ ¬ site.form.KindNamed → ∃ who, UsedBy (spaced.map Prod.fst) who ∧
            parse (String.ofList (front ++ (modifierText spaced ++ rear))) =
              .ok (first ++
                { d with members := before ++ { member with accessibility := who } :: behind } ::
                  others)) ∧
          (spaced ≠ [] → ∀ w ∈ Word.kinds, site.form.name? = some w.text → ∃ position,
            parse (String.ofList (front ++ (modifierText spaced ++ rear))) =
              .error (.unexpectedToken (.word w) position)) := by
  obtain ⟨hmeaningful, rfl⟩ : (site.file []).Meaningful ∧
      out = declarationsFrom none (site.file []) := by
    obtain ⟨f, hf, hm⟩ := exists_readFile_of_parse h
    cases hs.symm.trans hf
    exact meaning_eq_ok_iff.mp hm
  refine ⟨declarationsFrom none site.before,
    (site.declaration []).meaning (scopeBehind site.before),
    site.membersBefore, (⟨[], site.form⟩ : MemberTree).meaning, site.others.map MemberTree.meaning,
    declarationsFrom (scopeBehind site.before) site.after, ?_, length_declarationsFrom .., rfl,
    List.length_map .., site.exists_begins hs, fun front rear hb => ?_⟩
  · rw [site.declarationsFrom_file [], ← MemberTree.meaning_modifiers]
  have htext : front ++ rear = text.toList := by
    obtain ⟨parts, gap, post, rest, ⟨last, hscan, -⟩, -, rfl, rfl⟩ := hb
    rw [hscan.eq_written, written_append, written_cons]
    simp only [List.append_assoc]
  refine ⟨htext, fun spaced hp => ?_⟩
  have hok {new : List Char} {ms : List Modifier} (hr : readFile new = .ok (site.file ms)) :
      parse (String.ofList new) = .ok (declarationsFrom none (site.file ms)) := by
    rw [parse_of_ok (by rw [String.toList_ofList]; exact hr),
      meaning_eq_ok_iff.mpr ⟨site.meaningful_file hmeaningful ms, rfl⟩]
    rfl
  cases spaced with
  | nil =>
    refine ⟨fun _ => ⟨_, usedBy_accessibility [], ?_⟩, fun hn => absurd rfl hn⟩
    have hsame : front ++ (modifierText [] ++ rear) = text.toList := htext
    rw [hsame, hok hs, site.declarationsFrom_file []]
  | cons part spaced =>
    obtain ⟨hread, hrefuse⟩ := Site.readFile_modified hs hb hp
    refine ⟨fun hk => ⟨_, usedBy_accessibility _, ?_⟩, fun _ w hw he => ?_⟩
    · rw [hok (hread (hk.resolve_left (List.cons_ne_nil _ _))), site.declarationsFrom_file]
      rfl
    · exact ⟨_, parse_of_error (by rw [String.toList_ofList]; exact hrefuse w hw he)⟩

/-- A field of the name `record` is read, but not with a modifier in front of it. -/
theorem parse_modified_record :
    (∃ out, parse "class A \x7b record: int \x7d" = .ok out) ∧
      ∃ position, parse "class A \x7b public record: int \x7d" =
        .error (.unexpectedToken (.word .record) position) := by
  let site : Site := ⟨[], ⟨⟨[], .cls, "A"⟩, none, [], []⟩,
    .field "record" (.mk ⟨"int", []⟩ [] [] false) false, [], []⟩
  have hread : readFile "class A \x7b record: int \x7d".toList = .ok (site.file []) := by
    rw [readFile]
    repeat rw [readFrom_token rfl rfl rfl]
    exact readFrom_blank rfl rfl
  have hparse : parse "class A \x7b record: int \x7d" = .ok _ := parse_of_ok hread
  have hblank : Blank [' '] := .white rfl .nil
  have hcut : Tokenized "class A \x7b record: int \x7d".toList
      ([([], Token.word .cls), ([' '], .name "A"), ([' '], .mark .lbrace)] ++
        ([' '], Token.name "record") ::
          [([], .mark .colon), ([' '], .name "int"), ([' '], .mark .rbrace)]) [] :=
    ⟨_, .cons .nil rfl rfl (.cons hblank rfl rfl (.cons hblank rfl rfl (.cons hblank rfl rfl
      (.cons .nil rfl rfl (.cons hblank rfl rfl (.cons hblank rfl rfl (.nil _ _))))))), .blank .nil⟩
  have hbegins : site.Begins "class A \x7b record: int \x7d".toList "class A \x7b ".toList
      "record: int \x7d".toList := ⟨_, _, _, _, hcut, rfl, rfl, by decide⟩
  have hparted : Parted [(.access .everyone, [' '])] := by
    intro part hp
    cases List.mem_singleton.mp hp
    exact ⟨hblank, List.cons_ne_nil _ _⟩
  obtain ⟨_, _, _, _, _, _, -, -, -, -, -, hinsert⟩ := parse_modified hparse hread
  exact ⟨⟨_, hparse⟩, ((hinsert _ _ hbegins).2 _ hparted).2 (List.cons_ne_nil _ _) .record
    List.mem_cons_self rfl⟩

end KeyedAccess.Schema
