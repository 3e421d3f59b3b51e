import KeyedAccess.Proofs.Schema.Written

/-!
# Trees are read from their tokens

The tokens of a tree lead a reader from one state to another, and those of a file complete that
file. The induction follows the trees. A part that is finished only by what follows it is met at the
next token, which must not go on with the part; the lemmas on such parts therefore speak of a part
together with that token.
-/

namespace KeyedAccess.Schema

variable {items : List Item}

/-- One token after the other is taken. -/
theorem State.run_cons (s : State) (t : Token) (rest : List Token) :
    s.run (t :: rest) = (s.step t).bind fun next => next.run rest := rfl

/-- The tokens of two parts are taken one part after the other. -/
theorem State.run_append (s : State) (tokens others : List Token) :
    s.run (tokens ++ others) = (s.run tokens).bind fun next => next.run others := by
  induction tokens generalizing s with
  | nil => rfl
  | cons t tokens ih =>
    rw [List.cons_append, State.run_cons, State.run_cons, Option.bind_assoc]
    exact congrArg _ (funext ih)

/-- Where tokens lead to the same state, they complete the same file. -/
theorem State.reads_congr {s other : State} {tokens others : List Token}
    (h : s.run tokens = other.run others) : s.reads tokens = other.reads others :=
  congrArg (Option.bind · State.finish) h

/-- A token that goes on with the unfinished statement is taken directly. -/
theorem State.step_of_next {place next : Place} {t : Token} (h : place.next t = some next) :
    (⟨items, place⟩ : State).step t = some ⟨items, next⟩ := by
  have hd : (⟨items, place⟩ : State).direct t = some ⟨items, next⟩ := by
    unfold State.direct
    split
    · next p hp =>
      cases hp
      cases h
    · next b hp =>
      cases hp
      cases h
    · exact congrArg (Option.map _) h
  rw [State.step, State.stepWithin, hd]

/-- A token that goes on with the unfinished statement leads on. -/
theorem run_of_next {place next : Place} {t : Token} (h : place.next t = some next)
    (rest : List Token) :
    (⟨items, place⟩ : State).run (t :: rest) = (⟨items, next⟩ : State).run rest := by
  rw [State.run_cons, State.step_of_next h, Option.bind_some]

/-- Where a token does not go on with a part that may end, the part is finished first. After it at
most one more part has to be. -/
theorem State.step_of_settle {s settled : State} {t : Token} (hd : s.direct t = none)
    (hs : s.settle = some settled) (hl : settled.settle.bind State.settle = none) :
    s.step t = settled.step t := by
  simp only [State.step, State.stepWithin, hd, hs, Option.bind_some]
  cases settled.direct t with
  | some next => rfl
  | none =>
    cases hs2 : settled.settle with
    | none => rfl
    | some last =>
      have hn : last.settle = none := by simpa only [hs2, Option.bind_some] using hl
      simp only [Option.bind_some, hn, Option.bind_none]
      cases last.direct t <;> rfl

/-- So it is in front of more tokens. -/
theorem run_of_settle {s settled : State} {t : Token} (hd : s.direct t = none)
    (hs : s.settle = some settled) (hl : settled.settle.bind State.settle = none)
    (rest : List Token) : s.run (t :: rest) = settled.run (t :: rest) := by
  rw [State.run_cons, State.run_cons, State.step_of_settle hd hs hl]

/-! ## Types -/

/-- The spot behind the array suffixes of a type without a question mark. -/
def Spot.unmarked (p : Path) : List TypeTree → List Nat → Spot
  | [], [] => .path p
  | arguments, ranks => .closed p arguments ranks

/-- The spot behind a type. -/
def TypeTree.spot : TypeTree → Spot
  | .mk p arguments ranks false => .unmarked p arguments ranks
  | .mk p arguments ranks true => .nullable p arguments ranks

/-- Behind a type the type is complete. -/
theorem TypeTree.type?_spot (type : TypeTree) : type.spot.type? = some type := by
  obtain ⟨p, arguments, ranks, nullable⟩ := type
  cases nullable with
  | true => rfl
  | false => cases arguments <;> cases ranks <;> rfl

/-- A token within a type leads to its next spot. -/
theorem run_of_typeStep {slot : Slot} {frames next : List Frame} {spot after : Spot} {t : Token}
    (h : typeStep frames spot t = some (next, after)) (rest : List Token) :
    (⟨items, .typing slot frames spot⟩ : State).run (t :: rest) =
      (⟨items, .typing slot next after⟩ : State).run rest :=
  run_of_next (by rw [Place.next, h]; rfl) rest

private theorem run_pathTail (slot : Slot) (frames : List Frame) (p : Path) (names : List String)
    (rest : List Token) :
    (⟨items, .typing slot frames (.path p)⟩ : State).run
        ((names.flatMap fun name => [Token.mark .dot, .name name]) ++ rest) =
      (⟨items, .typing slot frames (.path ⟨p.head, p.tail ++ names⟩)⟩ : State).run rest := by
  induction names generalizing p with
  | nil => rw [List.append_nil]; rfl
  | cons name names ih =>
    rw [List.flatMap_cons, List.append_assoc, List.cons_append, run_of_typeStep rfl,
      List.cons_append, run_of_typeStep rfl, List.nil_append, ih, Path.push, List.append_assoc,
      List.singleton_append]

/-- The path of a type. -/
theorem run_path (slot : Slot) (frames : List Frame) (p : Path) (rest : List Token) :
    (⟨items, .typing slot frames .start⟩ : State).run (p.tokens ++ rest) =
      (⟨items, .typing slot frames (.path p)⟩ : State).run rest :=
  (run_of_typeStep rfl _).trans (run_pathTail slot frames ⟨p.head, []⟩ p.tail rest)

private theorem run_commas (slot : Slot) (frames : List Frame) (p : Path)
    (arguments : List TypeTree) (ranks : List Nat) (before count : Nat) (rest : List Token) :
    (⟨items, .typing slot frames (.rank p arguments ranks before)⟩ : State).run
        (List.replicate count (Token.mark .comma) ++ rest) =
      (⟨items, .typing slot frames (.rank p arguments ranks (before + count))⟩ : State).run
        rest := by
  induction count generalizing before with
  | zero => rfl
  | succ count ih =>
    rw [List.replicate_succ, List.cons_append, run_of_typeStep rfl, ih, Nat.add_right_comm,
      Nat.add_assoc]

private theorem run_rank (slot : Slot) (frames : List Frame) (p : Path) (arguments : List TypeTree)
    (ranks : List Nat) (commas : Nat) (rest : List Token) :
    (⟨items, .typing slot frames (.unmarked p arguments ranks)⟩ : State).run
        (rankTokens commas ++ rest) =
      (⟨items, .typing slot frames (.unmarked p arguments (ranks ++ [commas]))⟩ : State).run
        rest := by
  have hopen : typeStep frames (.unmarked p arguments ranks) (.mark .lsqb) =
      some (frames, .rank p arguments ranks 0) := by
    cases arguments <;> cases ranks <;> rfl
  have hclosed : Spot.closed p arguments (ranks ++ [commas]) =
      .unmarked p arguments (ranks ++ [commas]) := by
    cases arguments <;> cases ranks <;> rfl
  rw [rankTokens, List.cons_append, run_of_typeStep hopen, List.append_assoc, run_commas,
    List.singleton_append, run_of_typeStep rfl, Nat.zero_add, hclosed]

private theorem run_ranks (slot : Slot) (frames : List Frame) (p : Path) (arguments : List TypeTree)
    (before ranks : List Nat) (rest : List Token) :
    (⟨items, .typing slot frames (.unmarked p arguments before)⟩ : State).run
        (ranks.flatMap rankTokens ++ rest) =
      (⟨items, .typing slot frames (.unmarked p arguments (before ++ ranks))⟩ : State).run
        rest := by
  induction ranks generalizing before with
  | nil => rw [List.append_nil]; rfl
  | cons rank ranks ih =>
    rw [List.flatMap_cons, List.append_assoc, run_rank, ih, List.append_assoc,
      List.singleton_append]

/-- The end of a type, behind its arguments. -/
theorem run_suffixes (slot : Slot) (frames : List Frame) (p : Path) (arguments : List TypeTree)
    (ranks : List Nat) (nullable : Bool) (rest : List Token) :
    (⟨items, .typing slot frames (.unmarked p arguments [])⟩ : State).run
        (ranks.flatMap rankTokens ++ ((if nullable then [Token.mark .question] else []) ++ rest)) =
      (⟨items, .typing slot frames (TypeTree.mk p arguments ranks nullable).spot⟩ : State).run
        rest := by
  rw [run_ranks, List.nil_append]
  cases nullable with
  | false => rfl
  | true =>
    refine run_of_typeStep ?_ rest
    cases arguments <;> cases ranks <;> rfl

private theorem typeStep_comma {spot : Spot} {type : TypeTree} (h : spot.type? = some type)
    (frame : Frame) (frames : List Frame) :
    typeStep (frame :: frames) spot (.mark .comma) =
      some (⟨frame.path, frame.before ++ [type]⟩ :: frames, .start) := by
  cases spot with
  | path p => cases h; rfl
  | closed p arguments ranks => cases h; rfl
  | nullable p arguments ranks => cases h; rfl
  | start | dot | rank => cases h

/-- A closing angle bracket behind a complete argument closes the arguments. -/
theorem typeStep_more {spot : Spot} {type : TypeTree} (h : spot.type? = some type) (frame : Frame)
    (frames : List Frame) :
    typeStep (frame :: frames) spot (.mark .more) =
      some (frames, .closed frame.path (frame.before ++ [type]) []) := by
  cases spot with
  | path p => cases h; rfl
  | closed p arguments ranks => cases h; rfl
  | nullable p arguments ranks => cases h; rfl
  | start | dot | rank => cases h

mutual

/-- A type within any others. -/
theorem run_type (slot : Slot) (frames : List Frame) (type : TypeTree) (rest : List Token) :
    (⟨items, .typing slot frames .start⟩ : State).run (type.tokens ++ rest) =
      (⟨items, .typing slot frames type.spot⟩ : State).run rest := by
  obtain ⟨p, arguments, ranks, nullable⟩ := type
  rw [TypeTree.tokens]
  cases arguments with
  | nil =>
    rw [List.isEmpty_nil, if_pos rfl, List.append_nil, List.append_assoc, List.append_assoc,
      run_path]
    exact run_suffixes slot frames p [] ranks nullable rest
  | cons first others =>
    rw [List.isEmpty_cons, if_neg Bool.false_ne_true, List.append_assoc, List.append_assoc,
      List.append_assoc, run_path, List.cons_append, run_of_typeStep rfl, List.append_assoc,
      List.singleton_append, run_arguments, List.nil_append]
    exact run_suffixes slot frames p (first :: others) ranks nullable rest
termination_by sizeOf type

/-- The rest of the arguments of a type, up to the angle bracket that closes them. -/
theorem run_arguments (slot : Slot) (frames : List Frame) (p : Path) (before : List TypeTree)
    (first : TypeTree) (others : List TypeTree) (rest : List Token) :
    (⟨items, .typing slot (⟨p, before⟩ :: frames) .start⟩ : State).run
        (tokensOfTypes (first :: others) ++ .mark .more :: rest) =
      (⟨items, .typing slot frames (.closed p (before ++ first :: others) [])⟩ : State).run
        rest := by
  rw [tokensOfTypes, List.append_assoc, List.append_assoc, run_type]
  cases others with
  | nil => exact run_of_typeStep (typeStep_more first.type?_spot _ _) rest
  | cons second others =>
    rw [List.isEmpty_cons, if_neg Bool.false_ne_true, List.singleton_append,
      run_of_typeStep (typeStep_comma first.type?_spot _ _), run_arguments, List.append_assoc,
      List.singleton_append]
termination_by sizeOf (first :: others)

end

/-- Whether a token is no part of a type that could end in front of it. -/
def Token.endsType : Token → Bool
  | .mark .dot | .mark .less | .mark .lsqb | .mark .question => false
  | _ => true

private theorem typeStep_eq_none {spot : Spot} {type : TypeTree} (h : spot.type? = some type)
    {t : Token} (ht : t.endsType = true) : typeStep [] spot t = none := by
  cases spot with
  | path p => cases t with
    | mark m => cases m <;> first | rfl | cases ht
    | name n => rfl
    | word w => rfl
  | closed p arguments ranks => cases t with
    | mark m => cases m <;> first | rfl | cases ht
    | name n => rfl
    | word w => rfl
  | nullable p arguments ranks => cases t with
    | mark m => cases m <;> rfl
    | name n => rfl
    | word w => rfl
  | start | dot | rank => cases h

/-- A complete type fills its slot in front of a token that is no part of it. -/
theorem State.step_of_type? (slot : Slot) {spot : Spot} {type : TypeTree}
    (h : spot.type? = some type) {t : Token} (ht : t.endsType = true) :
    (⟨items, .typing slot [] spot⟩ : State).step t =
    (⟨items, slot.filled type⟩ : State).step t := by
  refine State.step_of_settle ?_ ?_ ?_
  · exact congrArg (Option.map _) (congrArg (Option.map _) (typeStep_eq_none h ht))
  · exact congrArg (Option.map _) h
  · cases slot <;> rfl

/-- A type that fills its slot, in front of a token that is no part of it. -/
theorem run_slot (slot : Slot) (type : TypeTree) {t : Token} (ht : t.endsType = true)
    (rest : List Token) :
    (⟨items, .typing slot [] .start⟩ : State).run (type.tokens ++ t :: rest) =
      (⟨items, slot.filled type⟩ : State).run (t :: rest) := by
  rw [run_type, State.run_cons, State.run_cons, State.step_of_type? slot type.type?_spot ht]

/-! ## Lists of types and of parameters -/

/-- The base types of a declaration, up to its opening brace. -/
theorem run_bases (h : Header) (ps : Option (List Parameter)) (before : List TypeTree)
    (first : TypeTree) (others : List TypeTree) (rest : List Token) :
    (⟨items, .typing (.base h ps before) [] .start⟩ : State).run
        (tokensOfTypes (first :: others) ++ .mark .lbrace :: rest) =
      (⟨items, .body ⟨h, ps, before ++ first :: others, []⟩ []⟩ : State).run rest := by
  induction others generalizing first before with
  | nil =>
    rw [tokensOfTypes, List.isEmpty_nil, if_pos rfl, List.append_nil, tokensOfTypes,
      List.append_nil, run_slot _ _ rfl]
    exact run_of_next rfl rest
  | cons second others ih =>
    rw [tokensOfTypes, List.isEmpty_cons, if_neg Bool.false_ne_true, List.append_assoc,
      List.append_assoc, List.singleton_append, run_slot _ _ rfl, Slot.filled, run_of_next rfl,
      ih, List.append_assoc, List.singleton_append]

/-- A parameter after others, in front of a token that is no part of its type. -/
theorem run_parameter (owner : ParameterOwner) (before : List Parameter) (p : Parameter)
    {t : Token} (ht : t.endsType = true) (rest : List Token) :
    (⟨items, .parameterNext owner before⟩ : State).run (p.tokens ++ t :: rest) =
      (⟨items, .parameterTyped owner before p⟩ : State).run (t :: rest) := by
  rw [Parameter.tokens, List.cons_append, run_of_next rfl, List.cons_append, run_of_next rfl,
    run_slot _ _ ht]
  rfl

/-- The tokens of parameters of which the last one is given. -/
theorem parameterTokens_concat (ps : List Parameter) (last : Parameter) :
    parameterTokens (ps ++ [last]) =
      (ps.flatMap fun p => p.tokens ++ [Token.mark .comma]) ++ last.tokens := by
  induction ps with
  | nil => rfl
  | cons p ps ih =>
    have hc : ps ++ [last] ≠ [] := List.append_ne_nil_of_right_ne_nil _ (List.cons_ne_nil _ _)
    obtain ⟨next, others, he⟩ := List.exists_cons_of_ne_nil hc
    have hs : parameterTokens (p :: (ps ++ [last])) =
        p.tokens ++ [Token.mark .comma] ++ parameterTokens (ps ++ [last]) := by
      rw [he]
      rfl
    rw [List.cons_append, hs, ih, List.flatMap_cons, List.append_assoc _ _ last.tokens]

/-- Parameters with the commas behind them. -/
theorem run_parametersBefore (owner : ParameterOwner) (before ps : List Parameter)
    (rest : List Token) :
    (⟨items, .parameterNext owner before⟩ : State).run
        ((ps.flatMap fun p => p.tokens ++ [Token.mark .comma]) ++ rest) =
      (⟨items, .parameterNext owner (before ++ ps)⟩ : State).run rest := by
  induction ps generalizing before with
  | nil => rw [List.append_nil]; rfl
  | cons p ps ih =>
    rw [List.flatMap_cons, List.append_assoc, List.append_assoc, List.singleton_append,
      run_parameter owner before p rfl, run_of_next rfl, ih, List.append_assoc,
      List.singleton_append]

/-- The name of the first parameter may also stand behind a comma. -/
theorem run_parametersOpen (owner : ParameterOwner) (n : String) (rest : List Token) :
    (⟨items, .parametersOpen owner⟩ : State).run (.name n :: rest) =
      (⟨items, .parameterNext owner []⟩ : State).run (.name n :: rest) :=
  (run_of_next rfl _).trans (run_of_next rfl _).symm

/-- One parameter or more behind an opening bracket, in front of a token that is no part of the
last one. -/
theorem run_parameters (owner : ParameterOwner) (ps : List Parameter) (last : Parameter)
    {t : Token} (ht : t.endsType = true) (rest : List Token) :
    (⟨items, .parametersOpen owner⟩ : State).run (parameterTokens (ps ++ [last]) ++ t :: rest) =
      (⟨items, .parameterTyped owner ps last⟩ : State).run (t :: rest) := by
  have hname : ∃ n tokens, parameterTokens (ps ++ [last]) ++ t :: rest = .name n :: tokens := by
    rw [parameterTokens_concat]
    cases ps with
    | nil => exact ⟨_, _, rfl⟩
    | cons p ps => exact ⟨_, _, rfl⟩
  obtain ⟨n, tokens, he⟩ := hname
  rw [he, run_parametersOpen, ← he, parameterTokens_concat, List.append_assoc, run_parametersBefore,
    run_parameter owner _ last ht, List.nil_append]

/-- The parameters of a declaration with its closing parenthesis. -/
theorem run_declarationParameters (h : Header) (ps : List Parameter) (rest : List Token) :
    (⟨items, .parametersOpen (.declaration h)⟩ : State).run
        (parameterTokens ps ++ .mark .rpar :: rest) =
      (⟨items, .headed h ps⟩ : State).run rest := by
  rcases List.eq_nil_or_concat ps with rfl | ⟨before, last, rfl⟩
  · exact run_of_next rfl rest
  · rw [List.concat_eq_append, run_parameters _ _ _ rfl, run_of_next rfl]

private theorem run_methodParameters (b : Body) (ms : List Modifier) (n : String)
    (ps : List Parameter) (rest : List Token) :
    (⟨items, .parametersOpen (.method b ms n)⟩ : State).run
        (parameterTokens ps ++ .mark .rpar :: rest) =
      (⟨items, .methodHeaded b ms n ps⟩ : State).run rest := by
  rcases List.eq_nil_or_concat ps with rfl | ⟨before, last, rfl⟩
  · exact run_of_next rfl rest
  · rw [List.concat_eq_append, run_parameters _ _ _ rfl, run_of_next rfl]

/-! ## Members -/

private theorem run_accessorEnd (owner : BlockOwner) (before : List AccessorTree)
    (kind : AccessorKind) {t : Token} (ht : t ≠ .mark .semicolon) (rest : List Token) :
    (⟨items, .accessor owner before kind⟩ : State).run (t :: rest) =
      (⟨items, .block owner (before ++ [⟨kind, false⟩])⟩ : State).run (t :: rest) := by
  refine run_of_settle ?_ rfl rfl rest
  cases t with
  | mark m => cases m <;> first | rfl | exact absurd rfl ht
  | name n => rfl
  | word w => rfl

private theorem run_block (owner : BlockOwner) (before block : List AccessorTree)
    (rest : List Token) :
    (⟨items, .block owner before⟩ : State).run
        (block.flatMap AccessorTree.tokens ++ .mark .rbrace :: rest) =
      (⟨items, .body (owner.closed (before ++ block)) []⟩ : State).run rest := by
  induction block generalizing before with
  | nil =>
    rw [List.append_nil]
    exact run_of_next rfl rest
  | cons a block ih =>
    obtain ⟨kind, terminated⟩ := a
    rw [List.flatMap_cons, List.append_assoc, AccessorTree.tokens, List.cons_append,
      run_of_next rfl]
    have hnext : before ++ ⟨kind, terminated⟩ :: block =
        before ++ [⟨kind, terminated⟩] ++ block := by
      rw [List.append_assoc, List.singleton_append]
    rw [hnext, ← ih]
    cases terminated with
    | true => exact run_of_next rfl _
    | false =>
      cases block with
      | nil => exact run_accessorEnd owner before kind (t := .mark .rbrace) (by decide) rest
      | cons next block =>
        exact run_accessorEnd owner before kind (t := .word (.accessor next.kind)) (by simp) _

/-- A complete accessor block, which closes its member. -/
theorem run_blockTokens (place : Place) (owner : BlockOwner)
    (h : place.next (.mark .lbrace) = some (.block owner [])) (block : List AccessorTree)
    (rest : List Token) :
    (⟨items, place⟩ : State).run (blockTokens block ++ rest) =
      (⟨items, .body (owner.closed block) []⟩ : State).run rest := by
  rw [blockTokens, List.cons_append, run_of_next h, List.append_assoc, List.singleton_append,
    run_block, List.nil_append]

/-- The modifiers of a member. -/
theorem run_memberModifiers (b : Body) (before ms : List Modifier) (rest : List Token) :
    (⟨items, .body b before⟩ : State).run (modifierTokens ms ++ rest) =
      (⟨items, .body b (before ++ ms)⟩ : State).run rest := by
  induction ms generalizing before with
  | nil => rw [List.append_nil]; rfl
  | cons m ms ih =>
    rw [modifierTokens, List.map_cons, List.cons_append, run_of_next rfl, ← modifierTokens, ih,
      List.append_assoc, List.singleton_append]

/-- Whether a token may stand behind a member: the end of the body or the next member. -/
def Token.endsMember : Token → Bool
  | .mark m => m == .rbrace
  | .name _ | .word _ => true

/-- Such a token is no part of a type. -/
theorem Token.endsType_of_endsMember {t : Token} (h : t.endsMember = true) : t.endsType = true := by
  cases t with
  | mark m => cases m <;> first | rfl | cases h
  | name n => rfl
  | word w => rfl

/-- The body behind a member that only its semicolon could go on with. -/
def Place.pending : Place → Option Body
  | .memberTyped b ms n type => some (addMember b ms (.field n type false))
  | .methodHeaded b ms n ps => some (addMember b ms (.method n ps none false))
  | .methodTyped b ms n ps type => some (addMember b ms (.method n ps (some type) false))
  | _ => none

/-- A member without its semicolon ends in front of what stands behind members. -/
theorem run_pending {place : Place} {b : Body} (h : place.pending = some b) {t : Token}
    (ht : t.endsMember = true) (rest : List Token) :
    (⟨items, place⟩ : State).run (t :: rest) =
      (⟨items, .body b []⟩ : State).run (t :: rest) := by
  have hd : (⟨items, place⟩ : State).direct t = none := by
    cases place with
    | memberTyped | methodHeaded | methodTyped => cases t with
      | mark m =>
        obtain rfl : m = .rbrace := beq_iff_eq.mp ht
        rfl
      | name n => rfl
      | word w => rfl
    | _ => cases h
  have hs : (⟨items, place⟩ : State).settle = some ⟨items, .body b []⟩ := by
    cases place with
    | memberTyped | methodHeaded | methodTyped => cases h; rfl
    | _ => cases h
  exact run_of_settle hd hs rfl rest

/-- The last type of a member with its semicolon, if there is one, in front of what may stand behind
the member. -/
theorem run_lastType {slot : Slot} {type : TypeTree} (after : Bool → Body)
    (hnext : (slot.filled type).next (.mark .semicolon) = some (.body (after true) []))
    (hpending : (slot.filled type).pending = some (after false)) (terminated : Bool) {t : Token}
    (ht : t.endsMember = true) (rest : List Token) :
    (⟨items, .typing slot [] .start⟩ : State).run
        (type.tokens ++ (semicolonTokens terminated ++ t :: rest)) =
      (⟨items, .body (after terminated) []⟩ : State).run (t :: rest) := by
  cases terminated with
  | true =>
    rw [semicolonTokens, if_pos rfl, List.singleton_append, run_slot _ _ rfl]
    exact run_of_next hnext _
  | false =>
    rw [semicolonTokens, if_neg Bool.false_ne_true, List.nil_append,
      run_slot _ _ (Token.endsType_of_endsMember ht)]
    exact run_pending hpending ht rest

private theorem run_typeBlock {slot : Slot} {type : TypeTree} (owner : BlockOwner)
    (h : (slot.filled type).next (.mark .lbrace) = some (.block owner []))
    (block : List AccessorTree) (rest : List Token) :
    (⟨items, .typing slot [] .start⟩ : State).run (type.tokens ++ (blockTokens block ++ rest)) =
      (⟨items, .body (owner.closed block) []⟩ : State).run rest := by
  have hfilled : (⟨items, .typing slot [] .start⟩ : State).run
      (type.tokens ++ (blockTokens block ++ rest)) =
        (⟨items, slot.filled type⟩ : State).run (blockTokens block ++ rest) :=
    run_slot slot type rfl _
  rw [hfilled, run_blockTokens _ owner h]

/-- What stands after the modifiers of a member, in front of what may stand behind it. -/
theorem run_form (b : Body) (ms : List Modifier) (form : MemberForm) {t : Token}
    (ht : t.endsMember = true) (rest : List Token) :
    (⟨items, .body b ms⟩ : State).run (form.tokens ++ t :: rest) =
      (⟨items, .body (addMember b ms form) []⟩ : State).run (t :: rest) := by
  cases form with
  | property name type block =>
    have htokens : (MemberForm.property name type block).tokens ++ t :: rest =
        .name name :: .mark .colon :: (type.tokens ++ (blockTokens block ++ t :: rest)) := by
      simp [MemberForm.tokens]
    rw [htokens, run_of_next rfl, run_of_next rfl]
    exact run_typeBlock (.property b ms name type) rfl block _
  | field name type terminated =>
    have htokens : (MemberForm.field name type terminated).tokens ++ t :: rest =
        .name name :: .mark .colon ::
          (type.tokens ++ (semicolonTokens terminated ++ t :: rest)) := by
      simp [MemberForm.tokens]
    rw [htokens, run_of_next rfl, run_of_next rfl]
    exact run_lastType (fun ended => addMember b ms (.field name type ended)) rfl rfl
      terminated ht rest
  | indexer before last type block =>
    have htokens : (MemberForm.indexer before last type block).tokens ++ t :: rest =
        .word .this :: .mark .lsqb :: (parameterTokens (before ++ [last]) ++
          .mark .rsqb :: .mark .colon :: (type.tokens ++ (blockTokens block ++ t :: rest))) := by
      simp [MemberForm.tokens]
    rw [htokens, run_of_next rfl, run_of_next rfl, run_parameters _ _ _ rfl, run_of_next rfl,
      run_of_next rfl]
    exact run_typeBlock (.indexer b ms before last type) rfl block _
  | method name parameters result terminated =>
    have htokens : (MemberForm.method name parameters result terminated).tokens ++ t :: rest =
        .name name :: .mark .lpar :: (parameterTokens parameters ++ .mark .rpar ::
          (resultTokens result ++ (semicolonTokens terminated ++ t :: rest))) := by
      simp [MemberForm.tokens]
    rw [htokens, run_of_next rfl, run_of_next rfl, run_methodParameters]
    cases result with
    | none =>
      cases terminated with
      | true => exact run_of_next rfl _
      | false => exact run_pending rfl ht rest
    | some type =>
      rw [resultTokens, List.cons_append, run_of_next rfl]
      exact run_lastType (fun ended => addMember b ms (.method name parameters (some type) ended))
        rfl rfl terminated ht rest

/-- A member, in front of what may stand behind it. -/
theorem run_member (b : Body) (m : MemberTree) {t : Token} (ht : t.endsMember = true)
    (rest : List Token) :
    (⟨items, .body b []⟩ : State).run (m.tokens ++ t :: rest) =
      (⟨items, .body { b with members := b.members ++ [m] } []⟩ : State).run (t :: rest) := by
  rw [MemberTree.tokens, List.append_assoc, run_memberModifiers, List.nil_append,
    run_form b _ _ ht]
  rfl

/-- A member begins with a token that may stand behind a member. -/
theorem MemberTree.tokens_cons (m : MemberTree) :
    ∃ t rest, m.tokens = t :: rest ∧ t.endsMember = true := by
  obtain ⟨ms, form⟩ := m
  cases ms with
  | cons first others => exact ⟨_, _, rfl, rfl⟩
  | nil => cases form <;> exact ⟨_, _, rfl, rfl⟩

/-- The members of a body, in front of what may stand behind them. -/
theorem run_membersBefore (b : Body) (members : List MemberTree) {t : Token}
    (ht : t.endsMember = true) (rest : List Token) :
    (⟨items, .body b []⟩ : State).run (members.flatMap MemberTree.tokens ++ t :: rest) =
      (⟨items, .body { b with members := b.members ++ members } []⟩ : State).run (t :: rest) := by
  induction members generalizing b with
  | nil => rw [List.append_nil]; rfl
  | cons m members ih =>
    have hnext : ∃ t' tokens, members.flatMap MemberTree.tokens ++ t :: rest = t' :: tokens ∧
        t'.endsMember = true := by
      cases members with
      | nil => exact ⟨_, _, rfl, ht⟩
      | cons second members =>
        obtain ⟨t', tokens, he, ht'⟩ := second.tokens_cons
        exact ⟨t', _, by rw [List.flatMap_cons, he, List.cons_append, List.cons_append], ht'⟩
    obtain ⟨t', tokens, he, ht'⟩ := hnext
    rw [List.flatMap_cons, List.append_assoc, he, run_member b m ht', ← he, ih, List.append_assoc,
      List.singleton_append]

/-! ## Statements -/

/-- The modifiers of a declaration. -/
theorem run_modifiers (before ms : List Modifier) (rest : List Token) :
    (⟨items, .between before⟩ : State).run (modifierTokens ms ++ rest) =
      (⟨items, .between (before ++ ms)⟩ : State).run rest := by
  induction ms generalizing before with
  | nil => rw [List.append_nil]; rfl
  | cons m ms ih =>
    have hm : (Place.between before).next (.word (.modifier m)) =
        some (.between (before ++ [m])) := by cases before <;> rfl
    rw [modifierTokens, List.map_cons, List.cons_append, run_of_next hm, ← modifierTokens, ih,
      List.append_assoc, List.singleton_append]

private theorem run_kind (ms : List Modifier) (kind : Kind) (name : String) (rest : List Token) :
    (⟨items, .between ms⟩ : State).run (kind.words.map .word ++ .name name :: rest) =
      (⟨items, .named ⟨ms, kind, name⟩⟩ : State).run rest := by
  have hrecord : (Place.between ms).next (.word .record) = some (.record ms) := by
    cases ms <;> rfl
  have hcls : (Place.between ms).next (.word .cls) = some (.kind ms .cls) := by
    cases ms <;> rfl
  have hstruct : (Place.between ms).next (.word .struct) = some (.kind ms .struct) := by
    cases ms <;> rfl
  cases kind with
  | record => exact (run_of_next hrecord _).trans (run_of_next rfl _)
  | recordClass =>
    exact (run_of_next hrecord _).trans ((run_of_next rfl _).trans (run_of_next rfl _))
  | recordStruct =>
    exact (run_of_next hrecord _).trans ((run_of_next rfl _).trans (run_of_next rfl _))
  | cls => exact (run_of_next hcls _).trans (run_of_next rfl _)
  | struct => exact (run_of_next hstruct _).trans (run_of_next rfl _)

/-- The header of a declaration. -/
theorem run_header (h : Header) (rest : List Token) :
    (⟨items, .between []⟩ : State).run (h.tokens ++ rest) =
      (⟨items, .named h⟩ : State).run rest := by
  rw [Header.tokens, List.append_assoc, List.append_assoc, run_modifiers, List.nil_append,
    List.singleton_append, run_kind]

private theorem run_baseTokens {place : Place} {h : Header} {ps : Option (List Parameter)}
    (hcolon : place.next (.mark .colon) = some (.typing (.base h ps []) [] .start))
    (hbrace : place.next (.mark .lbrace) = some (.body ⟨h, ps, [], []⟩ []))
    (bases : List TypeTree) (rest : List Token) :
    (⟨items, place⟩ : State).run (baseTokens bases ++ .mark .lbrace :: rest) =
      (⟨items, .body ⟨h, ps, bases, []⟩ []⟩ : State).run rest := by
  cases bases with
  | nil => exact run_of_next hbrace rest
  | cons first others =>
    rw [baseTokens, List.isEmpty_cons, if_neg Bool.false_ne_true, List.cons_append,
      run_of_next hcolon, run_bases, List.nil_append]

private theorem run_heading (h : Header) (parameters : Option (List Parameter))
    (bases : List TypeTree) (rest : List Token) :
    (⟨items, .named h⟩ : State).run
        (optionalParameters parameters ++ (baseTokens bases ++ .mark .lbrace :: rest)) =
      (⟨items, .body ⟨h, parameters, bases, []⟩ []⟩ : State).run rest := by
  cases parameters with
  | none => exact run_baseTokens rfl rfl bases rest
  | some ps =>
    have hheaded : ∀ more : List Token,
        (⟨items, .named h⟩ : State).run (optionalParameters (some ps) ++ more) =
          (⟨items, .headed h ps⟩ : State).run more := by
      intro more
      rw [optionalParameters, parenthesized, List.cons_append, run_of_next rfl, List.append_assoc,
        List.singleton_append, run_declarationParameters]
    rw [hheaded]
    exact run_baseTokens rfl rfl bases rest

/-- The tokens of a declaration up to the end of its last member, in front of what may stand behind
it. -/
theorem run_openTokens (d : TypeDeclaration) {t : Token} (ht : t.endsMember = true)
    (rest : List Token) :
    (⟨items, .between []⟩ : State).run (d.openTokens ++ t :: rest) =
      (⟨items, .body d []⟩ : State).run (t :: rest) := by
  rw [TypeDeclaration.openTokens, List.append_assoc, List.append_assoc, List.append_assoc,
    run_header, List.cons_append, run_heading, run_membersBefore _ _ ht, List.nil_append]

/-- A declaration. -/
theorem run_declaration (d : TypeDeclaration) (rest : List Token) :
    (⟨items, .between []⟩ : State).run (d.tokens ++ rest) =
      (⟨items ++ [Item.type d], .between []⟩ : State).run rest := by
  rw [TypeDeclaration.tokens, List.append_assoc, List.singleton_append, run_openTokens d rfl,
    State.run_cons]
  rfl

private theorem run_scopeTail (p : Path) (names : List String) (rest : List Token) :
    (⟨items, .scopeName p⟩ : State).run
        ((names.flatMap fun name => [Token.mark .dot, .name name]) ++ rest) =
      (⟨items, .scopeName ⟨p.head, p.tail ++ names⟩⟩ : State).run rest := by
  induction names generalizing p with
  | nil => rw [List.append_nil]; rfl
  | cons name names ih =>
    rw [List.flatMap_cons, List.append_assoc, List.cons_append, run_of_next rfl,
      List.cons_append, run_of_next rfl, List.nil_append, ih, Path.push, List.append_assoc,
      List.singleton_append]

/-- A namespace statement up to its last name. -/
theorem run_scopeName (p : Path) (rest : List Token) :
    (⟨items, .between []⟩ : State).run (.word .scope :: (p.tokens ++ rest)) =
      (⟨items, .scopeName p⟩ : State).run rest := by
  rw [run_of_next rfl, Path.tokens, List.cons_append, run_of_next rfl, run_scopeTail,
    List.nil_append]

/-- A namespace statement, in front of a keyword. -/
theorem run_scope (p : Path) (terminated : Bool) (w : Word) (rest : List Token) :
    (⟨items, .between []⟩ : State).run
        ((Item.scope p terminated).tokens ++ .word w :: rest) =
      (⟨items ++ [Item.scope p terminated], .between []⟩ : State).run (.word w :: rest) := by
  rw [Item.tokens, List.cons_append, List.append_assoc, run_scopeName]
  cases terminated with
  | true =>
    rw [semicolonTokens, if_pos rfl, List.singleton_append, State.run_cons]
    rfl
  | false =>
    -- nothing but what follows ends it
    rw [semicolonTokens, if_neg Bool.false_ne_true, List.nil_append]
    exact run_of_settle rfl rfl rfl rest

/-- A header begins with a keyword. -/
theorem Header.tokens_cons (h : Header) : ∃ w rest, h.tokens = .word w :: rest := by
  obtain ⟨ms, kind, name⟩ := h
  cases ms with
  | cons m ms => exact ⟨_, _, rfl⟩
  | nil => cases kind <;> exact ⟨_, _, rfl⟩

/-- So does a declaration. -/
theorem TypeDeclaration.openTokens_cons (d : TypeDeclaration) :
    ∃ w rest, d.openTokens = .word w :: rest := by
  obtain ⟨w, rest, he⟩ := d.header.tokens_cons
  rw [openTokens, he]
  exact ⟨w, _, rfl⟩

/-- A statement begins with a keyword. -/
theorem Item.tokens_cons (item : Item) : ∃ w rest, item.tokens = .word w :: rest := by
  cases item with
  | scope p terminated => exact ⟨_, _, rfl⟩
  | type d =>
    obtain ⟨w, rest, he⟩ := d.openTokens_cons
    exact ⟨w, _, by rw [Item.tokens, TypeDeclaration.tokens, he, List.cons_append]⟩

/-- Statements, in front of a keyword. -/
theorem run_fileBefore (f : File) (w : Word) (rest : List Token) :
    (⟨items, .between []⟩ : State).run (tokensOfFile f ++ .word w :: rest) =
      (⟨items ++ f, .between []⟩ : State).run (.word w :: rest) := by
  induction f generalizing items with
  | nil =>
    rw [List.append_nil]
    rfl
  | cons item f ih =>
    have hnext : ∃ w' tokens, tokensOfFile f ++ .word w :: rest = .word w' :: tokens := by
      cases f with
      | nil => exact ⟨w, rest, rfl⟩
      | cons next f =>
        obtain ⟨w', tokens, he⟩ := next.tokens_cons
        exact ⟨w', _, by rw [tokensOfFile, List.flatMap_cons, he, List.cons_append,
          List.cons_append]⟩
    obtain ⟨w', tokens, he⟩ := hnext
    rw [tokensOfFile, List.flatMap_cons, ← tokensOfFile, List.append_assoc, he]
    have hitem : (⟨items, .between []⟩ : State).run (item.tokens ++ .word w' :: tokens) =
        (⟨items ++ [item], .between []⟩ : State).run (.word w' :: tokens) := by
      cases item with
      | scope p terminated => exact run_scope p terminated w' tokens
      | type d => exact run_declaration d _
    rw [hitem, ← he, ih, List.append_assoc, List.singleton_append]

/-- A reader that is given the tokens of a file completes that file. -/
theorem start_reads_tokensOfFile (f : File) : State.start.reads (tokensOfFile f) = some f := by
  rcases List.eq_nil_or_concat f with rfl | ⟨before, last, rfl⟩
  · rfl
  -- the last statement is not in front of a keyword
  obtain ⟨w, rest, he⟩ := last.tokens_cons
  have hbefore : State.start.run (tokensOfFile (before.concat last)) =
      (⟨before, .between []⟩ : State).run last.tokens := by
    rw [List.concat_eq_append, tokensOfFile, List.flatMap_append, List.flatMap_singleton, he,
      ← tokensOfFile, State.start, run_fileBefore, List.nil_append]
  rw [State.reads, hbefore, List.concat_eq_append]
  cases last with
  | type d =>
    rw [Item.tokens, ← List.append_nil d.tokens, run_declaration]
    rfl
  | scope p terminated =>
    rw [Item.tokens, run_scopeName]
    cases terminated <;> rfl

end KeyedAccess.Schema
