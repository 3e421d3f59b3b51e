import KeyedAccess.Proofs.Schema.Reading

/-!
# What a reader has read

Every state determines the tokens that led to it: those of the finished statements and those of the
unfinished one so far. Reading a token adds it to them and settling changes nothing, so a completed
file has exactly the tokens that were read.
-/

namespace KeyedAccess.Schema

/-- The tokens of parameters with a comma behind each. -/
def parametersBefore (ps : List Parameter) : List Token :=
  ps.flatMap fun p => p.tokens ++ [.mark .comma]

/-- The tokens of types with a comma behind each. -/
def typesBefore (types : List TypeTree) : List Token :=
  types.flatMap fun type => type.tokens ++ [.mark .comma]

/-- The tokens of a member so far, behind those of its body. -/
def memberSoFar (b : Body) (ms : List Modifier) (tokens : List Token) : List Token :=
  b.openTokens ++ modifierTokens ms ++ tokens

/-- The tokens up to the bracket that opens a parameter list. -/
def ParameterOwner.tokens : ParameterOwner → List Token
  | .declaration h => h.tokens ++ [.mark .lpar]
  | .indexer b ms => memberSoFar b ms [.word .this, .mark .lsqb]
  | .method b ms n => memberSoFar b ms [.name n, .mark .lpar]

/-- The tokens of an indexer up to the bracket behind its parameters. -/
def indexerSoFar (before : List Parameter) (last : Parameter) : List Token :=
  [.word .this, .mark .lsqb] ++ parameterTokens (before ++ [last]) ++ [.mark .rsqb]

/-- The tokens of a method up to the bracket behind its parameters. -/
def methodSoFar (n : String) (ps : List Parameter) : List Token :=
  [.name n, .mark .lpar] ++ parameterTokens ps ++ [.mark .rpar]

/-- The tokens in front of a type. -/
def Slot.tokens : Slot → List Token
  | .base h ps before => h.tokens ++ optionalParameters ps ++ [.mark .colon] ++ typesBefore before
  | .parameter owner before n =>
    owner.tokens ++ parametersBefore before ++ [.name n, .mark .colon]
  | .member b ms n => memberSoFar b ms [.name n, .mark .colon]
  | .indexer b ms before last => memberSoFar b ms (indexerSoFar before last ++ [.mark .colon])
  | .result b ms n ps => memberSoFar b ms (methodSoFar n ps ++ [.mark .colon])

/-- The tokens of the types around one that is being read, from the outermost on. -/
def framesTokens : List Frame → List Token
  | [] => []
  | frame :: others =>
    framesTokens others ++ (frame.path.tokens ++ [.mark .less] ++ typesBefore frame.before)

/-- The tokens of the innermost type so far. -/
def Spot.tokens : Spot → List Token
  | .start => []
  | .path p => p.tokens
  | .dot p => p.tokens ++ [.mark .dot]
  | .closed p arguments ranks => (TypeTree.mk p arguments ranks false).tokens
  | .rank p arguments ranks commas =>
    (TypeTree.mk p arguments ranks false).tokens ++
      .mark .lsqb :: List.replicate commas (.mark .comma)
  | .nullable p arguments ranks => (TypeTree.mk p arguments ranks true).tokens

/-- The tokens of a member up to its accessor block. -/
def BlockOwner.tokens : BlockOwner → List Token
  | .property b ms n type => memberSoFar b ms (.name n :: .mark .colon :: type.tokens)
  | .indexer b ms before last type =>
    memberSoFar b ms (indexerSoFar before last ++ .mark .colon :: type.tokens)

/-- The tokens of the unfinished statement. -/
def Place.tokens : Place → List Token
  | .between ms => modifierTokens ms
  | .scope => [.word .scope]
  | .scopeName p => .word .scope :: p.tokens
  | .scopeDot p => .word .scope :: (p.tokens ++ [.mark .dot])
  | .record ms => modifierTokens ms ++ [.word Word.record]
  | .kind ms k => modifierTokens ms ++ k.words.map Token.word
  | .named h => h.tokens
  | .headed h ps => h.tokens ++ parenthesized ps
  | .based h ps bases => h.tokens ++ optionalParameters ps ++ .mark .colon :: tokensOfTypes bases
  | .parametersOpen owner => owner.tokens
  | .parameterName owner before n => owner.tokens ++ parametersBefore before ++ [.name n]
  | .parameterTyped owner before last => owner.tokens ++ parametersBefore before ++ last.tokens
  | .parameterNext owner before => owner.tokens ++ parametersBefore before
  | .typing slot frames spot => slot.tokens ++ framesTokens frames ++ spot.tokens
  | .body b ms => memberSoFar b ms []
  | .memberName b ms n => memberSoFar b ms [.name n]
  | .memberTyped b ms n type => memberSoFar b ms (.name n :: .mark .colon :: type.tokens)
  | .this b ms => memberSoFar b ms [.word .this]
  | .indexerHeaded b ms before last => memberSoFar b ms (indexerSoFar before last)
  | .indexerTyped b ms before last type =>
    memberSoFar b ms (indexerSoFar before last ++ .mark .colon :: type.tokens)
  | .methodHeaded b ms n ps => memberSoFar b ms (methodSoFar n ps)
  | .methodTyped b ms n ps type =>
    memberSoFar b ms (methodSoFar n ps ++ .mark .colon :: type.tokens)
  | .block owner accessors => owner.tokens ++ .mark .lbrace :: accessors.flatMap AccessorTree.tokens
  | .accessor owner before a =>
    owner.tokens ++ .mark .lbrace ::
      (before.flatMap AccessorTree.tokens ++ [.word (.accessor a)])

/-- The tokens that a state has read. -/
def State.tokens (s : State) : List Token := tokensOfFile s.items ++ s.place.tokens

@[simp] private theorem tokensOfTypes_concat (types : List TypeTree) (last : TypeTree) :
    tokensOfTypes (types ++ [last]) = typesBefore types ++ last.tokens := by
  induction types with
  | nil => simp [tokensOfTypes, typesBefore]
  | cons type types ih =>
    have hn : (types ++ [last]).isEmpty = false := by simp
    rw [List.cons_append, tokensOfTypes, hn, if_neg Bool.false_ne_true, ih, typesBefore,
      typesBefore, List.flatMap_cons, List.append_assoc _ _ last.tokens]

@[simp] private theorem Path.tokens_push (p : Path) (n : String) :
    (p.push n).tokens = p.tokens ++ [Token.mark .dot, .name n] := by
  simp only [Path.tokens, Path.push, List.flatMap_append, List.flatMap_cons, List.flatMap_nil,
    List.append_nil, List.cons_append]

/-- A complete type has the tokens of its spot. -/
theorem Spot.tokens_of_type? {spot : Spot} {type : TypeTree} (h : spot.type? = some type) :
    spot.tokens = type.tokens := by
  cases spot with
  | path p =>
    cases h
    simp [Spot.tokens, TypeTree.tokens]
  | closed p arguments ranks =>
    cases h
    rfl
  | nullable p arguments ranks =>
    cases h
    rfl
  | start | dot | rank => cases h

@[simp] private theorem TypeTree.tokens_rank (p : Path) (arguments : List TypeTree)
    (ranks : List Nat) (commas : Nat) :
    (TypeTree.mk p arguments (ranks ++ [commas]) false).tokens =
      (TypeTree.mk p arguments ranks false).tokens ++ rankTokens commas := by
  simp [TypeTree.tokens]

@[simp] private theorem TypeTree.tokens_nullable (p : Path) (arguments : List TypeTree)
    (ranks : List Nat) :
    (TypeTree.mk p arguments ranks true).tokens =
      (TypeTree.mk p arguments ranks false).tokens ++ [Token.mark .question] := by
  simp [TypeTree.tokens]

@[simp] private theorem TypeTree.tokens_arguments (p : Path) (before : List TypeTree)
    (last : TypeTree) :
    (TypeTree.mk p (before ++ [last]) [] false).tokens =
      p.tokens ++ [Token.mark .less] ++ typesBefore before ++ last.tokens ++
      [Token.mark .more] := by
  have hn : (before ++ [last]).isEmpty = false := by simp
  simp [TypeTree.tokens, hn]

/-- A token within a type is added to its tokens. -/
theorem TypeMove.tokens {frames : List Frame} {spot : Spot} {t : Token}
    {next : List Frame × Spot} (h : TypeMove frames spot t next) :
    framesTokens next.1 ++ next.2.tokens = framesTokens frames ++ spot.tokens ++ [t] := by
  cases h with
  | first | dot => simp [Spot.tokens, Path.tokens]
  | push => simp [Spot.tokens]
  | openArguments => simp [framesTokens, Spot.tokens, typesBefore]
  | openFirstRank | nullablePath => simp [Spot.tokens, TypeTree.tokens]
  | openRank => simp [Spot.tokens]
  | rankComma => simp [Spot.tokens, List.replicate_succ']
  | closeRank => simp [Spot.tokens, rankTokens]
  | nullable => simp [Spot.tokens]
  | nextArgument frame others h =>
    rw [Spot.tokens_of_type? h]
    simp [framesTokens, typesBefore, Spot.tokens]
  | closeArguments frame others h =>
    rw [Spot.tokens_of_type? h]
    simp [framesTokens, Spot.tokens]

@[simp] private theorem openTokens_addMember (b : Body) (ms : List Modifier) (form : MemberForm) :
    (addMember b ms form).openTokens = memberSoFar b ms form.tokens := by
  simp [TypeDeclaration.openTokens, addMember, memberSoFar, MemberTree.tokens]

/-- A closed block makes its member complete. -/
@[simp] theorem BlockOwner.tokens_closed (owner : BlockOwner) (block : List AccessorTree) :
    (owner.closed block).openTokens = owner.tokens ++ blockTokens block := by
  cases owner with
  | property b ms n type =>
    simp [BlockOwner.closed, BlockOwner.tokens, memberSoFar, MemberForm.tokens]
  | indexer b ms before last type =>
    simp [BlockOwner.closed, BlockOwner.tokens, memberSoFar, MemberForm.tokens, indexerSoFar]

@[simp] private theorem parameterTokens_nil : parameterTokens [] = [] := rfl

/-- A place behind a complete base type has a base type. -/
def Place.Grounded : Place → Prop
  | .based _ _ bases => bases ≠ []
  | _ => True

/-- No token leads directly to a place behind a complete base type. -/
theorem Place.Moves.grounded {place next : Place} {t : Token} (h : place.Moves t next) :
    next.Grounded := by
  cases h <;> trivial

private theorem typesBefore_eq {types : List TypeTree} (h : types ≠ []) :
    typesBefore types = tokensOfTypes types ++ [Token.mark .comma] := by
  rcases List.eq_nil_or_concat types with rfl | ⟨before, last, rfl⟩
  · exact absurd rfl h
  · rw [List.concat_eq_append, tokensOfTypes_concat, typesBefore, typesBefore,
      List.flatMap_append, List.flatMap_singleton, List.append_assoc]

/-- A token that goes on with the unfinished statement is added to its tokens. -/
theorem Place.Moves.tokens {place next : Place} {t : Token} (hp : place.Grounded)
    (h : place.Moves t next) : next.tokens = place.tokens ++ [t] := by
  cases h with
  | nextBase h ps bases =>
    simp [Place.tokens, Slot.tokens, framesTokens, Spot.tokens, typesBefore_eq hp]
  | basedBody h ps bases =>
    have hb : bases ≠ [] := hp
    simp [Place.tokens, memberSoFar, TypeDeclaration.openTokens, baseTokens, hb, modifierTokens]
  | typing slot h => simp [Place.tokens, h.tokens]
  | endField | endMethod | endTypedMethod =>
    simp [Place.tokens, memberSoFar, MemberForm.tokens, methodSoFar, modifierTokens, resultTokens,
      semicolonTokens]
  | closeBlock =>
    simp [Place.tokens, memberSoFar, blockTokens, modifierTokens]
  | _ =>
    simp [Place.tokens, modifierTokens, Kind.words, Path.tokens, Path.push, Header.tokens,
      ParameterOwner.tokens, Slot.tokens, framesTokens, Spot.tokens, optionalParameters,
      parenthesized, typesBefore, parametersBefore, memberSoFar, TypeDeclaration.openTokens,
      baseTokens, parameterTokens_concat, indexerSoFar, methodSoFar, BlockOwner.tokens,
      AccessorTree.tokens, semicolonTokens]

/-- A token that is taken without settling is added to the tokens. -/
theorem State.Direct.tokens {s next : State} {t : Token} (hp : s.place.Grounded)
    (h : s.Direct t next) : next.tokens = s.tokens ++ [t] ∧ next.place.Grounded := by
  cases h with
  | endScope =>
    refine ⟨?_, trivial⟩
    simp [State.tokens, tokensOfFile, Item.tokens, semicolonTokens, Place.tokens, modifierTokens]
  | endBody =>
    refine ⟨?_, trivial⟩
    simp [State.tokens, tokensOfFile, Item.tokens, TypeDeclaration.tokens, Place.tokens,
      memberSoFar, modifierTokens]
  | move items h =>
    refine ⟨?_, h.grounded⟩
    rw [State.tokens, State.tokens, h.tokens hp, List.append_assoc]

/-- A complete type leads to a place with the same tokens. -/
theorem Slot.tokens_filled (slot : Slot) (type : TypeTree) :
    (slot.filled type).tokens = slot.tokens ++ type.tokens ∧ (slot.filled type).Grounded := by
  cases slot with
  | base h ps before =>
    exact ⟨by simp [Slot.filled, Place.tokens, Slot.tokens], by
      simp [Slot.filled, Place.Grounded]⟩
  | parameter owner before n =>
    exact ⟨by simp [Slot.filled, Place.tokens, Slot.tokens, Parameter.tokens], trivial⟩
  | member b ms n => exact ⟨by simp [Slot.filled, Place.tokens, Slot.tokens, memberSoFar], trivial⟩
  | indexer b ms before last =>
    exact ⟨by simp [Slot.filled, Place.tokens, Slot.tokens, memberSoFar], trivial⟩
  | result b ms n ps =>
    exact ⟨by simp [Slot.filled, Place.tokens, Slot.tokens, memberSoFar], trivial⟩

/-- Settling changes no token. -/
theorem State.Settles.tokens {s settled : State} (h : s.Settles settled) :
    settled.tokens = s.tokens ∧ settled.place.Grounded := by
  cases h with
  | scope =>
    refine ⟨?_, trivial⟩
    simp [State.tokens, tokensOfFile, Item.tokens, semicolonTokens, Place.tokens, modifierTokens]
  | @type items slot spot type h =>
    obtain ⟨hf, hg⟩ := slot.tokens_filled type
    refine ⟨?_, hg⟩
    rw [State.tokens, State.tokens, hf, Place.tokens, Spot.tokens_of_type? h, framesTokens,
      List.append_nil]
  | field | method | typedMethod =>
    refine ⟨?_, trivial⟩
    simp [State.tokens, Place.tokens, memberSoFar, MemberForm.tokens, semicolonTokens,
      modifierTokens, methodSoFar, resultTokens]
  | accessor =>
    refine ⟨?_, trivial⟩
    simp [State.tokens, Place.tokens, AccessorTree.tokens, semicolonTokens]

/-- A token that a reader takes is added to the tokens. -/
theorem State.Steps.tokens {s next : State} {t : Token} (hp : s.place.Grounded)
    (h : s.Steps t next) : next.tokens = s.tokens ++ [t] ∧ next.place.Grounded := by
  induction h with
  | direct h => exact h.tokens hp
  | settle h _ ih =>
    obtain ⟨ht, hg⟩ := h.tokens
    rw [← ht]
    exact ih hg

/-- All tokens that a reader takes are added to the tokens. -/
theorem State.tokens_of_run {s next : State} {tokens : List Token} (hp : s.place.Grounded)
    (h : s.run tokens = some next) : next.tokens = s.tokens ++ tokens := by
  induction tokens generalizing s with
  | nil =>
    cases h
    exact (List.append_nil _).symm
  | cons t rest ih =>
    obtain ⟨after, hs, hr⟩ := Option.bind_eq_some_iff.mp h
    obtain ⟨ht, hg⟩ := (State.steps_of_eq_some hs).tokens hp
    rw [ih hg hr, ht, List.append_assoc, List.singleton_append]

/-- A complete file has the tokens of its state. -/
theorem State.tokens_of_finish {s : State} {f : File} (h : s.finish = some f) :
    tokensOfFile f = s.tokens := by
  obtain ⟨items, place⟩ := s
  unfold State.finish at h
  split at h
  · next he =>
    cases he
    cases h
    simp [State.tokens, Place.tokens, modifierTokens]
  · next p he =>
    cases he
    cases h
    simp [State.tokens, tokensOfFile, Item.tokens, semicolonTokens, Place.tokens]
  · cases h

/-- A file that a reader completes has exactly the tokens that were read. -/
theorem tokensOfFile_of_reads {tokens : List Token} {f : File}
    (h : State.start.reads tokens = some f) : tokensOfFile f = tokens := by
  obtain ⟨s, hr, hf⟩ := Option.bind_eq_some_iff.mp h
  have hstart : State.start.place.Grounded := trivial
  rw [State.tokens_of_finish hf, State.tokens_of_run hstart hr]
  rfl

end KeyedAccess.Schema
