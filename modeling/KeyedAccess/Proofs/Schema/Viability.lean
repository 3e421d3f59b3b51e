import KeyedAccess.Proofs.Schema.Reading

/-!
# Every state can be completed

From every state of a reader some tokens complete the file: the innermost unfinished part is ended
in the shortest way, then the one around it. So a reader that has taken some tokens has taken the
beginning of a file.
-/

namespace KeyedAccess.Schema

variable {items : List Item}

/-- Some tokens complete the file from a state on. -/
def State.Viable (s : State) : Prop := ∃ tokens f, s.reads tokens = some f

/-- A part may end here: some tokens complete the file, and the first one is no part of a type. -/
def State.Closable (s : State) : Prop :=
  ∃ t rest f, t.endsType = true ∧ s.reads (t :: rest) = some f

/-- Where a part may end, the file can be completed. -/
theorem State.Closable.viable {s : State} (h : s.Closable) : s.Viable := by
  obtain ⟨t, rest, f, -, hf⟩ := h
  exact ⟨t :: rest, f, hf⟩

private theorem viable_of_next {place next : Place} (t : Token) (h : place.next t = some next)
    (hv : (⟨items, next⟩ : State).Viable) : (⟨items, place⟩ : State).Viable := by
  obtain ⟨tokens, f, hf⟩ := hv
  exact ⟨t :: tokens, f, (State.reads_congr (run_of_next h tokens)).trans hf⟩

private theorem closable_of_next {place next : Place} (t : Token) (ht : t.endsType = true)
    (h : place.next t = some next) (hv : (⟨items, next⟩ : State).Viable) :
    (⟨items, place⟩ : State).Closable := by
  obtain ⟨tokens, f, hf⟩ := hv
  exact ⟨t, tokens, f, ht, (State.reads_congr (run_of_next h tokens)).trans hf⟩

/-! ## Types -/

private theorem viable_type {slot : Slot} {spot : Spot} {type : TypeTree}
    (h : spot.type? = some type) (hs : (⟨items, slot.filled type⟩ : State).Closable) :
    (⟨items, .typing slot [] spot⟩ : State).Viable := by
  obtain ⟨t, rest, f, ht, hf⟩ := hs
  refine ⟨t :: rest, f, (State.reads_congr ?_).trans hf⟩
  rw [State.run_cons, State.run_cons, State.step_of_type? slot h ht]

private theorem viable_frames {slot : Slot}
    (hs : ∀ type, (⟨items, slot.filled type⟩ : State).Closable)
    (frames : List Frame) {spot : Spot} {type : TypeTree} (h : spot.type? = some type) :
    (⟨items, .typing slot frames spot⟩ : State).Viable := by
  induction frames generalizing spot type with
  | nil => exact viable_type h (hs type)
  | cons frame frames ih =>
    exact viable_of_next (.mark .more) (by rw [Place.next, typeStep_more h]; rfl) (ih rfl)

/-- An unfinished type can be completed where its slot may end. -/
theorem viable_typing {slot : Slot} (hs : ∀ type, (⟨items, slot.filled type⟩ : State).Closable)
    (frames : List Frame) (spot : Spot) : (⟨items, .typing slot frames spot⟩ : State).Viable := by
  cases spot with
  | start => exact viable_of_next (.name "x") rfl (viable_frames hs frames rfl)
  | path p => exact viable_frames hs frames rfl
  | dot p => exact viable_of_next (.name "x") rfl (viable_frames hs frames rfl)
  | closed p arguments ranks => exact viable_frames hs frames rfl
  | rank p arguments ranks commas =>
    exact viable_of_next (.mark .rsqb) rfl (viable_frames hs frames rfl)
  | nullable p arguments ranks => exact viable_frames hs frames rfl

/-! ## Members -/

/-- A body can be closed. -/
theorem viable_body (b : Body) (ms : List Modifier) : (⟨items, .body b ms⟩ : State).Viable := by
  have hempty : ∀ b : Body, (⟨items, .body b []⟩ : State).Viable := fun b =>
    ⟨[.mark .rbrace], items ++ [Item.type b], rfl⟩
  cases ms with
  | nil => exact hempty b
  | cons m ms =>
    -- modifiers need a member, and a method is the shortest one
    refine viable_of_next (.name "x") rfl (viable_of_next (.mark .lpar) rfl
      (viable_of_next (.mark .rpar) rfl (viable_of_next (.mark .semicolon) rfl (hempty _))))

/-- Behind an accessor block is the body. -/
theorem viable_block (owner : BlockOwner) (accessors : List AccessorTree) :
    (⟨items, .block owner accessors⟩ : State).Viable :=
  viable_of_next (.mark .rbrace) rfl (viable_body _ _)

private theorem closable_memberTyped (b : Body) (ms : List Modifier) (n : String)
    (type : TypeTree) :
    (⟨items, .memberTyped b ms n type⟩ : State).Closable :=
  closable_of_next (.mark .semicolon) rfl rfl (viable_body _ _)

private theorem closable_indexerTyped (b : Body) (ms : List Modifier) (before : List Parameter)
    (last : Parameter) (type : TypeTree) :
    (⟨items, .indexerTyped b ms before last type⟩ : State).Closable :=
  closable_of_next (.mark .lbrace) rfl rfl (viable_block _ _)

private theorem closable_methodTyped (b : Body) (ms : List Modifier) (n : String)
    (ps : List Parameter)
    (type : TypeTree) : (⟨items, .methodTyped b ms n ps type⟩ : State).Closable :=
  closable_of_next (.mark .semicolon) rfl rfl (viable_body _ _)

private theorem closable_based (h : Header) (ps : Option (List Parameter)) (bases : List TypeTree) :
    (⟨items, .based h ps bases⟩ : State).Closable :=
  closable_of_next (.mark .lbrace) rfl rfl (viable_body _ _)

private theorem viable_methodHeaded (b : Body) (ms : List Modifier) (n : String)
    (ps : List Parameter) :
    (⟨items, .methodHeaded b ms n ps⟩ : State).Viable :=
  viable_of_next (.mark .semicolon) rfl (viable_body _ _)

private theorem viable_indexerHeaded (b : Body) (ms : List Modifier) (before : List Parameter)
    (last : Parameter) : (⟨items, .indexerHeaded b ms before last⟩ : State).Viable :=
  viable_of_next (.mark .colon) rfl (viable_typing (fun _ => closable_indexerTyped ..) _ _)

/-! ## Parameters -/

private theorem closable_parameterTyped (owner : ParameterOwner) (before : List Parameter)
    (last : Parameter) : (⟨items, .parameterTyped owner before last⟩ : State).Closable := by
  cases owner with
  | declaration h =>
    exact closable_of_next (.mark .rpar) rfl rfl
      (viable_of_next (.mark .lbrace) rfl (viable_body _ _))
  | indexer b ms => exact closable_of_next (.mark .rsqb) rfl rfl (viable_indexerHeaded ..)
  | method b ms n => exact closable_of_next (.mark .rpar) rfl rfl (viable_methodHeaded ..)

private theorem viable_parameterName (owner : ParameterOwner) (before : List Parameter)
    (n : String) :
    (⟨items, .parameterName owner before n⟩ : State).Viable :=
  viable_of_next (.mark .colon) rfl (viable_typing (fun _ => closable_parameterTyped ..) _ _)

private theorem closable_filled (slot : Slot) (type : TypeTree) :
    (⟨items, slot.filled type⟩ : State).Closable := by
  cases slot with
  | base h ps before => exact closable_based ..
  | parameter owner before n => exact closable_parameterTyped ..
  | member b ms n => exact closable_memberTyped ..
  | indexer b ms before last => exact closable_indexerTyped ..
  | result b ms n ps => exact closable_methodTyped ..

/-! ## Statements -/

private theorem viable_named (h : Header) : (⟨items, .named h⟩ : State).Viable :=
  viable_of_next (.mark .lbrace) rfl (viable_body _ _)

private theorem viable_kind (ms : List Modifier) (k : Kind) :
    (⟨items, .kind ms k⟩ : State).Viable :=
  viable_of_next (.name "x") rfl (viable_named _)

/-- From every state some tokens complete the file. -/
theorem State.viable (s : State) : s.Viable := by
  obtain ⟨items, place⟩ := s
  have hscope : ∀ p, (⟨items, .scopeName p⟩ : State).Viable := fun p => ⟨[], _, rfl⟩
  cases place with
  | between ms =>
    cases ms with
    | nil => exact ⟨[], items, rfl⟩
    | cons m ms => exact viable_of_next (.word .cls) rfl (viable_kind _ _)
  | scope => exact viable_of_next (.name "x") rfl (hscope _)
  | scopeName p => exact hscope p
  | scopeDot p => exact viable_of_next (.name "x") rfl (hscope _)
  | record ms => exact viable_of_next (.name "x") rfl (viable_named _)
  | kind ms k => exact viable_kind ms k
  | named h => exact viable_named h
  | headed h ps => exact viable_of_next (.mark .lbrace) rfl (viable_body _ _)
  | based h ps bases => exact (closable_based h ps bases).viable
  | parametersOpen owner => exact viable_of_next (.name "x") rfl (viable_parameterName owner [] "x")
  | parameterName owner before n => exact viable_parameterName owner before n
  | parameterTyped owner before last => exact (closable_parameterTyped owner before last).viable
  | parameterNext owner before =>
    exact viable_of_next (.name "x") rfl (viable_parameterName owner before "x")
  | typing slot frames spot => exact viable_typing (closable_filled slot) frames spot
  | body b ms => exact viable_body b ms
  | memberName b ms n =>
    exact viable_of_next (.mark .colon) rfl (viable_typing (fun _ => closable_memberTyped ..) _ _)
  | memberTyped b ms n type => exact (closable_memberTyped b ms n type).viable
  | this b ms =>
    exact viable_of_next (.mark .lsqb) rfl
      (viable_of_next (.name "x") rfl (viable_parameterName (.indexer b ms) [] "x"))
  | indexerHeaded b ms before last => exact viable_indexerHeaded b ms before last
  | indexerTyped b ms before last type => exact (closable_indexerTyped b ms before last type).viable
  | methodHeaded b ms n ps => exact viable_methodHeaded b ms n ps
  | methodTyped b ms n ps type => exact (closable_methodTyped b ms n ps type).viable
  | block owner accessors => exact viable_block owner accessors
  | accessor owner before a => exact viable_of_next (.mark .semicolon) rfl (viable_block _ _)

end KeyedAccess.Schema
