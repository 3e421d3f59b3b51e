import KeyedAccess.Schema.Lexeme

/-!
# The moves of a reader

The relational form of a reader: how a token is cut off, what it does at a place, and which parts
end without one, with a named case for every move. A fact about all moves is proved by cases on
these relations, and a fact about all steps by induction on how many parts a step finishes first.
-/

namespace KeyedAccess.Schema

/-- A token is cut off from a text, with some text behind it. -/
inductive Lexed (context : Context) : List Char → Token → List Char → Prop
  | mark {c : Char} {m : Mark} (hc : Mark.ofChar? c = some m) (hm : m ∈ context.marks)
      (rest : List Char) : Lexed context (c :: rest) (.mark m) rest
  | whole {c : Char} (hc : Mark.ofChar? c = none) (hn : context.names = true)
      (hs : Text.isAsciiNameStart c = true) (rest : List Char) :
    Lexed context (c :: rest)
      (context.classify (String.ofList (c :: rest.takeWhile Text.isAsciiNameChar)))
      (rest.dropWhile Text.isAsciiNameChar)
  | bare {c : Char} {rest behind : List Char} {w : Word} (hc : Mark.ofChar? c = none)
      (hn : context.names = false) (hw : w ∈ context.words)
      (hd : dropWord w.text.toList (c :: rest) = some behind) :
    Lexed context (c :: rest) (.word w) behind

/-- A token takes a type from a spot within some frames to the next ones. -/
inductive TypeMove : List Frame → Spot → Token → List Frame × Spot → Prop
  | first (frames : List Frame) (n : String) :
    TypeMove frames .start (.name n) (frames, .path ⟨n, []⟩)
  | dot (frames : List Frame) (p : Path) : TypeMove frames (.path p) (.mark .dot) (frames, .dot p)
  | push (frames : List Frame) (p : Path) (n : String) :
    TypeMove frames (.dot p) (.name n) (frames, .path (p.push n))
  | openArguments (frames : List Frame) (p : Path) :
    TypeMove frames (.path p) (.mark .less) (⟨p, []⟩ :: frames, .start)
  | openFirstRank (frames : List Frame) (p : Path) :
    TypeMove frames (.path p) (.mark .lsqb) (frames, .rank p [] [] 0)
  | openRank (frames : List Frame) (p : Path) (arguments : List TypeTree) (ranks : List Nat) :
    TypeMove frames (.closed p arguments ranks) (.mark .lsqb) (frames, .rank p arguments ranks 0)
  | rankComma (frames : List Frame) (p : Path) (arguments : List TypeTree) (ranks : List Nat)
      (commas : Nat) :
    TypeMove frames (.rank p arguments ranks commas) (.mark .comma)
      (frames, .rank p arguments ranks (commas + 1))
  | closeRank (frames : List Frame) (p : Path) (arguments : List TypeTree) (ranks : List Nat)
      (commas : Nat) :
    TypeMove frames (.rank p arguments ranks commas) (.mark .rsqb)
      (frames, .closed p arguments (ranks ++ [commas]))
  | nullablePath (frames : List Frame) (p : Path) :
    TypeMove frames (.path p) (.mark .question) (frames, .nullable p [] [])
  | nullable (frames : List Frame) (p : Path) (arguments : List TypeTree) (ranks : List Nat) :
    TypeMove frames (.closed p arguments ranks) (.mark .question)
      (frames, .nullable p arguments ranks)
  | nextArgument (frame : Frame) (others : List Frame) {spot : Spot} {type : TypeTree}
      (h : spot.type? = some type) :
    TypeMove (frame :: others) spot (.mark .comma)
      (⟨frame.path, frame.before ++ [type]⟩ :: others, .start)
  | closeArguments (frame : Frame) (others : List Frame) {spot : Spot} {type : TypeTree}
      (h : spot.type? = some type) :
    TypeMove (frame :: others) spot (.mark .more)
      (others, .closed frame.path (frame.before ++ [type]) [])

/-- A token takes the unfinished statement from one place to the next. -/
inductive Place.Moves : Place → Token → Place → Prop
  -- namespaces and the words in front of declarations
  | scope : Moves (.between []) (.word .scope) .scope
  | scopeFirst (n : String) : Moves .scope (.name n) (.scopeName ⟨n, []⟩)
  | scopeDot (p : Path) : Moves (.scopeName p) (.mark .dot) (.scopeDot p)
  | scopePush (p : Path) (n : String) : Moves (.scopeDot p) (.name n) (.scopeName (p.push n))
  | modifier (ms : List Modifier) (m : Modifier) :
    Moves (.between ms) (.word (.modifier m)) (.between (ms ++ [m]))
  | record (ms : List Modifier) : Moves (.between ms) (.word .record) (.record ms)
  | cls (ms : List Modifier) : Moves (.between ms) (.word .cls) (.kind ms .cls)
  | struct (ms : List Modifier) : Moves (.between ms) (.word .struct) (.kind ms .struct)
  | recordClass (ms : List Modifier) : Moves (.record ms) (.word .cls) (.kind ms .recordClass)
  | recordStruct (ms : List Modifier) :
    Moves (.record ms) (.word .struct) (.kind ms .recordStruct)
  | recordName (ms : List Modifier) (n : String) :
    Moves (.record ms) (.name n) (.named ⟨ms, .record, n⟩)
  | kindName (ms : List Modifier) (k : Kind) (n : String) :
    Moves (.kind ms k) (.name n) (.named ⟨ms, k, n⟩)
  -- the heads of declarations
  | openPositional (h : Header) : Moves (.named h) (.mark .lpar) (.parametersOpen (.declaration h))
  | namedBase (h : Header) : Moves (.named h) (.mark .colon) (.typing (.base h none []) [] .start)
  | namedBody (h : Header) : Moves (.named h) (.mark .lbrace) (.body ⟨h, none, [], []⟩ [])
  | headedBase (h : Header) (ps : List Parameter) :
    Moves (.headed h ps) (.mark .colon) (.typing (.base h (some ps) []) [] .start)
  | headedBody (h : Header) (ps : List Parameter) :
    Moves (.headed h ps) (.mark .lbrace) (.body ⟨h, some ps, [], []⟩ [])
  | nextBase (h : Header) (ps : Option (List Parameter)) (bases : List TypeTree) :
    Moves (.based h ps bases) (.mark .comma) (.typing (.base h ps bases) [] .start)
  | basedBody (h : Header) (ps : Option (List Parameter)) (bases : List TypeTree) :
    Moves (.based h ps bases) (.mark .lbrace) (.body ⟨h, ps, bases, []⟩ [])
  -- parameters
  | firstParameter (owner : ParameterOwner) (n : String) :
    Moves (.parametersOpen owner) (.name n) (.parameterName owner [] n)
  | noPositional (h : Header) :
    Moves (.parametersOpen (.declaration h)) (.mark .rpar) (.headed h [])
  | noParameters (b : Body) (ms : List Modifier) (n : String) :
    Moves (.parametersOpen (.method b ms n)) (.mark .rpar) (.methodHeaded b ms n [])
  | parameterType (owner : ParameterOwner) (before : List Parameter) (n : String) :
    Moves (.parameterName owner before n) (.mark .colon)
      (.typing (.parameter owner before n) [] .start)
  | parameterComma (owner : ParameterOwner) (before : List Parameter) (last : Parameter) :
    Moves (.parameterTyped owner before last) (.mark .comma)
      (.parameterNext owner (before ++ [last]))
  | closePositional (h : Header) (before : List Parameter) (last : Parameter) :
    Moves (.parameterTyped (.declaration h) before last) (.mark .rpar)
      (.headed h (before ++ [last]))
  | closeParameters (b : Body) (ms : List Modifier) (n : String) (before : List Parameter)
      (last : Parameter) :
    Moves (.parameterTyped (.method b ms n) before last) (.mark .rpar)
      (.methodHeaded b ms n (before ++ [last]))
  | closeIndexer (b : Body) (ms : List Modifier) (before : List Parameter) (last : Parameter) :
    Moves (.parameterTyped (.indexer b ms) before last) (.mark .rsqb)
      (.indexerHeaded b ms before last)
  | nextParameter (owner : ParameterOwner) (before : List Parameter) (n : String) :
    Moves (.parameterNext owner before) (.name n) (.parameterName owner before n)
  -- types and members
  | typing (slot : Slot) {frames : List Frame} {spot : Spot} {t : Token}
      {next : List Frame × Spot} (h : TypeMove frames spot t next) :
    Moves (.typing slot frames spot) t (.typing slot next.1 next.2)
  | memberModifier (b : Body) (ms : List Modifier) (m : Modifier) :
    Moves (.body b ms) (.word (.modifier m)) (.body b (ms ++ [m]))
  | memberName (b : Body) (ms : List Modifier) (n : String) :
    Moves (.body b ms) (.name n) (.memberName b ms n)
  | this (b : Body) (ms : List Modifier) : Moves (.body b ms) (.word .this) (.this b ms)
  | memberType (b : Body) (ms : List Modifier) (n : String) :
    Moves (.memberName b ms n) (.mark .colon) (.typing (.member b ms n) [] .start)
  | openMethod (b : Body) (ms : List Modifier) (n : String) :
    Moves (.memberName b ms n) (.mark .lpar) (.parametersOpen (.method b ms n))
  | openProperty (b : Body) (ms : List Modifier) (n : String) (type : TypeTree) :
    Moves (.memberTyped b ms n type) (.mark .lbrace) (.block (.property b ms n type) [])
  | endField (b : Body) (ms : List Modifier) (n : String) (type : TypeTree) :
    Moves (.memberTyped b ms n type) (.mark .semicolon)
      (.body (addMember b ms (.field n type true)) [])
  | openIndexer (b : Body) (ms : List Modifier) :
    Moves (.this b ms) (.mark .lsqb) (.parametersOpen (.indexer b ms))
  | indexerType (b : Body) (ms : List Modifier) (before : List Parameter) (last : Parameter) :
    Moves (.indexerHeaded b ms before last) (.mark .colon)
      (.typing (.indexer b ms before last) [] .start)
  | openIndexerBlock (b : Body) (ms : List Modifier) (before : List Parameter) (last : Parameter)
      (type : TypeTree) :
    Moves (.indexerTyped b ms before last type) (.mark .lbrace)
      (.block (.indexer b ms before last type) [])
  | resultType (b : Body) (ms : List Modifier) (n : String) (ps : List Parameter) :
    Moves (.methodHeaded b ms n ps) (.mark .colon) (.typing (.result b ms n ps) [] .start)
  | endMethod (b : Body) (ms : List Modifier) (n : String) (ps : List Parameter) :
    Moves (.methodHeaded b ms n ps) (.mark .semicolon)
      (.body (addMember b ms (.method n ps none true)) [])
  | endTypedMethod (b : Body) (ms : List Modifier) (n : String) (ps : List Parameter)
      (type : TypeTree) :
    Moves (.methodTyped b ms n ps type) (.mark .semicolon)
      (.body (addMember b ms (.method n ps (some type) true)) [])
  -- accessor blocks
  | accessor (owner : BlockOwner) (accessors : List AccessorTree) (a : AccessorKind) :
    Moves (.block owner accessors) (.word (.accessor a)) (.accessor owner accessors a)
  | closeBlock (owner : BlockOwner) (accessors : List AccessorTree) :
    Moves (.block owner accessors) (.mark .rbrace) (.body (owner.closed accessors) [])
  | endAccessor (owner : BlockOwner) (before : List AccessorTree) (a : AccessorKind) :
    Moves (.accessor owner before a) (.mark .semicolon) (.block owner (before ++ [⟨a, true⟩]))

/-- A token takes a state to the next one without finishing a part first. -/
inductive State.Direct : State → Token → State → Prop
  | endScope (items : List Item) (p : Path) :
    Direct ⟨items, .scopeName p⟩ (.mark .semicolon) ⟨items ++ [.scope p true], .between []⟩
  | endBody (items : List Item) (b : Body) :
    Direct ⟨items, .body b []⟩ (.mark .rbrace) ⟨items ++ [.type b], .between []⟩
  | move (items : List Item) {place next : Place} {t : Token} (h : place.Moves t next) :
    Direct ⟨items, place⟩ t ⟨items, next⟩

/-- The innermost part of a state ends without a token. -/
inductive State.Settles : State → State → Prop
  | scope (items : List Item) (p : Path) :
    Settles ⟨items, .scopeName p⟩ ⟨items ++ [.scope p false], .between []⟩
  | type (items : List Item) (slot : Slot) {spot : Spot} {type : TypeTree}
      (h : spot.type? = some type) : Settles ⟨items, .typing slot [] spot⟩ ⟨items, slot.filled type⟩
  | field (items : List Item) (b : Body) (ms : List Modifier) (n : String) (type : TypeTree) :
    Settles ⟨items, .memberTyped b ms n type⟩
      ⟨items, .body (addMember b ms (.field n type false)) []⟩
  | method (items : List Item) (b : Body) (ms : List Modifier) (n : String)
      (ps : List Parameter) :
    Settles ⟨items, .methodHeaded b ms n ps⟩
      ⟨items, .body (addMember b ms (.method n ps none false)) []⟩
  | typedMethod (items : List Item) (b : Body) (ms : List Modifier) (n : String)
      (ps : List Parameter) (type : TypeTree) :
    Settles ⟨items, .methodTyped b ms n ps type⟩
      ⟨items, .body (addMember b ms (.method n ps (some type) false)) []⟩
  | accessor (items : List Item) (owner : BlockOwner) (before : List AccessorTree)
      (a : AccessorKind) :
    Settles ⟨items, .accessor owner before a⟩ ⟨items, .block owner (before ++ [⟨a, false⟩])⟩

/-- A token takes a state to the next one after some parts have ended without a token. -/
inductive State.Steps : State → Token → State → Prop
  | direct {s next : State} {t : Token} (h : s.Direct t next) : Steps s t next
  | settle {s settled next : State} {t : Token} (h : s.Settles settled)
      (hn : Steps settled t next) : Steps s t next

/-- What the lexer cuts off is a mark, a whole word or a keyword whose letters are there. -/
theorem lexed_of_eq_some {context : Context} {text behind : List Char} {t : Token}
    (h : lexeme context text = some (t, behind)) : Lexed context text t behind := by
  cases text with
  | nil => cases h
  | cons c rest =>
    simp only [lexeme] at h
    split at h
    · next m hc =>
      split at h
      · next hm =>
        cases h
        exact .mark hc (List.contains_iff_mem.mp hm) _
      · cases h
    · next hc =>
      split at h
      · next hn =>
        split at h
        · next hs =>
          cases h
          exact .whole hc hn hs rest
        · cases h
      · next hn =>
        obtain ⟨w, hw, hf⟩ := List.exists_of_findSome?_eq_some h
        obtain ⟨behind', hd, he⟩ := Option.map_eq_some_iff.mp hf
        cases he
        exact .bare hc (Bool.eq_false_iff.mpr hn) hw hd

/-- Within a type a token does what its moves say. -/
theorem typeStep_eq_some_iff {frames : List Frame} {spot : Spot} {t : Token}
    {next : List Frame × Spot} :
    typeStep frames spot t = some next ↔ TypeMove frames spot t next := by
  constructor
  · intro h
    unfold typeStep at h
    split at h
    -- between types the frames and the type at the spot decide
    any_goals split at h
    all_goals cases h <;> constructor
    all_goals assumption
  · intro h
    cases h with
    | nextArgument frame others h => cases spot <;> cases h <;> rfl
    | closeArguments frame others h => cases spot <;> cases h <;> rfl
    | _ => rfl

/-- Within the unfinished statement a token does what its moves say. -/
theorem Place.next_eq_some_iff {place next : Place} {t : Token} :
    place.next t = some next ↔ place.Moves t next := by
  constructor
  · intro h
    unfold Place.next at h
    split at h
    all_goals first
      | cases h <;> constructor
      | obtain ⟨_, hs, rfl⟩ := Option.map_eq_some_iff.mp h
        exact .typing _ (typeStep_eq_some_iff.mp hs)
  · intro h
    cases h with
    | modifier ms m => cases ms <;> rfl
    | record ms | cls ms | struct ms => cases ms <;> rfl
    | typing slot h => exact congrArg (Option.map _) (typeStep_eq_some_iff.mpr h)
    | _ => rfl

/-- A token that is taken directly makes a move or ends the statement. -/
theorem State.direct_of_eq_some {s next : State} {t : Token} (h : s.direct t = some next) :
    s.Direct t next := by
  obtain ⟨items, place⟩ := s
  unfold State.direct at h
  split at h
  · next p hp =>
    cases hp
    cases h
    exact .endScope items p
  · next b hp =>
    cases hp
    cases h
    exact .endBody items b
  · obtain ⟨after, hn, rfl⟩ := Option.map_eq_some_iff.mp h
    exact .move items (Place.next_eq_some_iff.mp hn)

/-- What settling finishes is a part that may end without a token. -/
theorem State.settles_of_eq_some {s settled : State} (h : s.settle = some settled) :
    s.Settles settled := by
  obtain ⟨items, place⟩ := s
  cases place with
  | scopeName | memberTyped | methodHeaded | methodTyped | accessor =>
    cases h
    constructor
  | typing slot frames spot =>
    cases frames with
    | nil =>
      obtain ⟨type, ht, rfl⟩ := Option.map_eq_some_iff.mp h
      exact .type items slot ht
    | cons frame frames => cases h
  | _ => cases h

/-- A step finishes some parts and then takes the token. -/
theorem State.steps_of_eq_some {s next : State} {t : Token} (h : s.step t = some next) :
    s.Steps t next := by
  have hwithin : ∀ (count : Nat) (s : State), s.stepWithin count t = some next →
      s.Steps t next := by
    intro count
    induction count with
    | zero => exact fun s h => .direct (State.direct_of_eq_some h)
    | succ count ih =>
      intro s h
      rw [State.stepWithin] at h
      split at h
      · next hd =>
        cases h
        exact .direct (State.direct_of_eq_some hd)
      · obtain ⟨settled, hs, hn⟩ := Option.bind_eq_some_iff.mp h
        exact .settle (State.settles_of_eq_some hs) (ih settled hn)
  exact hwithin 2 s h

end KeyedAccess.Schema
