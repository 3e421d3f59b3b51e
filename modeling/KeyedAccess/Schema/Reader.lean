import KeyedAccess.Schema.Tree

/-!
# Reading tokens into trees

A reader takes the tokens of a declaration file one by one. Its state is the part of the tree that
the tokens so far determine: the finished statements and one unfinished one. A token is refused as
soon as no file continues the tokens so far by it.

Some parts are finished only by what follows them, for instance a field, whose semicolon may be left
out. `settle` finishes such a part without a token; `step` tries the token directly and then after
settling.
-/

namespace KeyedAccess.Schema

/-- What stands between the braces of a type that is not closed yet. -/
abbrev Body := TypeDeclaration

/-- A body with one more member. -/
def addMember (b : Body) (modifiers : List Modifier) (form : MemberForm) : Body :=
  { b with members := b.members ++ [⟨modifiers, form⟩] }

/-- To whom an unfinished parameter list belongs. -/
inductive ParameterOwner where
  /-- The declaration with this header. -/
  | declaration (h : Header)
  /-- An indexer with these modifiers. -/
  | indexer (b : Body) (modifiers : List Modifier)
  /-- The method of this name. -/
  | method (b : Body) (modifiers : List Modifier) (name : String)
deriving Repr

/-- To whom an unfinished accessor block belongs. -/
inductive BlockOwner where
  /-- The property of this name and type. -/
  | property (b : Body) (modifiers : List Modifier) (name : String) (type : TypeTree)
  /-- The indexer with these parameters and type. -/
  | indexer (b : Body) (modifiers : List Modifier) (before : List Parameter) (last : Parameter)
      (type : TypeTree)
deriving Repr

/-- The part of the file that an unfinished type belongs to. -/
inductive Slot where
  /-- A base type of a declaration, after other bases. -/
  | base (h : Header) (parameters : Option (List Parameter)) (before : List TypeTree)
  /-- The type of a parameter, after other parameters. -/
  | parameter (owner : ParameterOwner) (before : List Parameter) (name : String)
  /-- The type of a property or field. -/
  | member (b : Body) (modifiers : List Modifier) (name : String)
  /-- The type of an indexer. -/
  | indexer (b : Body) (modifiers : List Modifier) (before : List Parameter) (last : Parameter)
  /-- The result type of a method. -/
  | result (b : Body) (modifiers : List Modifier) (name : String) (parameters : List Parameter)
deriving Repr

/-- A type around the one that is being read: its path and the arguments that are complete. -/
structure Frame where
  /-- The path before the angle bracket. -/
  path : Path
  /-- The arguments before the one that is being read. -/
  before : List TypeTree
deriving Repr

/-- How far the innermost unfinished type has come. -/
inductive Spot where
  /-- Nothing of it has been read. -/
  | start
  /-- The path so far ends with a name. -/
  | path (p : Path)
  /-- The path so far ends with a dot. -/
  | dot (p : Path)
  /-- An array suffix or the arguments have just been closed. -/
  | closed (p : Path) (arguments : List TypeTree) (ranks : List Nat)
  /-- An array suffix is open, with some commas. -/
  | rank (p : Path) (arguments : List TypeTree) (ranks : List Nat) (commas : Nat)
  /-- The question mark has been read. -/
  | nullable (p : Path) (arguments : List TypeTree) (ranks : List Nat)
deriving Repr

/-- The type that is complete at a spot if nothing more of it follows. -/
def Spot.type? : Spot → Option TypeTree
  | .path p => some (.mk p [] [] false)
  | .closed p arguments ranks => some (.mk p arguments ranks false)
  | .nullable p arguments ranks => some (.mk p arguments ranks true)
  | .start | .dot _ | .rank .. => none

/-- How far the unfinished statement has come. -/
inductive Place where
  /-- Between statements, or after the modifiers of a declaration. -/
  | between (modifiers : List Modifier)
  /-- After the keyword of a namespace statement. -/
  | scope
  /-- After a name of the namespace. -/
  | scopeName (p : Path)
  /-- After a dot of the namespace. -/
  | scopeDot (p : Path)
  /-- After the keyword `record`, whose kind may go on. -/
  | record (modifiers : List Modifier)
  /-- After any other kind. -/
  | kind (modifiers : List Modifier) (k : Kind)
  /-- After the name of a declaration. -/
  | named (h : Header)
  /-- After the positional parameters of a declaration. -/
  | headed (h : Header) (parameters : List Parameter)
  /-- After a complete base type. -/
  | based (h : Header) (parameters : Option (List Parameter)) (bases : List TypeTree)
  /-- After the bracket that opens a parameter list. -/
  | parametersOpen (owner : ParameterOwner)
  /-- After the name of a parameter. -/
  | parameterName (owner : ParameterOwner) (before : List Parameter) (name : String)
  /-- After a complete parameter. -/
  | parameterTyped (owner : ParameterOwner) (before : List Parameter) (last : Parameter)
  /-- After a comma between parameters. -/
  | parameterNext (owner : ParameterOwner) (before : List Parameter)
  /-- Within a type. -/
  | typing (slot : Slot) (frames : List Frame) (spot : Spot)
  /-- At a member, after its modifiers. -/
  | body (b : Body) (modifiers : List Modifier)
  /-- After the name of a member. -/
  | memberName (b : Body) (modifiers : List Modifier) (name : String)
  /-- After a complete type of a property or field. -/
  | memberTyped (b : Body) (modifiers : List Modifier) (name : String) (type : TypeTree)
  /-- After the keyword of an indexer. -/
  | this (b : Body) (modifiers : List Modifier)
  /-- After the parameters of an indexer. -/
  | indexerHeaded (b : Body) (modifiers : List Modifier) (before : List Parameter)
      (last : Parameter)
  /-- After a complete type of an indexer. -/
  | indexerTyped (b : Body) (modifiers : List Modifier) (before : List Parameter)
      (last : Parameter) (type : TypeTree)
  /-- After the parameters of a method. -/
  | methodHeaded (b : Body) (modifiers : List Modifier) (name : String)
      (parameters : List Parameter)
  /-- After a complete result type of a method. -/
  | methodTyped (b : Body) (modifiers : List Modifier) (name : String)
      (parameters : List Parameter) (type : TypeTree)
  /-- In an accessor block, between accessors. -/
  | block (owner : BlockOwner) (accessors : List AccessorTree)
  /-- In an accessor block, after the keyword of an accessor. -/
  | accessor (owner : BlockOwner) (before : List AccessorTree) (kind : AccessorKind)
deriving Repr

/-- The state of a reader. -/
structure State where
  /-- The finished statements. -/
  items : List Item
  /-- How far the next one has come. -/
  place : Place
deriving Repr

/-- The state before the first token. -/
def State.start : State := ⟨[], .between []⟩

/-- The place after a complete type. -/
def Slot.filled (slot : Slot) (type : TypeTree) : Place :=
  match slot with
  | .base h parameters before => .based h parameters (before ++ [type])
  | .parameter owner before name => .parameterTyped owner before ⟨name, type⟩
  | .member b modifiers name => .memberTyped b modifiers name type
  | .indexer b modifiers before last => .indexerTyped b modifiers before last type
  | .result b modifiers name parameters => .methodTyped b modifiers name parameters type

/-- The body after a complete accessor block. -/
def BlockOwner.closed (owner : BlockOwner) (block : List AccessorTree) : Body :=
  match owner with
  | .property b modifiers name type => addMember b modifiers (.property name type block)
  | .indexer b modifiers before last type =>
    addMember b modifiers (.indexer before last type block)

/-- What a token does within a type: the types around it and the new spot. -/
def typeStep (frames : List Frame) (spot : Spot) (t : Token) : Option (List Frame × Spot) :=
  match spot, t with
  | .start, .name n => some (frames, .path ⟨n, []⟩)
  | .path p, .mark .dot => some (frames, .dot p)
  | .dot p, .name n => some (frames, .path (p.push n))
  | .path p, .mark .less => some (⟨p, []⟩ :: frames, .start)
  | .path p, .mark .lsqb => some (frames, .rank p [] [] 0)
  | .closed p arguments ranks, .mark .lsqb => some (frames, .rank p arguments ranks 0)
  | .rank p arguments ranks commas, .mark .comma =>
    some (frames, .rank p arguments ranks (commas + 1))
  | .rank p arguments ranks commas, .mark .rsqb =>
    some (frames, .closed p arguments (ranks ++ [commas]))
  | .path p, .mark .question => some (frames, .nullable p [] [])
  | .closed p arguments ranks, .mark .question => some (frames, .nullable p arguments ranks)
  | spot, .mark .comma =>
    match frames, spot.type? with
    | frame :: others, some type => some (⟨frame.path, frame.before ++ [type]⟩ :: others, .start)
    | _, _ => none
  | spot, .mark .more =>
    match frames, spot.type? with
    | frame :: others, some type => some (others, .closed frame.path (frame.before ++ [type]) [])
    | _, _ => none
  | _, _ => none

/-- The place that a token leads to within the unfinished statement. -/
def Place.next (place : Place) (t : Token) : Option Place :=
  match place, t with
  | .between [], .word .scope => some .scope
  | .between ms, .word (.modifier m) => some (.between (ms ++ [m]))
  | .between ms, .word .record => some (.record ms)
  | .between ms, .word .cls => some (.kind ms .cls)
  | .between ms, .word .struct => some (.kind ms .struct)
  | .scope, .name n => some (.scopeName ⟨n, []⟩)
  | .scopeName p, .mark .dot => some (.scopeDot p)
  | .scopeDot p, .name n => some (.scopeName (p.push n))
  | .record ms, .word .cls => some (.kind ms .recordClass)
  | .record ms, .word .struct => some (.kind ms .recordStruct)
  | .record ms, .name n => some (.named ⟨ms, .record, n⟩)
  | .kind ms k, .name n => some (.named ⟨ms, k, n⟩)
  | .named h, .mark .lpar => some (.parametersOpen (.declaration h))
  | .named h, .mark .colon => some (.typing (.base h none []) [] .start)
  | .named h, .mark .lbrace => some (.body ⟨h, none, [], []⟩ [])
  | .headed h ps, .mark .colon => some (.typing (.base h (some ps) []) [] .start)
  | .headed h ps, .mark .lbrace => some (.body ⟨h, some ps, [], []⟩ [])
  | .based h ps bases, .mark .comma => some (.typing (.base h ps bases) [] .start)
  | .based h ps bases, .mark .lbrace => some (.body ⟨h, ps, bases, []⟩ [])
  | .parametersOpen owner, .name n => some (.parameterName owner [] n)
  | .parametersOpen (.declaration h), .mark .rpar => some (.headed h [])
  | .parametersOpen (.method b ms n), .mark .rpar => some (.methodHeaded b ms n [])
  | .parameterName owner before n, .mark .colon =>
    some (.typing (.parameter owner before n) [] .start)
  | .parameterTyped owner before last, .mark .comma =>
    some (.parameterNext owner (before ++ [last]))
  | .parameterTyped (.declaration h) before last, .mark .rpar =>
    some (.headed h (before ++ [last]))
  | .parameterTyped (.method b ms n) before last, .mark .rpar =>
    some (.methodHeaded b ms n (before ++ [last]))
  | .parameterTyped (.indexer b ms) before last, .mark .rsqb =>
    some (.indexerHeaded b ms before last)
  | .parameterNext owner before, .name n => some (.parameterName owner before n)
  | .typing slot frames spot, t =>
    (typeStep frames spot t).map fun next => .typing slot next.1 next.2
  | .body b ms, .word (.modifier m) => some (.body b (ms ++ [m]))
  | .body b ms, .name n => some (.memberName b ms n)
  | .body b ms, .word .this => some (.this b ms)
  | .memberName b ms n, .mark .colon => some (.typing (.member b ms n) [] .start)
  | .memberName b ms n, .mark .lpar => some (.parametersOpen (.method b ms n))
  | .memberTyped b ms n type, .mark .lbrace => some (.block (.property b ms n type) [])
  | .memberTyped b ms n type, .mark .semicolon =>
    some (.body (addMember b ms (.field n type true)) [])
  | .this b ms, .mark .lsqb => some (.parametersOpen (.indexer b ms))
  | .indexerHeaded b ms before last, .mark .colon =>
    some (.typing (.indexer b ms before last) [] .start)
  | .indexerTyped b ms before last type, .mark .lbrace =>
    some (.block (.indexer b ms before last type) [])
  | .methodHeaded b ms n ps, .mark .colon => some (.typing (.result b ms n ps) [] .start)
  | .methodHeaded b ms n ps, .mark .semicolon =>
    some (.body (addMember b ms (.method n ps none true)) [])
  | .methodTyped b ms n ps type, .mark .semicolon =>
    some (.body (addMember b ms (.method n ps (some type) true)) [])
  | .block owner accessors, .word (.accessor a) => some (.accessor owner accessors a)
  | .block owner accessors, .mark .rbrace => some (.body (owner.closed accessors) [])
  | .accessor owner before a, .mark .semicolon => some (.block owner (before ++ [⟨a, true⟩]))
  | _, _ => none

/-- Reads a token as the next part of the unfinished statement or as its end. -/
def State.direct (s : State) (t : Token) : Option State :=
  match s.place, t with
  | .scopeName p, .mark .semicolon => some ⟨s.items ++ [.scope p true], .between []⟩
  | .body b [], .mark .rbrace => some ⟨s.items ++ [.type b], .between []⟩
  | place, t => (place.next t).map fun next => ⟨s.items, next⟩

/-- Finishes, without a token, the innermost part that may end here. -/
def State.settle (s : State) : Option State :=
  match s.place with
  | .scopeName p => some ⟨s.items ++ [.scope p false], .between []⟩
  | .typing slot [] spot => spot.type?.map fun type => ⟨s.items, slot.filled type⟩
  | .memberTyped b ms n type => some ⟨s.items, .body (addMember b ms (.field n type false)) []⟩
  | .methodHeaded b ms n ps => some ⟨s.items, .body (addMember b ms (.method n ps none false)) []⟩
  | .methodTyped b ms n ps type =>
    some ⟨s.items, .body (addMember b ms (.method n ps (some type) false)) []⟩
  | .accessor owner before a => some ⟨s.items, .block owner (before ++ [⟨a, false⟩])⟩
  | _ => none

/-- Reads a token after settling at most `count` times. -/
def State.stepWithin : Nat → State → Token → Option State
  | 0, s, t => s.direct t
  | count + 1, s, t =>
    match s.direct t with
    | some next => some next
    | none => s.settle.bind fun settled => settled.stepWithin count t

/-- Reads a token. After a type, at most the type and then its member have to be settled. -/
def State.step (s : State) (t : Token) : Option State := s.stepWithin 2 t

/-- The file that is complete if no token follows. -/
def State.finish (s : State) : Option File :=
  match s.place with
  | .between [] => some s.items
  | .scopeName p => some (s.items ++ [.scope p false])
  | _ => none

/-- Reads all tokens from a state. -/
def State.run (s : State) : List Token → Option State
  | [] => some s
  | t :: rest => (s.step t).bind fun next => next.run rest

end KeyedAccess.Schema
