import KeyedAccess.Proofs.Schema.Derivation
import KeyedAccess.Schema.Meaning

/-!
# Syntax trees

A derivation along tokens gives a tree whose nodes are labelled lists. Its meaning is found from the
leaves up: what the children of a node stand for is looked up among them by sort, whatever node they
are children of. This can fail where nothing of a sort is found or more than one, and it fails where
an accessor block is not sound or a name is declared again.
-/

namespace KeyedAccess.Schema

/-- The labels of nodes. -/
inductive Label where
  /-- A file. -/
  | start
  /-- A namespace statement. -/
  | scope
  /-- The names of a namespace. -/
  | dottedName
  /-- A declaration. -/
  | declaration
  /-- The kind of a declaration. -/
  | kind
  /-- A modifier. -/
  | modifier
  /-- The positional parameters of a declaration. -/
  | parameters
  /-- A parameter. -/
  | parameter
  /-- The base types of a declaration. -/
  | bases
  /-- A property. -/
  | property
  /-- A field. -/
  | field
  /-- An indexer. -/
  | indexer
  /-- A method. -/
  | method
  /-- An accessor block. -/
  | accessors
  /-- An accessor. -/
  | accessor
  /-- A type. -/
  | type
  /-- The names of a type. -/
  | typeName
  /-- The arguments of a type. -/
  | typeArgs
  /-- An array suffix. -/
  | arraySuffix
  /-- The mark of a type that admits no value. -/
  | nullable
deriving DecidableEq, Repr

/-- A syntax tree. -/
inductive SyntaxTree where
  /-- A token. -/
  | leaf (t : Token)
  /-- The place of a part that is left out. -/
  | gap
  /-- A labelled node. -/
  | node (label : Label) (children : List SyntaxTree)
deriving Repr

/-! ## Trees of derivations -/

/-- The alternative that a derivation takes: how often it takes the second of two parts. -/
def Derivation.branch {s : Form} : Derivation s → Nat
  | right d => d.branch + 1
  | _ => 0

/-- The label of a rule by the alternative that is taken. A statement has no node of its own. -/
def Rule.label? : Rule → Nat → Option Label
  | .start, _ => some .start
  | .item, _ => none
  | .scope, _ => some .scope
  | .dottedName, _ => some .dottedName
  | .declaration, _ => some .declaration
  | .kind, _ => some .kind
  | .modifier, _ => some .modifier
  | .parameters, _ => some .parameters
  | .parameter, _ => some .parameter
  | .bases, _ => some .bases
  | .member, 0 => some .property
  | .member, 1 => some .field
  | .member, 2 => some .indexer
  | .member, _ => some .method
  | .accessors, _ => some .accessors
  | .accessor, _ => some .accessor
  | .type, _ => some .type
  | .typeName, _ => some .typeName
  | .typeArgs, _ => some .typeArgs
  | .arraySuffix, _ => some .arraySuffix
  | .nullable, _ => some .nullable

/-- Whether the nodes of a rule keep their keywords and marks. -/
def Rule.keepsTokens : Rule → Bool
  | .kind | .modifier | .accessor | .arraySuffix | .nullable => true
  | _ => false

/-- Whether a token of a class becomes a leaf. -/
def Terminal.kept (keep : Bool) (t : Terminal) : Bool := keep || t == .name

/-- A sequence that is left out leaves a gap; a single part leaves nothing. -/
def Form.leavesGap : Form → Bool
  | seq .. => true
  | _ => false

/-- The children that a derivation along the first of some tokens contributes to its node, and the
tokens behind them. -/
def Derivation.trees (keep : Bool) {s : Form} :
    Derivation s → List Token → List SyntaxTree × List Token
  | token t, tokens => (if t.kept keep then (tokens.take 1).map .leaf else [], tokens.drop 1)
  | choice .., tokens => (if keep then (tokens.take 1).map .leaf else [], tokens.drop 1)
  | rule r d, tokens =>
    let children := d.trees r.keepsTokens tokens
    (match r.label? d.branch with
      | some label => [.node label children.1]
      | none => children.1, children.2)
  | seq first second, tokens =>
    let left := first.trees keep tokens
    let right := second.trees keep left.2
    (left.1 ++ right.1, right.2)
  | left d, tokens => d.trees keep tokens
  | right d, tokens => d.trees keep tokens
  | @absent part, tokens => (if part.leavesGap then [.gap] else [], tokens)
  | present d, tokens => d.trees keep tokens
  | nil, tokens => ([], tokens)
  | cons d rest, tokens =>
    let first := d.trees keep tokens
    let others := rest.trees keep first.2
    (first.1 ++ others.1, others.2)

/-- The syntax tree of a derivation along tokens. -/
def Derivation.tree : Derivation (.rule .start) → List Token → SyntaxTree
  | rule _ d, tokens => .node .start (d.trees Rule.start.keepsTokens tokens).1

/-! ## Rewriting -/

/-- Why a tree stands for nothing. -/
inductive Failure where
  /-- The file has no meaning, with the wording of the reason. -/
  | invalid (message : String)
  /-- More than one part of a sort is found where one is looked for. -/
  | several
  /-- A part that is looked for is not there. -/
  | missing
deriving DecidableEq, Repr

/-- What a tree stands for. -/
inductive Part where
  /-- A token. -/
  | token (t : Token)
  /-- Nothing, in the place of a part that is left out. -/
  | gap
  /-- A text. -/
  | text (text : String)
  /-- A namespace. -/
  | scope (path : String)
  /-- The words of a kind. -/
  | kind (text : String)
  /-- A modifier. -/
  | modifier (text : String)
  /-- A parameter. -/
  | parameter (name type : String)
  /-- Parameters with their types. -/
  | parameters (values : List (String × String))
  /-- Base types. -/
  | bases (types : List String)
  /-- An accessor block. -/
  | accessors (kinds : List String)
  /-- A type. -/
  | type (text : String)
  /-- A member. -/
  | member (m : Member)
  /-- A declaration. -/
  | declaration (d : Declaration)
  /-- The statements of a file. -/
  | items (parts : List Part)

namespace Part

/-- The text that a part is shown as, if it is a token or a text. -/
def shown? : Part → Option String
  | token t => some t.text
  | text s => some s
  | _ => none

/-- The name that a token is. -/
def name? : Part → Option String
  | token (.name n) => some n
  | _ => none

/-- A kind among the parts. -/
def kind? : Part → Option String
  | kind s => some s
  | _ => none

/-- A modifier among the parts. -/
def modifier? : Part → Option String
  | modifier s => some s
  | _ => none

/-- A parameter among the parts. -/
def parameter? : Part → Option (String × String)
  | parameter n t => some (n, t)
  | _ => none

/-- Parameters among the parts. -/
def parameters? : Part → Option (List (String × String))
  | parameters values => some values
  | _ => none

/-- Base types among the parts. -/
def bases? : Part → Option (List String)
  | bases types => some types
  | _ => none

/-- An accessor block among the parts. -/
def accessors? : Part → Option (List String)
  | accessors kinds => some kinds
  | _ => none

/-- A type among the parts. -/
def type? : Part → Option String
  | type s => some s
  | _ => none

/-- A member among the parts. -/
def member? : Part → Option Member
  | member m => some m
  | _ => none

end Part

/-- The only part of a sort, if there is one. -/
def findOne {α : Type} (select : Part → Option α) (parts : List Part) :
    Except Failure (Option α) :=
  match parts.filterMap select with
  | [] => .ok none
  | [value] => .ok (some value)
  | _ => .error .several

/-- The only part of a sort, which must be there. -/
def required {α : Type} (select : Part → Option α) (parts : List Part) : Except Failure α := do
  let some value ← findOne select parts | .error .missing
  return value

/-- The first name among the parts. -/
def firstName (parts : List Part) : Except Failure String :=
  match parts.findSome? Part.name? with
  | some name => .ok name
  | none => .error .missing

/-- The texts of parts that all have to be of one sort. -/
def textsOf (select : Part → Option String) (parts : List Part) : Except Failure (List String) :=
  match parts.mapM select with
  | some texts => .ok texts
  | none => .error .missing

/-- Who may use a member by the texts of its modifiers. -/
def accessibilityOf (modifiers : List String) : Accessibility :=
  (modifiers.findSome? fun
    | "public" => some .everyone
    | "internal" => some .assembly
    | "protected" => some .heirs
    | "private" => some .owner
    | _ => none).getD .everyone

/-- How a value is given by the texts of accessors. -/
def setterFrom (accessors : List String) : Option Setter :=
  if accessors.contains "set" then some .always
  else if accessors.contains "init" then some .initially
  else none

/-- An accessor block of given texts, which has to be sound. -/
def blockFrom (accessors : List String) : Except Failure Part :=
  if accessors.isEmpty then .error (.invalid "Accessor block must declare at least one accessor")
  else if hasRepetition accessors then
    .error (.invalid ("Repeated accessor in \x7b " ++ "; ".intercalate accessors ++ " \x7d"))
  else if accessors.contains "set" && accessors.contains "init" then
    .error (.invalid "A property cannot declare both set and init")
  else .ok (.accessors accessors)

/-- A property or an indexer of a given name. -/
def blockMember (kind : MemberKind) (name : String) (parts : List Part) : Except Failure Part := do
  let accessors ← required Part.accessors? parts
  let type ← required Part.type? parts
  return .member
    { name, type, kind, accessibility := accessibilityOf (parts.filterMap Part.modifier?),
      hasGetter := accessors.contains "get", setter := setterFrom accessors }

/-- The members of positional parameters, which become properties of a record. -/
def positionalFrom (kind : String) (modifiers : List String) (declared : List Member) :
    Option (List (String × String)) → List Member
  | none => []
  | some values =>
    if "record".toList.isPrefixOf kind.toList then
      let mutable := kind == "record struct" && !modifiers.contains "readonly"
      (values.filter fun p => !(declared.map (·.name)).contains p.1).map fun p =>
        { name := p.1, type := p.2, setter := some (if mutable then .always else .initially) }
    else []

/-- A declaration from the parts of its node. -/
def declarationFrom (parts : List Part) : Except Failure Part := do
  let kind ← required Part.kind? parts
  let parameters ← findOne Part.parameters? parts
  let bases ← findOne Part.bases? parts
  let name ← firstName parts
  let modifiers := parts.filterMap Part.modifier?
  let body := parts.filterMap Part.member?
  return .declaration
    { identifier := name, keyword := kind, scope := none,
      members := positionalFrom kind modifiers body parameters ++ body,
      augmentable := modifiers.contains "partial", bases := bases.getD [] }

/-- What a node stands for by what its children stand for. -/
def Label.rewrite (label : Label) (parts : List Part) : Except Failure Part :=
  match label with
  | .start => .ok (.items parts)
  | .scope =>
    match parts with
    | .text path :: _ => .ok (.scope path)
    | _ => .error .missing
  | .dottedName | .typeName => return .text (".".intercalate (← textsOf Part.shown? parts))
  | .declaration => declarationFrom parts
  | .kind => return .kind (" ".intercalate (← textsOf Part.shown? parts))
  | .modifier =>
    match parts.head?.bind Part.shown? with
    | some text => .ok (.modifier text)
    | none => .error .missing
  | .parameters => .ok (.parameters (parts.filterMap Part.parameter?))
  | .parameter =>
    match parts.head?.bind Part.shown?, parts[1]?.bind Part.type? with
    | some name, some text => .ok (.parameter name text)
    | _, _ => .error .missing
  | .bases => .ok (.bases (parts.filterMap Part.type?))
  | .property => do blockMember .property (← firstName parts) parts
  | .field => do
    let text ← required Part.type? parts
    return .member
      { name := ← firstName parts, type := text, kind := .field,
        accessibility := accessibilityOf (parts.filterMap Part.modifier?) }
  | .indexer => blockMember .indexer "this" parts
  | .method => do
    let result ← findOne Part.type? parts
    return .member
      { name := ← firstName parts, type := result.getD "void", kind := .method,
        accessibility := accessibilityOf (parts.filterMap Part.modifier?),
        hasGetter := false, setter := none }
  | .accessors => do blockFrom (← textsOf Part.shown? parts)
  | .accessor =>
    match parts.head?.bind Part.shown? with
    | some text => .ok (.text text)
    | none => .error .missing
  | .type => return .type (String.join (← textsOf Part.shown? parts))
  | .typeArgs => return .text ("<" ++ ", ".intercalate (← textsOf Part.type? parts) ++ ">")
  | .arraySuffix => return .text (String.join (← textsOf Part.shown? parts))
  | .nullable => .ok (.text "?")

mutual

/-- What a tree stands for: its children come first, in order, and the first failure wins. -/
def SyntaxTree.rewrite : SyntaxTree → Except Failure Part
  | .leaf t => .ok (.token t)
  | .gap => .ok .gap
  | .node label children => do label.rewrite (← rewriteAll children)

/-- What the children of a node stand for. -/
def rewriteAll : List SyntaxTree → Except Failure (List Part)
  | [] => .ok []
  | tree :: rest => do
    let part ← tree.rewrite
    let parts ← rewriteAll rest
    return part :: parts

end

/-- The declarations of statements that follow a given namespace. -/
def collect (scope : Option String) : List Part → Except Failure (List Declaration)
  | [] => .ok []
  | .scope path :: rest => collect (some path) rest
  | .declaration d :: rest => do return { d with scope } :: (← collect scope rest)
  | _ :: _ => .error .missing

/-- The declarations that a tree stands for. No name may be declared again. -/
def SyntaxTree.meaning (tree : SyntaxTree) : Except Failure (List Declaration) := do
  let .items parts ← tree.rewrite | .error .missing
  let declarations ← collect none parts
  match firstRepeated [] (declarations.map (·.identifier)) with
  | some name => .error (.invalid (name ++ " is declared more than once"))
  | none => .ok declarations

end KeyedAccess.Schema
