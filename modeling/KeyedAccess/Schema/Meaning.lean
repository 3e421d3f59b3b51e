import KeyedAccess.Schema.Tree

/-!
# The meaning of declaration files

A well-formed file stands for a list of declarations. Accessor blocks are checked first, in source
order, then the names of the declarations.
-/

namespace KeyedAccess.Schema

/-- Why a well-formed file has no meaning. -/
inductive MeaningError where
  /-- An accessor block is empty. -/
  | emptyBlock
  /-- An accessor block names an accessor twice. -/
  | repeatedAccessor (block : List AccessorKind)
  /-- An accessor block has both accessors that give a value. -/
  | twoSetters
  /-- A name is declared twice. -/
  | redeclared (name : String)
deriving DecidableEq, Repr

/-- The wording of an error of meaning. -/
def MeaningError.message : MeaningError → String
  | .emptyBlock => "Accessor block must declare at least one accessor"
  | .repeatedAccessor block =>
    "Repeated accessor in \x7b " ++ "; ".intercalate (block.map AccessorKind.text) ++ " \x7d"
  | .twoSetters => "A property cannot declare both set and init"
  | .redeclared name => name ++ " is declared more than once"

/-- Whether some value of a list occurs twice in it. -/
def hasRepetition {α : Type} [BEq α] : List α → Bool
  | [] => false
  | value :: rest => rest.contains value || hasRepetition rest

/-- What is wrong with an accessor block, if anything is. -/
def blockFault (block : List AccessorTree) : Option MeaningError :=
  let kinds := block.map (·.kind)
  if kinds.isEmpty then some .emptyBlock
  else if hasRepetition kinds then some (.repeatedAccessor kinds)
  else if kinds.contains .set && kinds.contains .start then some .twoSetters
  else none

/-- The accessor block of a member, if it has one. -/
def MemberForm.block? : MemberForm → Option (List AccessorTree)
  | .property _ _ block => some block
  | .indexer _ _ _ block => some block
  | .field .. | .method .. => none

/-- The accessor blocks of a file in source order. -/
def blocksOfFile (f : File) : List (List AccessorTree) :=
  f.flatMap fun
    | .scope .. => []
    | .type d => d.members.filterMap (·.form.block?)

/-- The first access modifier; without one everybody may use the member. -/
def accessibility (ms : List Modifier) : Accessibility :=
  (ms.findSome? fun
    | .access who => some who
    | _ => none).getD .everyone

/-- How a value is given under an accessor block. -/
def setterOf (block : List AccessorTree) : Option Setter :=
  let kinds := block.map (·.kind)
  if kinds.contains .set then some .always
  else if kinds.contains .start then some .initially
  else none

/-- Whether an accessor block reads the value. -/
def hasGet (block : List AccessorTree) : Bool := (block.map (·.kind)).contains .get

/-- The member that a tree declares. -/
def MemberTree.meaning (m : MemberTree) : Member :=
  let who := accessibility m.modifiers
  match m.form with
  | .property name type block =>
    { name, type := type.text, kind := .property, accessibility := who,
      hasGetter := hasGet block, setter := setterOf block }
  | .field name type _ => { name, type := type.text, kind := .field, accessibility := who }
  | .indexer _ _ type block =>
    { name := "this", type := type.text, kind := .indexer, accessibility := who,
      hasGetter := hasGet block, setter := setterOf block }
  | .method name _ result _ =>
    { name, type := (result.map TypeTree.text).getD "void", kind := .method, accessibility := who,
      hasGetter := false, setter := none }

/-- Whether positional parameters become properties. -/
def Kind.isRecord : Kind → Bool
  | .record | .recordClass | .recordStruct => true
  | .cls | .struct => false

/-- How the properties of positional parameters take their values. -/
def Header.positionalSetter (h : Header) : Setter :=
  if h.kind == .recordStruct && !h.modifiers.contains .constant then .always else .initially

/-- The properties of the positional parameters; a member of the same name replaces one. -/
def TypeDeclaration.positional (d : TypeDeclaration) (declared : List Member) : List Member :=
  match d.parameters with
  | some ps =>
    if d.header.kind.isRecord then
      (ps.filter fun p => !(declared.map (·.name)).contains p.name).map fun p =>
        { name := p.name, type := p.type.text, setter := some d.header.positionalSetter }
    else []
  | none => []

/-- The declaration that a tree stands for within a namespace. -/
def TypeDeclaration.meaning (d : TypeDeclaration) (scope : Option String) : Declaration :=
  let declared := d.members.map MemberTree.meaning
  { identifier := d.header.name
    keyword := d.header.kind.text
    scope
    members := d.positional declared ++ declared
    augmentable := d.header.modifiers.contains .augmentable
    bases := d.bases.map TypeTree.text }

/-- The declarations of the statements that follow a given namespace. -/
def declarationsFrom (scope : Option String) : File → List Declaration
  | [] => []
  | .scope path _ :: rest => declarationsFrom (some path.text) rest
  | .type d :: rest => d.meaning scope :: declarationsFrom scope rest

/-- The first name that occurs before in the list. -/
def firstRepeated (seen : List String) : List String → Option String
  | [] => none
  | name :: rest => if seen.contains name then some name else firstRepeated (name :: seen) rest

/-- The declarations that a file stands for. -/
def meaning (f : File) : Except MeaningError (List Declaration) :=
  match (blocksOfFile f).findSome? blockFault with
  | some fault => .error fault
  | none =>
    let declarations := declarationsFrom none f
    match firstRepeated [] (declarations.map (·.identifier)) with
    | some name => .error (.redeclared name)
    | none => .ok declarations

end KeyedAccess.Schema
