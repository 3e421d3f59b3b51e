import KeyedAccess.Schema.Token

/-!
# Declaration files as trees

The structure of a declaration file, with every choice that the tokens show: optional parts, the
optional semicolons among them. Writing a tree gives back its tokens.
-/

namespace KeyedAccess.Schema

/-- Names joined by dots, at least one. -/
structure Path where
  /-- The first name. -/
  head : String
  /-- The names after it. -/
  tail : List String := []
deriving DecidableEq, Repr

/-- A path that goes on by one more name. -/
def Path.push (p : Path) (name : String) : Path := ⟨p.head, p.tail ++ [name]⟩

/-- The text of a path. -/
def Path.text (p : Path) : String := ".".intercalate (p.head :: p.tail)

/-- The tokens of a path. -/
def Path.tokens (p : Path) : List Token :=
  .name p.head :: p.tail.flatMap fun name => [.mark .dot, .name name]

/-- A type: a path, its type arguments, its array suffixes given by the number of their commas, and
whether it admits no value. Without arguments there are no angle brackets. -/
inductive TypeTree where
  /-- Puts the parts together. -/
  | mk (path : Path) (arguments : List TypeTree) (ranks : List Nat) (nullable : Bool)
deriving Repr

/-- The text of an array suffix. -/
def rankText (commas : Nat) : String :=
  String.ofList ('[' :: (List.replicate commas ',' ++ [']']))

/-- The tokens of an array suffix. -/
def rankTokens (commas : Nat) : List Token :=
  .mark .lsqb :: (List.replicate commas (.mark .comma) ++ [.mark .rsqb])

/-- Puts a separator between the non-empty parts of a list of parts. -/
def separated {α : Type} (separator : List α) : List (List α) → List α
  | [] => []
  | [part] => part
  | part :: rest => part ++ separator ++ separated separator rest

mutual

/-- The text of a type, which has one space after each comma between arguments and no other. -/
def TypeTree.text : TypeTree → String
  | .mk path arguments ranks nullable =>
    path.text ++ (if arguments.isEmpty then "" else "<" ++ textOfTypes arguments ++ ">") ++
      String.join (ranks.map rankText) ++ (if nullable then "?" else "")

/-- The text of type arguments. -/
def textOfTypes : List TypeTree → String
  | [] => ""
  | type :: rest => type.text ++ (if rest.isEmpty then "" else ", ") ++ textOfTypes rest

end

mutual

/-- The tokens of a type. -/
def TypeTree.tokens : TypeTree → List Token
  | .mk path arguments ranks nullable =>
    path.tokens ++
      (if arguments.isEmpty then []
       else .mark .less :: (tokensOfTypes arguments ++ [.mark .more])) ++
      ranks.flatMap rankTokens ++ (if nullable then [.mark .question] else [])

/-- The tokens of types between commas. -/
def tokensOfTypes : List TypeTree → List Token
  | [] => []
  | type :: rest =>
    type.tokens ++ (if rest.isEmpty then [] else [.mark .comma]) ++ tokensOfTypes rest

end

/-- A parameter with its type. -/
structure Parameter where
  /-- The name. -/
  name : String
  /-- The type. -/
  type : TypeTree
deriving Repr

/-- The tokens of a parameter. -/
def Parameter.tokens (p : Parameter) : List Token := .name p.name :: .mark .colon :: p.type.tokens

/-- The tokens of parameters between commas. -/
def parameterTokens (ps : List Parameter) : List Token :=
  separated [.mark .comma] (ps.map Parameter.tokens)

/-- An accessor, and whether a semicolon follows it. -/
structure AccessorTree where
  /-- What it does. -/
  kind : AccessorKind
  /-- Whether a semicolon follows it. -/
  terminated : Bool
deriving DecidableEq, Repr

/-- A semicolon where there is one. -/
def semicolonTokens (terminated : Bool) : List Token :=
  if terminated then [.mark .semicolon] else []

/-- The tokens of an accessor. -/
def AccessorTree.tokens (a : AccessorTree) : List Token :=
  .word (.accessor a.kind) :: semicolonTokens a.terminated

/-- The tokens of an accessor block. -/
def blockTokens (block : List AccessorTree) : List Token :=
  .mark .lbrace :: (block.flatMap AccessorTree.tokens ++ [.mark .rbrace])

/-- What stands after the modifiers of a member. -/
inductive MemberForm where
  /-- A property with its accessor block. -/
  | property (name : String) (type : TypeTree) (block : List AccessorTree)
  /-- A field. -/
  | field (name : String) (type : TypeTree) (terminated : Bool)
  /-- An indexer, which has at least one parameter. -/
  | indexer (before : List Parameter) (last : Parameter) (type : TypeTree)
      (block : List AccessorTree)
  /-- A method, whose result may be left out. -/
  | method (name : String) (parameters : List Parameter) (result : Option TypeTree)
      (terminated : Bool)
deriving Repr

/-- The tokens of an optional type after a colon. -/
def resultTokens : Option TypeTree → List Token
  | none => []
  | some type => .mark .colon :: type.tokens

/-- The tokens of a member after its modifiers. -/
def MemberForm.tokens : MemberForm → List Token
  | .property name type block => .name name :: .mark .colon :: (type.tokens ++ blockTokens block)
  | .field name type terminated =>
    .name name :: .mark .colon :: (type.tokens ++ semicolonTokens terminated)
  | .indexer before last type block =>
    .word .this :: .mark .lsqb :: (parameterTokens (before ++ [last]) ++
      .mark .rsqb :: .mark .colon :: (type.tokens ++ blockTokens block))
  | .method name parameters result terminated =>
    .name name :: .mark .lpar :: (parameterTokens parameters ++
      .mark .rpar :: (resultTokens result ++ semicolonTokens terminated))

/-- The tokens of modifiers. -/
def modifierTokens (ms : List Modifier) : List Token := ms.map fun m => .word (.modifier m)

/-- A member. -/
structure MemberTree where
  /-- The modifiers in front of it. -/
  modifiers : List Modifier
  /-- What stands after them. -/
  form : MemberForm
deriving Repr

/-- The tokens of a member. -/
def MemberTree.tokens (m : MemberTree) : List Token := modifierTokens m.modifiers ++ m.form.tokens

/-- What introduces a type. -/
inductive Kind where
  /-- `record` -/
  | record
  /-- `record class` -/
  | recordClass
  /-- `record struct` -/
  | recordStruct
  /-- `class` -/
  | cls
  /-- `struct` -/
  | struct
deriving DecidableEq, Repr

/-- The keywords of a kind. -/
def Kind.words : Kind → List Word
  | .record => [.record]
  | .recordClass => [.record, .cls]
  | .recordStruct => [.record, .struct]
  | .cls => [.cls]
  | .struct => [.struct]

/-- The text of a kind. -/
def Kind.text (k : Kind) : String := " ".intercalate (k.words.map Word.text)

/-- The beginning of a type declaration, up to its name. -/
structure Header where
  /-- The modifiers. -/
  modifiers : List Modifier
  /-- The kind. -/
  kind : Kind
  /-- The name. -/
  name : String
deriving DecidableEq, Repr

/-- The tokens of a header. -/
def Header.tokens (h : Header) : List Token :=
  modifierTokens h.modifiers ++ h.kind.words.map .word ++ [.name h.name]

/-- The declaration of a type; without bases there is no colon. -/
structure TypeDeclaration where
  /-- The beginning. -/
  header : Header
  /-- The positional parameters, when there are parentheses. -/
  parameters : Option (List Parameter)
  /-- The base types. -/
  bases : List TypeTree
  /-- The members of the body. -/
  members : List MemberTree
deriving Repr

/-- The tokens of a parameter list in parentheses. -/
def parenthesized (ps : List Parameter) : List Token :=
  .mark .lpar :: (parameterTokens ps ++ [.mark .rpar])

/-- The tokens of an optional parameter list. -/
def optionalParameters : Option (List Parameter) → List Token
  | none => []
  | some ps => parenthesized ps

/-- The tokens of base types. -/
def baseTokens (bases : List TypeTree) : List Token :=
  if bases.isEmpty then [] else .mark .colon :: tokensOfTypes bases

/-- The tokens of a declaration up to the end of its last member. -/
def TypeDeclaration.openTokens (d : TypeDeclaration) : List Token :=
  d.header.tokens ++ optionalParameters d.parameters ++ baseTokens d.bases ++
    .mark .lbrace :: d.members.flatMap MemberTree.tokens

/-- The tokens of a declaration. -/
def TypeDeclaration.tokens (d : TypeDeclaration) : List Token :=
  d.openTokens ++ [.mark .rbrace]

/-- One statement of a declaration file. -/
inductive Item where
  /-- Names the namespace of the declarations after it. -/
  | scope (path : Path) (terminated : Bool)
  /-- Declares a type. -/
  | type (d : TypeDeclaration)
deriving Repr

/-- The tokens of a statement. -/
def Item.tokens : Item → List Token
  | .scope path terminated => .word .scope :: (path.tokens ++ semicolonTokens terminated)
  | .type d => d.tokens

/-- A declaration file. -/
abbrev File := List Item

/-- The tokens of a file. -/
def tokensOfFile (f : File) : List Token := f.flatMap Item.tokens

end KeyedAccess.Schema
