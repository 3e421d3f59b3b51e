/-!
# Declarations

A type declaration as a reader of declaration files or of class sources reports it: its name, how
it was introduced, its members in source order, and whether it may be completed by a companion.
-/

namespace KeyedAccess

/-- Who may use a member. -/
inductive Accessibility where
  /-- Everybody. -/
  | everyone
  /-- Code of the same assembly. -/
  | assembly
  /-- The type and its heirs. -/
  | heirs
  /-- The type alone. -/
  | owner
deriving DecidableEq, Repr

/-- What kind of member was declared. -/
inductive MemberKind where
  /-- A named, typed slot that is read and written through accessors. -/
  | property
  /-- An accessor with parameters and no name of its own. -/
  | indexer
  /-- A plain variable. -/
  | field
  /-- A function of the type. -/
  | method
deriving DecidableEq, Repr

/-- How a property takes its value. -/
inductive Setter where
  /-- By assignment at any time. -/
  | always
  /-- Only while the object is made. -/
  | initially
deriving DecidableEq, Repr

/-- A declared member, before anything is selected. -/
structure Member where
  /-- The declared name. -/
  name : String
  /-- The text of the declared type. -/
  type : String
  /-- The kind of member. -/
  kind : MemberKind := .property
  /-- Who may use it. -/
  accessibility : Accessibility := .everyone
  /-- Whether it can be read. -/
  hasGetter : Bool := true
  /-- How it can be written, if at all. -/
  setter : Option Setter := some .always
  /-- Whether it comes from a base type. -/
  inherited : Bool := false
deriving DecidableEq, Repr

/-- A declared type. -/
structure Declaration where
  /-- The name of the type. -/
  identifier : String
  /-- The words that introduce it, such as `record struct`. -/
  keyword : String := "class"
  /-- The namespace or module that holds it. -/
  scope : Option String := none
  /-- The members in source order. -/
  members : List Member := []
  /-- Whether a companion may complete the type. -/
  augmentable : Bool := false
  /-- The texts of the base types. -/
  bases : List String := []
deriving DecidableEq, Repr

/-- The introduction of the type as it is repeated in a companion. -/
def Declaration.header (d : Declaration) : String := d.keyword ++ " " ++ d.identifier

/-- The declarations that a companion may complete. -/
def candidates (declarations : List Declaration) : List Declaration :=
  declarations.filter (·.augmentable)

end KeyedAccess
