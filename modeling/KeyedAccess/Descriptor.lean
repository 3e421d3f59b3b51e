import KeyedAccess.Declaration

/-!
# Descriptors

The part of a declaration that keyed access is about: the public properties that the type declares
itself, in declaration order, each with what can be done to it.
-/

namespace KeyedAccess

/-- A property that keyed access can reach. -/
structure Property where
  /-- The name, which is also the key. -/
  name : String
  /-- The text of the type. -/
  type : String
  /-- Whether the key can be read. -/
  readable : Bool
  /-- Whether the key can be written. -/
  writable : Bool
deriving DecidableEq, Repr

/-- A type with the properties that keyed access can reach. -/
structure Descriptor where
  /-- The name of the type. -/
  identifier : String
  /-- The introduction of the type. -/
  header : String
  /-- The namespace or module that holds it. -/
  scope : Option String := none
  /-- The properties in declaration order. -/
  properties : List Property := []
deriving DecidableEq, Repr

/-- Whether keyed access can reach a member. -/
def Member.eligible (m : Member) : Bool :=
  m.kind == .property && m.accessibility == .everyone && !m.inherited

/-- An eligible member as a property; a value that is only given at the start is not writable. -/
def Member.toProperty (m : Member) : Property :=
  { name := m.name, type := m.type, readable := m.hasGetter, writable := m.setter == some .always }

/-- A scope that has a text; the empty text stands for no scope. -/
def properScope (scope : Option String) : Option String :=
  scope.filter (· != "")

/-- What keyed access can reach of a declaration. -/
def Declaration.describe (d : Declaration) : Descriptor :=
  { identifier := d.identifier
    header := d.header
    scope := properScope d.scope
    properties := (d.members.filter Member.eligible).map Member.toProperty }

/-- The name of the type within its scope. -/
def Descriptor.qualifiedName (t : Descriptor) : String :=
  match properScope t.scope with
  | some scope => scope ++ "." ++ t.identifier
  | none => t.identifier

/-- The properties that can be read. -/
def Descriptor.readable (t : Descriptor) : List Property := t.properties.filter (·.readable)

/-- The properties that can be written. -/
def Descriptor.writable (t : Descriptor) : List Property := t.properties.filter (·.writable)

/-- The values of a list without repetition, in the order of their first occurrence. -/
def firstSeen {α : Type} [BEq α] (values : List α) : List α :=
  values.foldl (fun seen value => if seen.contains value then seen else seen ++ [value]) []

/-- The values that occur more than once, in the order of their first occurrence. -/
def repeated {α : Type} [BEq α] (values : List α) : List α :=
  (firstSeen values).filter fun value => decide (1 < values.count value)

/-- The names that more than one property has. -/
def Descriptor.duplicates (t : Descriptor) : List String :=
  repeated (t.properties.map (·.name))

end KeyedAccess
