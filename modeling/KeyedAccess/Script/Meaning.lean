import KeyedAccess.Descriptor
import KeyedAccess.Script.Printer

/-!
# The meaning of class sources

The classes at the top of a module are declarations, and the statements of their bodies give the
members. A name that is defined again keeps its first place and takes its last meaning; a setter
only makes what it belongs to writable. A class may be completed if it is marked for that.
-/

namespace KeyedAccess.Script

/-- The name of a decorator or of a qualifier, which may be called or belong to a module. -/
def Expr.plainName : Expr → Option String
  | .name id => some id
  | .member _ attr => some attr
  | _ => none

/-- The name of a decorator or of a qualifier. -/
def Expr.markName : Expr → Option String
  | .call function _ _ => function.plainName
  | e => e.plainName

/-- The decorator of the classes that a companion may complete. -/
def completionMark : String := "indexed"

/-- Whether a named argument freezes the objects of a data class. -/
def NamedArgument.freezes : NamedArgument → Bool
  | .mk (some "frozen") (.constant (.truth true)) => true
  | _ => false

/-- Whether a decorator makes a data class whose objects cannot be changed. -/
def Expr.freezes : Expr → Bool
  | .call function _ keywords =>
    function.plainName == some "dataclass" && keywords.any NamedArgument.freezes
  | _ => false

/-- What a type says about a variable. -/
inductive Qualifier where
  /-- It belongs to the class. -/
  | ofClass
  /-- It is only passed on when an object is made. -/
  | ofStart
  /-- It never changes. -/
  | final
deriving DecidableEq, Repr

/-- The qualifier of a name. -/
def Qualifier.ofName? : String → Option Qualifier
  | "ClassVar" => some .ofClass
  | "InitVar" => some .ofStart
  | "Final" => some .final
  | _ => none

/-- The qualifier around a type, and the type within, if there is one. -/
def Expr.qualified (type : Expr) : Option (Qualifier × Option Expr) :=
  match type with
  | .subscript outer inner =>
    (outer.markName.bind Qualifier.ofName?).map fun q => (q, some inner)
  | _ => (type.markName.bind Qualifier.ofName?).map fun q => (q, none)

/-- A name that begins with an underscore is private. -/
def accessibilityOfName (name : String) : Accessibility :=
  if name.toList.head? == some '_' then .owner else .everyone

/-- The text of a type that is not given. -/
def unknownType : String := "Any"

/-- The text of a type that may be missing. -/
def typeText : Option Expr → Except WriteError String
  | some type => type.text
  | none => .ok unknownType

/-- A variable of a class. -/
def variableMember (name type : String) : Member :=
  { name, type, kind := .field, accessibility := accessibilityOfName name }

/-- A variable with a type. Unless it belongs to the class or is only passed on, it is a property;
one that never changes is given a value only at the start. -/
def declaredMember (frozen : Bool) (name : String) (type : Expr) : Except WriteError Member := do
  match type.qualified with
  | some (.final, inner) =>
    return { name, type := (← typeText inner), accessibility := accessibilityOfName name
             setter := some .initially }
  | some (_, inner) => return variableMember name (← (inner.getD type).text)
  | none =>
    return { name, type := (← type.text), accessibility := accessibilityOfName name
             setter := some (if frozen then .initially else .always) }

/-- A function of a class; the one that is called by brackets is an indexer. -/
def functionMember (name type : String) : Member :=
  let indexes := name == "__getitem__"
  { name, type, kind := if indexes then .indexer else .method
    accessibility := accessibilityOfName name, hasGetter := indexes, setter := none }

/-- A property that is read by a function. -/
def readMember (name type : String) : Member :=
  { name, type, accessibility := accessibilityOfName name, setter := none }

/-- What a function is to the property that it belongs to. -/
inductive Role where
  /-- It reads the property of its own name. -/
  | reads
  /-- It writes the property of a name. -/
  | writes (name : String)
  /-- It is of no account for the property. -/
  | other
deriving DecidableEq, Repr

/-- The role that a decorator gives to a function. -/
def Expr.role : Expr → Option Role
  | .name "property" => some .reads
  | .member (.name id) "setter" => some (.writes id)
  | .member (.name _) "getter" | .member (.name _) "deleter" => some .other
  | _ => none

/-- What a statement adds to the members of a class. -/
inductive Contribution where
  /-- It defines the name of the member. -/
  | defines (m : Member)
  /-- It adds a function, which takes no name. -/
  | adds (m : Member)
  /-- It makes the member of a name writable. -/
  | writes (name : String)
deriving DecidableEq, Repr

/-- The names among targets. -/
def targetNames (targets : List Expr) : List String :=
  targets.filterMap fun
    | .name id => some id
    | _ => none

/-- What a statement in the body of a class adds to its members. -/
def Statement.contributions (frozen : Bool) : Statement → Except WriteError (List Contribution)
  | .declare (.name name) type _ => do return [.defines (← declaredMember frozen name type)]
  | .assign targets _ =>
    .ok ((targetNames targets).map fun name => .defines (variableMember name unknownType))
  | .function isAsync decorators name _ result _ => do
    match if isAsync then none else decorators.findSome? Expr.role with
    | none => return [.adds (functionMember name (← typeText result))]
    | some .reads => return [.defines (readMember name (← typeText result))]
    | some (.writes property) => return [.writes property]
    | some .other => return []
  | _ => .ok []

/-- A member, and whether it holds its name. -/
structure Slot where
  /-- The member. -/
  member : Member
  /-- Whether a later definition of the name replaces it. -/
  named : Bool
deriving DecidableEq, Repr

/-- Whether a slot holds a name. -/
def Slot.holds (s : Slot) (name : String) : Bool := s.named && s.member.name == name

/-- Adds a contribution to the members so far. A `Registry` that keeps them by keys, functions under
numbered ones, lists the same members in the same order. -/
def contribute (slots : List Slot) : Contribution → List Slot
  | .defines m =>
    if slots.any (·.holds m.name) then
      slots.map fun s => if s.holds m.name then { s with member := m } else s
    else slots ++ [⟨m, true⟩]
  | .adds m => slots ++ [⟨m, false⟩]
  | .writes name =>
    slots.map fun s =>
      if s.holds name then { s with member := { s.member with setter := some .always } } else s

/-- The members that the body of a class gives. -/
def membersOf (frozen : Bool) (body : List Statement) : Except WriteError (List Member) := do
  let contributions ← body.mapM (Statement.contributions frozen)
  return (contributions.flatten.foldl contribute []).map (·.member)

/-- The declaration that a statement of a module is, if it is one. -/
def Statement.declaration (module : Option String) :
    Statement → Except WriteError (Option Declaration)
  | .class decorators name bases _ body => do
    let members ← membersOf (decorators.any Expr.freezes) body
    let bases ← bases.mapM Expr.text
    return some {
      identifier := name, scope := properScope module, members, bases
      augmentable := decorators.any fun d => d.markName == some completionMark }
  | _ => .ok none

/-- The declarations of a module. -/
def meaning (module : Option String) (statements : List Statement) :
    Except WriteError (List Declaration) := do
  return (← statements.mapM (Statement.declaration module)).reduceOption

end KeyedAccess.Script
