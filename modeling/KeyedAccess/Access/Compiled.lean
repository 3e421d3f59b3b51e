import KeyedAccess.Access.Store
import KeyedAccess.Script.Statement
import KeyedAccess.Target.Mixin

/-!
# What a mixin does

The text of a mixin is read as a module, and its two methods give the cases of a dispatch. Both must
match the key that they are given and raise the error for every key that has no case, and a case
must assign the value that is given; a module without such methods defines no keyed access. Within a
class, an attribute whose name begins with two underscores, and does not end with two, belongs to
the class and gets the name of the class in front.
-/

namespace KeyedAccess.Access

/-- Why a mixin cannot be used. -/
inductive CompileError where
  /-- Its text is no module. -/
  | source (e : Script.SourceError)
  /-- It assigns to a name that is a constant of the language. -/
  | constantTarget
  /-- It defines no keyed access. -/
  | noAccess
deriving DecidableEq, Repr

/-- The attribute that a name stands for within a class. -/
def attributeIn (cls name : String) : String :=
  let plain := cls.toList.dropWhile (· == '_')
  let chars := name.toList
  if "__".toList.isPrefixOf chars && !"__".toList.isSuffixOf chars && !plain.isEmpty then
    String.ofList ('_' :: (plain ++ chars))
  else name

/-- The attribute of the object that an expression uses first. -/
def firstAttribute : Script.Expr → Option String
  | .member (.name "self") attr => some attr
  | .member value _ => firstAttribute value
  | .subscript value _ => firstAttribute value
  | .call function _ _ => firstAttribute function
  | .unary _ operand => firstAttribute operand
  | .binary left _ _ => firstAttribute left
  | .compare first _ => firstAttribute first
  | .connected _ (first :: _) => firstAttribute first
  | .choice test _ _ => firstAttribute test
  | .tuple (first :: _) => firstAttribute first
  | _ => none

/-- Whether an expression is an attribute of the object and nothing else. -/
def isAttribute : Script.Expr → Bool
  | .member (.name "self") _ => true
  | _ => false

/-- A case for a key that uses an expression first, and perhaps nothing else. -/
def caseOfExpr (cls : String) (key : List Nat) (e : Script.Expr) (alone : Bool) : Option Case :=
  (firstAttribute e).map fun name => ⟨key, attributeIn cls name, alone && isAttribute e⟩

/-- The case of a block that reads. -/
def readCase (cls : String) (key : List Nat) : List Script.Statement → Option Case
  | .return (some e) :: _ => caseOfExpr cls key e true
  | .expression e :: _ => caseOfExpr cls key e false
  | _ => none

/-- Whether an expression is the value that a method is given, perhaps marked as one of a type by a
function that gives it back. -/
def isGivenValue (marks : Bool) : Script.Expr → Bool
  | .name id => id == "value"
  | .call (.name function) [.constant (.text _ _), .name id] [] =>
    marks && function == "cast" && id == "value"
  | _ => false

/-- The case of a block that assigns the value that is given. -/
def writeCase (cls : String) (marks : Bool) (key : List Nat) :
    List Script.Statement → Option Case
  | [.assign [.tuple _] _] => none
  | [.assign [target] value] =>
    if isGivenValue marks value then caseOfExpr cls key target true else none
  | .expression e :: _ => caseOfExpr cls key e false
  | _ => none

/-- Whether a statement assigns to an attribute that is a constant of the language. -/
def assignsConstant : Script.Statement → Bool
  | .assign targets _ => targets.any fun
    | .member _ attr => attr == "__debug__"
    | _ => false
  | _ => false

/-- The key of a case of a match statement, with its block. -/
def keyedBlock : Script.Case → Option (List Nat × List Script.Statement)
  | .mk (.value (.constant (.text points _))) none body => some (points, body)
  | _ => none

/-- Whether a case is for every key and raises the error for it. -/
def raisesForKey : Script.Case → Bool
  | .mk (.capture none) none [.raise (some (.call (.name error) [.name key] [])) none] =>
    error == "OutOfRangeError" && key == "name"
  | _ => false

/-- The keyed blocks of the cases of a match statement, behind which every other key raises the
error. -/
def keyedBlocks (cases : List Script.Case) : Option (List (List Nat × List Script.Statement)) :=
  if cases.getLast?.any raisesForKey then cases.dropLast.mapM keyedBlock else none

/-- The names of parameters, if arguments reach all of them by position and all must be given. -/
def plainParameters (parameters : List Script.Parameter) : Option (List String) :=
  parameters.mapM fun
    | .mk .either name _ none => name
    | _ => none

/-- The last function of a name in the body of a class. -/
def lastFunction (name : String) (body : List Script.Statement) : Option Script.Statement :=
  body.reverse.find? fun
    | .function _ _ other _ _ _ => other == name
    | _ => false

/-- The keyed blocks of a method with the given parameters, which matches the key. -/
def methodBlocks (method : String) (parameters : List String) (body : List Script.Statement) :
    Option (List (List Nat × List Script.Statement)) :=
  match lastFunction method body with
  | some (.function false [] _ given _ [.match (.name "name") cases]) =>
    if plainParameters given == some parameters then keyedBlocks cases else none
  | _ => none

/-- The last class of a module with its body. -/
def lastClass (statements : List Script.Statement) : Option (String × List Script.Statement) :=
  statements.reverse.findSome? fun
    | .class _ name _ _ body => some (name, body)
    | _ => none

/-- Whether a module imports a name of another one under this name. -/
def imports (module name : String) (statements : List Script.Statement) : Bool :=
  statements.any fun
    | .importFrom 0 (some source) (some names) => source == module && names.contains ⟨name, none⟩
    | _ => false

/-- The module that the mixins import when they are tried. -/
def triedSupport : String := "indexgen.runtime"

/-- What the last class of a module does for keys. -/
structure KeyedClass where
  /-- The name of the class. -/
  name : String
  /-- The blocks that read. -/
  reads : List (List Nat × List Script.Statement)
  /-- The blocks that assign. -/
  writes : List (List Nat × List Script.Statement)

/-- The keyed access that the last class of a module defines, with the error that the module
imports. -/
def keyedClass (statements : List Script.Statement) : Option KeyedClass := do
  let (name, body) ← lastClass statements
  let reads ← methodBlocks "__getitem__" ["self", "name"] body
  let writes ← methodBlocks "__setitem__" ["self", "name", "value"] body
  if imports triedSupport "OutOfRangeError" statements then return ⟨name, reads, writes⟩
  else failure

/-- The dispatch that a module defines. -/
def dispatchOf (statements : List Script.Statement) : Except CompileError Dispatch :=
  match keyedClass statements with
  | none => .error .noAccess
  | some cls =>
    if cls.writes.any fun block => block.2.any assignsConstant then .error .constantTarget
    else
      let marks := imports "typing" "cast" statements
      match cls.reads.mapM fun block => readCase cls.name block.1 block.2,
        cls.writes.mapM fun block => writeCase cls.name marks block.1 block.2 with
      | some reads, some writes => .ok ⟨reads, writes⟩
      | _, _ => .error .noAccess

/-- The dispatch that the text of a mixin defines. -/
def compile (source : String) : Except CompileError Dispatch :=
  match Script.readModule source.toList with
  | .error e => .error (.source e)
  | .ok statements => dispatchOf statements

/-- Tries the mixin of a type on an object with the given attributes. -/
def tryAccess {V : Type} (t : Descriptor) (attributes : Attributes V) (steps : List (Step V)) :
    Except CompileError (List (Response V)) :=
  match compile (Mixin.render t triedSupport) with
  | .error e => .error e
  | .ok dispatch => .ok (dispatch.run attributes steps)

end KeyedAccess.Access
