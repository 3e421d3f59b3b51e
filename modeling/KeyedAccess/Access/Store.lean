import KeyedAccess.Access.Key

/-!
# Objects with keyed access

An object holds values under attribute names, and a dispatch leads from keys to attributes. Reading
a key changes nothing, and a key that leads nowhere leaves the object as it was. The values are of
any type, because keyed access never looks into them.
-/

namespace KeyedAccess.Access

/-- The attributes of an object, each name once. -/
abbrev Attributes (V : Type) := List (String × V)

/-- Gives an attribute a value. -/
def assign {V : Type} (attributes : Attributes V) (name : String) (value : V) : Attributes V :=
  match attributes with
  | [] => [(name, value)]
  | (other, old) :: rest =>
    if other = name then (name, value) :: rest else (other, old) :: assign rest name value

/-- What a dispatch does for one key. -/
structure Case where
  /-- The key by its code points. -/
  key : List Nat
  /-- The attribute that is used. -/
  target : String
  /-- Whether nothing else is done than to read or assign the attribute. -/
  direct : Bool := true
deriving DecidableEq, Repr

/-- Whether a case is for a key; only a text can be equal to its key. -/
def Case.covers (c : Case) : Key → Bool
  | .text s => s.toList.map Char.toNat == c.key
  | _ => false

/-- The cases for reading and for assignment; the first one that covers a key counts. -/
structure Dispatch where
  /-- The cases for reading. -/
  reads : List Case
  /-- The cases for assignment. -/
  writes : List Case
deriving DecidableEq, Repr

/-- A use of keyed access. -/
inductive Step (V : Type) where
  /-- Reads a key. -/
  | get (key : Key)
  /-- Assigns a value to a key. -/
  | set (key : Key) (value : V)
deriving Repr

/-- What a step answers. -/
inductive Response (V : Type) where
  /-- The value that was read. -/
  | value (v : V)
  /-- The attributes after an assignment. -/
  | state (attributes : Attributes V)
  /-- No case covers the key. -/
  | outOfRange (e : OutOfRange)
  /-- The attribute has no value. -/
  | missing (name : String)
  /-- The case goes on with the value of the attribute in a way that depends on the value. -/
  | beyond (name : String)
deriving Repr

/-- Reads a key of an object. -/
def Dispatch.get {V : Type} (d : Dispatch) (attributes : Attributes V) (key : Key) : Response V :=
  match d.reads.find? (·.covers key) with
  | none => .outOfRange ⟨key⟩
  | some c =>
    match attributes.lookup c.target with
    | none => .missing c.target
    | some v => if c.direct then .value v else .beyond c.target

/-- Assigns a value to a key of an object. -/
def Dispatch.set {V : Type} (d : Dispatch) (attributes : Attributes V) (key : Key) (value : V) :
    Response V × Attributes V :=
  match d.writes.find? (·.covers key) with
  | none => (.outOfRange ⟨key⟩, attributes)
  | some c =>
    if c.direct then
      let after := assign attributes c.target value
      (.state after, after)
    else
      match attributes.lookup c.target with
      | none => (.missing c.target, attributes)
      | some _ => (.beyond c.target, attributes)

/-- One step: the answer and the attributes afterwards. -/
def Dispatch.step {V : Type} (d : Dispatch) (attributes : Attributes V) :
    Step V → Response V × Attributes V
  | .get key => (d.get attributes key, attributes)
  | .set key value => d.set attributes key value

/-- The answers of several steps, one after the other. -/
def Dispatch.run {V : Type} (d : Dispatch) (attributes : Attributes V) :
    List (Step V) → List (Response V)
  | [] => []
  | s :: rest => (d.step attributes s).1 :: d.run (d.step attributes s).2 rest

/-- The class of the objects that keyed access is tried on. -/
def subjectClass : String := "Subject"

/-- The wording for an attribute that has no value. -/
def missingMessage (name : String) : String :=
  "'" ++ subjectClass ++ "' object has no attribute '" ++ name ++ "'"

end KeyedAccess.Access
