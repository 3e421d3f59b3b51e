/-!
# Keys

The keys that an accessor can be asked for. Only a text can name a member; every other key, and
every text that names no accessible member, is out of range.
-/

namespace KeyedAccess.Access

/-- A key. -/
inductive Key where
  /-- A text. -/
  | text (s : String)
  /-- A whole number. -/
  | number (n : Int)
  /-- A truth value. -/
  | truth (b : Bool)
  /-- No value. -/
  | nothing
deriving DecidableEq, Repr

/-- A key as a message shows it. -/
def Key.shown : Key → String
  | .text s => s
  | .number n => toString n
  | .truth true => "True"
  | .truth false => "False"
  | .nothing => "None"

/-- The error for a key that names no accessible member. It is a kind of lookup error, carries the
key and says nothing else. -/
structure OutOfRange where
  /-- The key that was asked for. -/
  name : Key
deriving DecidableEq, Repr

/-- The wording of the error. -/
def OutOfRange.message (e : OutOfRange) : String := e.name.shown

end KeyedAccess.Access
