import KeyedAccess.Text.CharSet

/-!
# Paths

A path names a place by the directories that lead to it. Empty names and single dots say nothing and
are dropped; two dots are kept, because what they mean depends on the directories.
-/

namespace KeyedAccess.Files

/-- A path. -/
structure Path where
  /-- The slashes at the front; without one the path is relative. -/
  root : String
  /-- The names. -/
  parts : List String
deriving DecidableEq, Repr

/-- The root that the slashes at the front of a text stand for: exactly two differ from one, and
more do not. -/
def rootOf (slashes : Nat) : String :=
  if slashes = 0 then "" else if slashes = 2 then "//" else "/"

/-- The path that a text writes. -/
def Path.ofString (text : String) : Path :=
  let chars := text.toList
  let names := (Text.fields '/' chars).map String.ofList
  ⟨rootOf (chars.takeWhile (· == '/')).length, names.filter fun name => name != "" && name != "."⟩

/-- The text of a path. -/
def Path.text (p : Path) : String :=
  let joined := p.root ++ "/".intercalate p.parts
  if joined = "" then "." else joined

/-- A path that is followed from another one on, unless it begins at the root. -/
def Path.join (base next : Path) : Path :=
  if next.root = "" then ⟨base.root, base.parts ++ next.parts⟩ else next

/-- The last name of a path. -/
def Path.name (p : Path) : String := p.parts.getLast?.getD ""

/-- A name without its ending, and the ending with its dot. A dot at the front or at the end of the
name begins no ending. -/
def splitName (name : String) : String × String :=
  let chars := name.toList
  let ending := (chars.reverse.takeWhile (· != '.')).reverse
  let front := chars.take (chars.length - ending.length - 1)
  if ending.isEmpty || front.isEmpty then (name, "")
  else (String.ofList front, String.ofList ('.' :: ending))

/-- The last name without its ending. -/
def Path.stem (p : Path) : String := (splitName p.name).1

/-- The ending of the last name. -/
def Path.ending (p : Path) : String := (splitName p.name).2

end KeyedAccess.Files
