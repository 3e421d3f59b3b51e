import KeyedAccess.Clause
import KeyedAccess.Text.Quoted
import KeyedAccess.Text.SnakeCase

/-!
# Mixin classes

The accessor of a Python class is a mixin in a module of its own. It defines subscription, for
reading and for assignment, by a match over the key.
-/

namespace KeyedAccess.Mixin

/-- The case that reads a property. -/
def getCase (p : Property) : String :=
  "case " ++ Text.asciiQuoted p.name ++ ":\n    return self." ++ p.name

/-- The case that assigns a property. -/
def setCase (p : Property) : String :=
  "case " ++ Text.asciiQuoted p.name ++ ":\n    self." ++ p.name ++ " = cast(" ++
    Text.asciiQuoted p.type ++ ", value)"

/-- The name of the mixin for a type. -/
def className (identifier : String) : String := identifier ++ "Indexer"

/-- The file that holds the mixin for a type. -/
def fileName (identifier : String) : String := Text.snakeCase identifier ++ "_indexer.py"

/-- The module that is imported when no other one is asked for. -/
def defaultSupport : String := "indexgen_runtime"

/-- The import of what the annotations and assignments use. -/
def typingImport (setCases : List Clause) : String :=
  if setCases.isEmpty then "from typing import Any\n" else "from typing import Any, cast\n"

/-- The text of the module; `support` is the module that defines the error. -/
def render (t : Descriptor) (support : String) : String :=
  "# Generated by indexgen. Do not edit.\n" ++
  "\"\"\"String-keyed member access for " ++ t.qualifiedName ++ ".\"\"\"\n\n" ++
  typingImport (t.setClauses setCase) ++
  "from " ++ support ++ " import OutOfRangeError\n\n\n" ++
  "class " ++ className t.identifier ++ ":\n" ++
  "    \"\"\"Mixin adding ``obj[name]`` access to " ++ t.identifier ++ ".\"\"\"\n\n" ++
  "    __slots__ = ()\n\n" ++
  "    def __getitem__(self, name: str) -> Any:\n        match name:\n" ++
  clauseLines (t.getClauses getCase) (Text.spaces 12) ++
  "            case _:\n                raise OutOfRangeError(name)\n\n" ++
  "    def __setitem__(self, name: str, value: Any) -> None:\n        match name:\n" ++
  clauseLines (t.setClauses setCase) (Text.spaces 12) ++
  "            case _:\n                raise OutOfRangeError(name)\n"

end KeyedAccess.Mixin
