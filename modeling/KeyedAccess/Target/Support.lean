/-!
# Support package

The files that a generated mixin imports: the error for keys that name nothing, and the marker that
selects a class. Written once into a package of the user's choice, they free the generated code from
depending on this tool.
-/

namespace KeyedAccess.Support

/-- The package itself, which passes the two names on. -/
def package : String :=
  "\"\"\"Runtime support for generated indexgen accessors.\"\"\"\n\n" ++
  "from .errors import OutOfRangeError as OutOfRangeError\n" ++
  "from .markers import indexed as indexed\n"

/-- The error for a key that names no accessible member. -/
def errors : String :=
  "\"\"\"Errors raised by generated accessors.\"\"\"\n\n\n" ++
  "class OutOfRangeError(LookupError):\n" ++
  "    \"\"\"Raised when a string key does not name an accessible member.\"\"\"\n\n" ++
  "    def __init__(self, name: object):\n" ++
  "        super().__init__(name)\n" ++
  "        self.name = name\n\n" ++
  "    def __str__(self) -> str:\n" ++
  "        return str(self.name)\n"

/-- The marker that selects a class. -/
def markers : String :=
  "\"\"\"Markers recognized by the indexgen Python front end.\"\"\"\n\n" ++
  "from typing import TypeVar\n\n" ++
  "T = TypeVar(\"T\", bound=type)\n\n\n" ++
  "def indexed(cls: T) -> T:\n" ++
  "    \"\"\"Mark a class for companion accessor generation. Returns `cls` unchanged.\"\"\"\n" ++
  "    return cls\n"

/-- The files with their texts, in the order in which they are written. -/
def files : List (String × String) :=
  [("__init__.py", package), ("errors.py", errors), ("markers.py", markers)]

end KeyedAccess.Support
