import KeyedAccess.Clause

/-!
# Partial companions

The accessor of a C# type is another part of the same type. It holds one indexer, whose getter is a
switch expression and whose setter is a switch statement over the key.
-/

namespace KeyedAccess.Companion

/-- The arm that reads a property. -/
def getArm (p : Property) : String :=
  "\"" ++ p.name ++ "\" => " ++ p.name ++ ","

/-- The section that assigns a property. -/
def setSection (p : Property) : String :=
  "case \"" ++ p.name ++ "\":\n    " ++ p.name ++ " = (" ++ p.type ++ ") value;\n    break;"

/-- The file that holds the companion of a type. -/
def fileName (identifier : String) : String := identifier ++ ".Indexer.generated.cs"

/-- The line that places the companion in its namespace. -/
def scopeLines (scope : Option String) : String :=
  match properScope scope with
  | some name => "namespace " ++ name ++ ";\n\n"
  | none => ""

/-- The text of the companion. -/
def render (t : Descriptor) : String :=
  "// <auto-generated/>\nusing System;\n\n" ++ scopeLines t.scope ++
  "partial " ++ t.header ++ "\n\x7b\n" ++
  "    public object this[string name]\n    \x7b\n" ++
  "        get => name switch\n        \x7b\n" ++
  clauseLines (t.getClauses getArm) (Text.spaces 12) ++
  "            _ => throw new IndexOutOfRangeException(name)\n        \x7d;\n" ++
  "        set\n        \x7b\n            switch (name)\n            \x7b\n" ++
  clauseLines (t.setClauses setSection) (Text.spaces 16) ++
  "                default:\n                    throw new IndexOutOfRangeException(name);\n" ++
  "            \x7d\n        \x7d\n    \x7d\n\x7d\n"

end KeyedAccess.Companion
