import KeyedAccess.Script.Meaning
import KeyedAccess.Script.Statement

/-!
# Parsing class sources

From the text of a module to the declarations in it. The module is only read and never run.
-/

namespace KeyedAccess.Script

/-- Why a text stands for no declarations. -/
inductive ParseError where
  /-- The text is no module. -/
  | source (e : SourceError)
  /-- A type in it has no normal form. -/
  | unwritable (e : WriteError)
deriving DecidableEq, Repr

/-- The declarations that a text stands for, in the module of the given name. -/
def parse (text : String) (module : Option String) : Except ParseError (List Declaration) :=
  match readModule text.toList with
  | .error e => .error (.source e)
  | .ok statements => (meaning module statements).mapError .unwritable

/-- The wording of an error, where it has one of its own. -/
def ParseError.message? : ParseError → Option String
  | .source .nullCharacter => some "source code string cannot contain null bytes"
  | .source _ => none
  | .unwritable e => some e.message

end KeyedAccess.Script
