import KeyedAccess.Descriptor
import KeyedAccess.Text.Line
import KeyedAccess.Text.Width

/-!
# Clauses

A target language dispatches on the key by one clause for each property. The clauses keep the order
of the properties and are joined line by line, so the same descriptor always gives the same text.
-/

namespace KeyedAccess

/-- One case of a dispatch: the key and the code for it. -/
structure Clause where
  /-- The key that selects the clause. -/
  key : String
  /-- The code, which may fill several lines. -/
  text : String
deriving DecidableEq, Repr

/-- One clause for each readable property. -/
def Descriptor.getClauses (t : Descriptor) (write : Property → String) : List Clause :=
  t.readable.map fun p => ⟨p.name, write p⟩

/-- One clause for each writable property. -/
def Descriptor.setClauses (t : Descriptor) (write : Property → String) : List Clause :=
  t.writable.map fun p => ⟨p.name, write p⟩

/-- The clauses one below the other, each indented by `margin`. -/
def joinClauses (clauses : List Clause) (margin : String) : String :=
  "\n".intercalate (clauses.map fun clause => Text.indent margin clause.text)

/-- A block of clauses as whole lines; without clauses there is no line. -/
def clauseLines (clauses : List Clause) (margin : String) : String :=
  match joinClauses clauses margin with
  | "" => ""
  | block => block ++ "\n"

end KeyedAccess
