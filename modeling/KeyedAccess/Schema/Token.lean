import KeyedAccess.Declaration

/-!
# Tokens of declaration files

A declaration file is a sequence of names, keywords and marks. A keyword that stands where none can
stand is a name, so a token is what a place in the file makes of a piece of text.
-/

namespace KeyedAccess.Schema

/-- A word in front of a declaration or member that changes what it is. -/
inductive Modifier where
  /-- Who may use it. -/
  | access (who : Accessibility)
  /-- A companion may complete the type: `partial`. -/
  | augmentable
  /-- It belongs to the type and not to its objects: `static`. -/
  | shared
  /-- Nothing may derive from it: `sealed`. -/
  | closed
  /-- It has to be completed by an heir: `abstract`. -/
  | incomplete
  /-- It never changes: `readonly`. -/
  | constant
  /-- An heir may replace it: `virtual`. -/
  | replaceable
  /-- It replaces what a base type has: `override`. -/
  | replacing
  /-- It must be given when an object is made: `required`. -/
  | mandatory
deriving DecidableEq, Repr

/-- The text of a modifier. -/
def Modifier.text : Modifier → String
  | .access .everyone => "public"
  | .access .assembly => "internal"
  | .access .heirs => "protected"
  | .access .owner => "private"
  | .augmentable => "partial"
  | .shared => "static"
  | .closed => "sealed"
  | .incomplete => "abstract"
  | .constant => "readonly"
  | .replaceable => "virtual"
  | .replacing => "override"
  | .mandatory => "required"

/-- All modifiers. -/
def Modifier.all : List Modifier :=
  [.access .everyone, .access .owner, .access .heirs, .access .assembly, .augmentable, .shared,
    .closed, .incomplete, .constant, .replaceable, .replacing, .mandatory]

/-- What an accessor of a property does. -/
inductive AccessorKind where
  /-- It reads the value. -/
  | get
  /-- It assigns the value. -/
  | set
  /-- It gives the value while the object is made. -/
  | start
deriving DecidableEq, Repr

/-- The text of an accessor. -/
def AccessorKind.text : AccessorKind → String
  | .get => "get"
  | .set => "set"
  | .start => "init"

/-- A keyword. -/
inductive Word where
  /-- Opens a namespace statement. -/
  | scope
  /-- Introduces a record. -/
  | record
  /-- Introduces a class, or says that a record is one. -/
  | cls
  /-- Introduces a structure, or says that a record is one. -/
  | struct
  /-- Stands for the name of an indexer. -/
  | this
  /-- A modifier. -/
  | modifier (m : Modifier)
  /-- An accessor in its block. -/
  | accessor (a : AccessorKind)
deriving DecidableEq, Repr

/-- The text of a keyword. -/
def Word.text : Word → String
  | .scope => "namespace"
  | .record => "record"
  | .cls => "class"
  | .struct => "struct"
  | .this => "this"
  | .modifier m => m.text
  | .accessor a => a.text

/-- All modifiers as keywords. -/
def Word.modifiers : List Word := Modifier.all.map .modifier

/-- The keywords that introduce a type. -/
def Word.kinds : List Word := [.record, .cls, .struct]

/-- All accessors as keywords. -/
def Word.accessors : List Word := [.accessor .get, .accessor .set, .accessor .start]

/-- All keywords. -/
def Word.all : List Word :=
  [.scope] ++ Word.kinds ++ [.this] ++ Word.accessors ++ Word.modifiers

/-- The keyword with a given text. -/
def Word.ofText? (text : String) : Option Word := Word.all.find? (·.text == text)

/-- A token of one character. -/
inductive Mark where
  /-- `;` -/
  | semicolon
  /-- `.` -/
  | dot
  /-- An opening brace. -/
  | lbrace
  /-- A closing brace. -/
  | rbrace
  /-- `,` -/
  | comma
  /-- `(` -/
  | lpar
  /-- `)` -/
  | rpar
  /-- `:` -/
  | colon
  /-- `[` -/
  | lsqb
  /-- `]` -/
  | rsqb
  /-- `<` -/
  | less
  /-- `>` -/
  | more
  /-- `?` -/
  | question
deriving DecidableEq, Repr

/-- The character of a mark. -/
def Mark.char : Mark → Char
  | .semicolon => ';'
  | .dot => '.'
  | .lbrace => '{'
  | .rbrace => '}'
  | .comma => ','
  | .lpar => '('
  | .rpar => ')'
  | .colon => ':'
  | .lsqb => '['
  | .rsqb => ']'
  | .less => '<'
  | .more => '>'
  | .question => '?'

/-- All marks. -/
def Mark.all : List Mark :=
  [.semicolon, .dot, .lbrace, .rbrace, .comma, .lpar, .rpar, .colon, .lsqb, .rsqb, .less, .more,
    .question]

/-- The mark that a character is. -/
def Mark.ofChar? (c : Char) : Option Mark := Mark.all.find? (·.char == c)

/-- The name of a mark in messages. -/
def Mark.label : Mark → String
  | .semicolon => "SEMICOLON"
  | .dot => "DOT"
  | .lbrace => "LBRACE"
  | .rbrace => "RBRACE"
  | .comma => "COMMA"
  | .lpar => "LPAR"
  | .rpar => "RPAR"
  | .colon => "COLON"
  | .lsqb => "LSQB"
  | .rsqb => "RSQB"
  | .less => "LESSTHAN"
  | .more => "MORETHAN"
  | .question => "QMARK"

/-- A token of a declaration file. -/
inductive Token where
  /-- A name. -/
  | name (text : String)
  /-- A keyword in a place where it is one. -/
  | word (w : Word)
  /-- A mark. -/
  | mark (m : Mark)
deriving DecidableEq, Repr

/-- The text that a token covers. -/
def Token.text : Token → String
  | .name text => text
  | .word w => w.text
  | .mark m => String.singleton m.char

/-- The class of a token in messages. -/
def Token.label : Token → String
  | .name _ => "NAME"
  | .word w => w.text.toUpper
  | .mark m => m.label

end KeyedAccess.Schema
