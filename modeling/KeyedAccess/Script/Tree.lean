import KeyedAccess.Decimal.Shortest

/-!
# Class sources as trees

The structure of a Python module, as far as it depends on the grammar alone: layout, comments and
redundant parentheses are gone, and literals have become values. Texts are lists of code points,
because an escape may name half of a surrogate pair.
-/

namespace KeyedAccess.Script

/-- The most decimal digits that a whole number is read or written with. -/
def digitLimit : Nat := 4300

/-- A literal value. -/
inductive Constant where
  /-- `None` -/
  | none
  /-- `True` and `False` -/
  | truth (b : Bool)
  /-- `...` -/
  | ellipsis
  /-- A whole number. -/
  | whole (n : Nat)
  /-- A floating-point number. -/
  | real (x : Decimal.Double)
  /-- An imaginary number. -/
  | imaginary (x : Decimal.Double)
  /-- A text by its code points, and whether it was marked as Unicode. -/
  | text (points : List Nat) (marked : Bool)
  /-- Octets. -/
  | octets (values : List Nat)
deriving DecidableEq, Repr

/-- An operator between two operands. -/
inductive BinaryOp where
  | bitOr | bitXor | bitAnd | shiftLeft | shiftRight | add | subtract | multiply | divide
  | floorDivide | modulo | matrixMultiply | power
deriving DecidableEq, Repr

/-- An operator before its operand. -/
inductive UnaryOp where
  | plus | minus | invert | not
deriving DecidableEq, Repr

/-- A connective. -/
inductive Connective where
  | and | or
deriving DecidableEq, Repr

/-- A comparison. -/
inductive Comparison where
  | equal | notEqual | less | lessEqual | greater | greaterEqual | is | isNot | isIn | notIn
deriving DecidableEq, Repr

/-- What a comprehension builds. -/
inductive Collection where
  | list | set | generator
deriving DecidableEq, Repr

/-- How arguments reach a parameter. -/
inductive Passing where
  /-- By position only. -/
  | position
  /-- By position or by name. -/
  | either
  /-- All further positions. -/
  | restPositions
  /-- By name only. -/
  | name
  /-- All further names. -/
  | restNames
deriving DecidableEq, Repr

mutual

/-- An expression. -/
inductive Expr where
  /-- A name. -/
  | name (id : String)
  /-- A literal. -/
  | constant (c : Constant)
  /-- A formatted text. -/
  | joined (pieces : List Piece)
  /-- A tuple. -/
  | tuple (items : List Expr)
  /-- A list display. -/
  | list (items : List Expr)
  /-- A set display. -/
  | set (items : List Expr)
  /-- A dictionary display. -/
  | dict (entries : List Entry)
  /-- A comprehension with one value per round. -/
  | comprehension (collection : Collection) (element : Expr) (clauses : List ForClause)
  /-- A comprehension with a key and a value per round. -/
  | dictComprehension (key value : Expr) (clauses : List ForClause)
  /-- An attribute. -/
  | member (value : Expr) (attr : String)
  /-- A subscription. -/
  | subscript (value index : Expr)
  /-- A slice within a subscription. -/
  | slice (lower upper step : Option Expr)
  /-- A call, with its positional and its named arguments. -/
  | call (function : Expr) (arguments : List Expr) (named : List NamedArgument)
  /-- An unpacked iterable. -/
  | starred (value : Expr)
  /-- An operator before its operand. -/
  | unary (op : UnaryOp) (operand : Expr)
  /-- An operator between two operands. -/
  | binary (left : Expr) (op : BinaryOp) (right : Expr)
  /-- Operands joined by one connective. -/
  | connected (op : Connective) (operands : List Expr)
  /-- A chain of comparisons. -/
  | compare (first : Expr) (others : List Comparand)
  /-- A conditional expression. -/
  | choice (test ifTrue ifFalse : Expr)
  /-- A function expression. -/
  | lambda (parameters : List Parameter) (body : Expr)
  /-- An assignment within an expression. -/
  | named (target value : Expr)
  /-- A wait for a result. -/
  | await (value : Expr)
  /-- A yielded value. -/
  | yield (value : Option Expr)
  /-- All values of an iterable, yielded. -/
  | yieldFrom (value : Expr)

/-- A piece of a formatted text. -/
inductive Piece where
  /-- Text as it stands. -/
  | text (points : List Nat)
  /-- A value with its conversion and the pieces of its format. -/
  | value (e : Expr) (conversion : Option Char) (format : Option (List Piece))

/-- An entry of a dictionary display. -/
inductive Entry where
  /-- A key with its value. -/
  | pair (key value : Expr)
  /-- All entries of another dictionary. -/
  | spread (value : Expr)

/-- A round of a comprehension. -/
inductive ForClause where
  /-- Whether it waits, what it binds, what it runs over, and its conditions. -/
  | mk (isAsync : Bool) (target source : Expr) (conditions : List Expr)

/-- A named argument; without a name all entries of a dictionary. -/
inductive NamedArgument where
  /-- Puts the parts together. -/
  | mk (name : Option String) (value : Expr)

/-- A further operand of a chain of comparisons. -/
inductive Comparand where
  /-- Puts the parts together. -/
  | mk (op : Comparison) (operand : Expr)

/-- A parameter of a function. -/
inductive Parameter where
  /-- How arguments reach it, its name, its type and its default; the rest of positions without a
  name only separates the other parameters. -/
  | mk (passing : Passing) (name : Option String) (type default : Option Expr)

end

/-- A pattern of a match statement. -/
inductive Pattern where
  /-- Compares with a value. -/
  | value (e : Expr)
  /-- Binds a name, or none for the wildcard. -/
  | capture (name : Option String)
  /-- Binds a name to what another pattern admits. -/
  | bind (pattern : Pattern) (name : String)
  /-- One of several patterns. -/
  | either (patterns : List Pattern)
  /-- A sequence. -/
  | sequence (patterns : List Pattern)
  /-- The rest of a sequence. -/
  | rest (name : Option String)
  /-- A mapping: the keys, their patterns, and the name for the rest. -/
  | mapping (keys : List Expr) (patterns : List Pattern) (rest : Option String)
  /-- An object of a class: positional patterns, names and their patterns. -/
  | object (cls : Expr) (patterns : List Pattern) (names : List String) (named : List Pattern)

/-- A name that is imported, and the name that it gets. -/
structure Alias where
  /-- The imported name. -/
  name : String
  /-- The name that it gets, if another one. -/
  bound : Option String
deriving DecidableEq, Repr

/-- A context of a with statement, and what it binds. -/
structure WithItem where
  /-- The context. -/
  context : Expr
  /-- What it binds. -/
  target : Option Expr

mutual

/-- A statement. -/
inductive Statement where
  /-- An expression. -/
  | expression (e : Expr)
  /-- An assignment to one or more targets. -/
  | assign (targets : List Expr) (value : Expr)
  /-- An assignment by an operator. -/
  | augment (target : Expr) (op : BinaryOp) (value : Expr)
  /-- A target with its type and perhaps a value. -/
  | declare (target type : Expr) (value : Option Expr)
  /-- Leaves a function. -/
  | return (value : Option Expr)
  /-- Raises an error. -/
  | raise (error cause : Option Expr)
  /-- Deletes targets. -/
  | delete (targets : List Expr)
  /-- Checks a condition. -/
  | assert (test : Expr) (message : Option Expr)
  /-- Does nothing. -/
  | pass
  /-- Leaves a loop. -/
  | break
  /-- Goes on with the next round. -/
  | continue
  /-- Declares global names. -/
  | global (names : List String)
  /-- Declares names of an enclosing function. -/
  | nonlocal (names : List String)
  /-- Imports modules. -/
  | importModules (modules : List Alias)
  /-- Imports names of a module, or all of them. -/
  | importFrom (dots : Nat) (module : Option String) (names : Option (List Alias))
  /-- A condition with its branches. -/
  | conditional (test : Expr) (body orElse : List Statement)
  /-- A loop with a condition. -/
  | while (test : Expr) (body orElse : List Statement)
  /-- A loop over an iterable. -/
  | for (isAsync : Bool) (target source : Expr) (body orElse : List Statement)
  /-- A block within contexts. -/
  | with (isAsync : Bool) (items : List WithItem) (body : List Statement)
  /-- A guarded block. -/
  | try (body : List Statement) (handlers : List Handler) (orElse final : List Statement)
  /-- A choice by patterns. -/
  | match (subject : Expr) (cases : List Case)
  /-- A function. -/
  | function (isAsync : Bool) (decorators : List Expr) (name : String)
      (parameters : List Parameter) (result : Option Expr) (body : List Statement)
  /-- A class. -/
  | class (decorators : List Expr) (name : String) (bases : List Expr)
      (named : List NamedArgument) (body : List Statement)

/-- A handler of a guarded block. -/
inductive Handler where
  /-- Whether it handles groups, what it handles, the name of the error, and the block. -/
  | mk (grouped : Bool) (type : Option Expr) (name : Option String) (body : List Statement)

/-- A case of a choice by patterns. -/
inductive Case where
  /-- The pattern, its condition and the block. -/
  | mk (pattern : Pattern) (guard : Option Expr) (body : List Statement)

end

end KeyedAccess.Script
