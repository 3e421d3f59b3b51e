import KeyedAccess.Script.Tree

/-!
# Tokens of class sources

What the lexer passes on: words, literals and marks, and the layout as marks for the end of a line
and for a deeper or shallower indentation. A text that cannot be cut into tokens ends with a fault.
-/

namespace KeyedAccess.Script

/-- Why a text cannot be cut into tokens any further. -/
inductive Fault where
  /-- Some characters form no token. -/
  | characters
  /-- The text ends within brackets, or a line is continued by nothing. -/
  | unfinished
  /-- A line is indented in a way that depends on the width of a tab. -/
  | tabs
  /-- A line is indented like none of the blocks around it, or too deep. -/
  | indentation
deriving DecidableEq, Repr

/-- A literal text as it is written. -/
structure Quotation where
  /-- The letters before the quotes. -/
  letters : List Char
  /-- What stands between the quotes. -/
  body : List Char
deriving DecidableEq, Repr

/-- A token. -/
inductive Token where
  /-- An identifier as it is written. -/
  | name (text : List Char)
  /-- A reserved word. -/
  | word (text : String)
  /-- A number; none if it has too many digits to be read. -/
  | number (value : Option Constant)
  /-- A literal text. -/
  | quotation (q : Quotation)
  /-- An operator or a bracket. -/
  | op (text : String)
  /-- The end of a line. -/
  | newline
  /-- The next line is indented deeper. -/
  | indent
  /-- The next line leaves a block. -/
  | dedent
  /-- The end of the text. -/
  | finish
  /-- The text cannot be cut any further. -/
  | fault (f : Fault)
deriving DecidableEq, Repr

/-- The reserved words. -/
def reservedWords : List String :=
  ["False", "None", "True", "and", "as", "assert", "async", "await", "break", "class", "continue",
    "def", "del", "elif", "else", "except", "finally", "for", "from", "global", "if", "import",
    "in", "is", "lambda", "nonlocal", "not", "or", "pass", "raise", "return", "try", "while",
    "with", "yield"]

/-- The operators and brackets, longer ones first. -/
def operators : List String :=
  ["**=", "//=", "<<=", ">>=", "...",
    "!=", "%=", "&=", "**", "*=", "+=", "-=", "->", "//", "/=", ":=", "<<", "<=", "<>", "==", ">=",
    ">>", "@=", "^=", "|=",
    "(", ")", "[", "]", "\x7b", "\x7d", ":", ",", ";", "+", "-", "*", "/", "|", "&", "<", ">", "=",
    ".", "%", "~", "^", "@", "!", "$", "?", "\x60"]

end KeyedAccess.Script
