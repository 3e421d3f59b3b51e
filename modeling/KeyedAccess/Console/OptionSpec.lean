/-!
# Options of commands

What the options of a command are called and which values they take. The tables of options are all
that the reader of arguments and the help text know about a command.
-/

namespace KeyedAccess.Console

/-- What an option takes. -/
inductive Takes where
  /-- Nothing. -/
  | nothing
  /-- A text. -/
  | text
  /-- A text, or without one the given text. -/
  | textOr (fallback : String)
  /-- A whole number that is not below the given one. -/
  | number (least : Nat)
deriving DecidableEq, Repr

/-- An option of a command. -/
structure OptionSpec where
  /-- The long name with its hyphens. -/
  name : String
  /-- The letter of the short name. -/
  letter : Option Char := none
  /-- What it takes. -/
  takes : Takes := .text
  /-- Whether the command needs it. -/
  required : Bool := false
  /-- What the help text says about it. -/
  help : String
deriving DecidableEq, Repr

/-- The short name of an option with its hyphen. -/
def shortName (letter : Char) : String := String.ofList ['-', letter]

/-- The option that every command has. -/
def helpOption : OptionSpec :=
  { name := "--help", takes := .nothing, help := "Show this message and exit." }

/-- A command, or the program as a whole. -/
structure CommandSpec where
  /-- The words that call it. -/
  path : String
  /-- What the usage line shows behind these words. -/
  usage : String
  /-- One sentence about it. -/
  about : String
  /-- Its options without the one for help. -/
  own : List OptionSpec
  /-- Its commands with a sentence about each. -/
  commands : List (String × String) := []
  /-- Whether options may follow other arguments. -/
  mixed : Bool := true
deriving Repr

/-- All options of a command. -/
def CommandSpec.options (c : CommandSpec) : List OptionSpec := c.own ++ [helpOption]

/-- The option of a long name. -/
def CommandSpec.byName (c : CommandSpec) (name : String) : Option OptionSpec :=
  c.options.find? (·.name == name)

/-- The option of a short name. -/
def CommandSpec.byLetter (c : CommandSpec) (letter : Char) : Option OptionSpec :=
  c.options.find? (·.letter == some letter)

end KeyedAccess.Console
