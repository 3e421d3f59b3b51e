import KeyedAccess.Console.OptionSpec
import KeyedAccess.Text.Quoted
import KeyedAccess.Text.Width

/-!
# Help and usage errors

The text that explains a command, laid out in two columns from its table of options, and the errors
in the use of a command with their wording.
-/

namespace KeyedAccess.Console

/-- The columns of a line of help. -/
def helpColumns : Nat := 80

/-- The widest first column of a table of explanations. -/
def widestTerm : Nat := 30

/-- A text cut at its blanks: each word with the number of blanks in front of it. -/
def spacedWords (blanks : Nat) (word : List Char) : List Char → List (Nat × String)
  | [] => if word.isEmpty then [] else [(blanks, String.ofList word.reverse)]
  | c :: rest =>
    if c = ' ' then
      if word.isEmpty then spacedWords (blanks + 1) [] rest
      else (blanks, String.ofList word.reverse) :: spacedWords 1 [] rest
    else spacedWords blanks (c :: word) rest

/-- Words on lines of at most `columns` characters, after the beginning of a line. -/
def fillLines (columns : Nat) (line : String) : List (Nat × String) → List String
  | [] => [line]
  | (blanks, word) :: rest =>
    let longer := line ++ Text.spaces blanks ++ word
    if longer.length ≤ columns then fillLines columns longer rest
    else line :: fillLines columns word rest

/-- A text on lines of at most `columns` characters. -/
def wrapped (columns : Nat) (text : String) : List String :=
  match spacedWords 0 [] text.toList with
  | [] => []
  | (_, word) :: rest => fillLines columns word rest

/-- A table of explanations: the terms, indented, and the explanations in one column behind them. -/
def explanations (rows : List (String × String)) : List String :=
  let widest := (rows.map (·.1.length)).foldl max 0
  let column := min widest widestTerm + 2
  rows.flatMap fun row =>
    let term := "  " ++ row.1
    match wrapped (helpColumns - column - 2) row.2 with
    | [] => [term]
    | first :: rest =>
      (term ++ Text.spaces (column - row.1.length) ++ first) ::
        rest.map (Text.spaces (column + 2) ++ ·)

/-- An option as its term in the help. -/
def OptionSpec.term (o : OptionSpec) : String :=
  let names := match o.letter with
    | some letter => shortName letter ++ ", " ++ o.name
    | none => o.name
  match o.takes with
  | .nothing => names
  | .text | .textOr _ => names ++ " TEXT"
  | .number _ => names ++ " INTEGER RANGE"

/-- The numbers that are not below a least one. -/
def rangeText (least : Nat) : String := "x>=" ++ toString least

/-- An option as its explanation in the help. -/
def OptionSpec.explanation (o : OptionSpec) : String :=
  let notes := (match o.takes with
    | .number least => [rangeText least]
    | _ => []) ++ (if o.required then ["required"] else [])
  if notes.isEmpty then o.help else o.help ++ "  [" ++ "; ".intercalate notes ++ "]"

/-- The line that shows how a command is used. -/
def CommandSpec.usageLine (c : CommandSpec) : String := "Usage: " ++ c.path ++ " " ++ c.usage

/-- The help text of a command. -/
def CommandSpec.help (c : CommandSpec) : String :=
  let options := explanations (c.options.map fun o => (o.term, o.explanation))
  let commands := if c.commands.isEmpty then [] else "" :: "Commands:" :: explanations c.commands
  String.join ((c.usageLine :: "" :: ("  " ++ c.about) :: "" :: "Options:" ::
    (options ++ commands)).map (· ++ "\n"))

/-- What is wrong with the use of a command. -/
inductive UsageError where
  /-- There is no such option; some others have similar names. -/
  | unknownOption (name : String) (similar : List String)
  /-- An option needs a value. -/
  | valueNeeded (name : String)
  /-- An option takes no value. -/
  | valueRefused (name : String)
  /-- A required option is not given. -/
  | missingOption (o : OptionSpec)
  /-- A value is no whole number. -/
  | notWhole (o : OptionSpec) (value : String)
  /-- A number is too small. -/
  | tooSmall (o : OptionSpec) (value : Int) (least : Nat)
  /-- There are more arguments than the command takes. -/
  | extraArguments (arguments : List String)
  /-- No command is given. -/
  | missingCommand
  /-- There is no such command; some others have similar names. -/
  | unknownCommand (name : String) (similar : List String)
deriving Repr

/-- The offer of similar names. -/
def similarOffer (similar : List String) : String :=
  match similar with
  | [] => ""
  | [name] => " Did you mean " ++ Text.shown name ++ "?"
  | names => " (Did you mean one of: " ++
    ", ".intercalate ((names.mergeSort fun a b => decide (a ≤ b)).map Text.shown) ++ "?)"

/-- The names of an option as errors show them. -/
def OptionSpec.shownNames (o : OptionSpec) : String :=
  match o.letter with
  | some letter => Text.shown o.name ++ " / " ++ Text.shown (shortName letter)
  | none => Text.shown o.name

/-- The wording of a usage error. -/
def UsageError.message : UsageError → String
  | .unknownOption name similar =>
    "No such option " ++ Text.shown name ++ "." ++ similarOffer similar
  | .valueNeeded name => "Option " ++ Text.shown name ++ " requires an argument."
  | .valueRefused name => "Option " ++ Text.shown name ++ " does not take a value."
  | .missingOption o => "Missing option " ++ o.shownNames ++ "."
  | .notWhole o value =>
    "Invalid value for " ++ o.shownNames ++ ": " ++ Text.shown value ++
      " is not a valid integer range."
  | .tooSmall o value least =>
    "Invalid value for " ++ o.shownNames ++ ": " ++ toString value ++
      " is not in the range " ++ rangeText least ++ "."
  | .extraArguments [argument] => "Got unexpected extra argument (" ++ argument ++ ")"
  | .extraArguments arguments =>
    "Got unexpected extra arguments (" ++ " ".intercalate arguments ++ ")"
  | .missingCommand => "Missing command."
  | .unknownCommand name similar =>
    "No such command " ++ Text.shown name ++ "." ++ similarOffer similar

/-- What is printed about a usage error. -/
def CommandSpec.complaint (c : CommandSpec) (e : UsageError) : String :=
  c.usageLine ++ "\nTry '" ++ c.path ++ " --help' for help.\n\nError: " ++ e.message ++ "\n"

end KeyedAccess.Console
