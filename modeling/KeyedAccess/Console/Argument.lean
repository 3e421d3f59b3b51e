import KeyedAccess.Console.Usage
import KeyedAccess.Text.Digit
import KeyedAccess.Text.Similar

/-!
# Arguments

The arguments of a command are options with their values, in any order, and other arguments. The
first fault in the arguments' order counts; then help comes before everything else, given options
before missing ones, and other arguments last.
-/

namespace KeyedAccess.Console

/-- A given option. -/
structure Given where
  /-- The option. -/
  option : OptionSpec
  /-- Its value, if it has one. -/
  value : Option String
deriving Repr

/-- Whether an argument looks like an option. -/
def looksLikeOption (argument : String) : Bool :=
  argument.toList.head? == some '-' && decide (1 < argument.length)

/-- The value for an option, taken from the arguments behind it. -/
def takeValue (o : OptionSpec) (asked : String) (rest : List String) :
    Except UsageError (Option String × List String) :=
  match o.takes, rest with
  | .nothing, _ => .ok (none, rest)
  | .textOr fallback, [] => .ok (some fallback, [])
  | .textOr fallback, next :: behind =>
    if looksLikeOption next then .ok (some fallback, rest) else .ok (some next, behind)
  | _, [] => .error (.valueNeeded asked)
  | _, next :: behind => .ok (some next, behind)

/-- A long option with the value that is written behind an equals sign. -/
def takeLong (c : CommandSpec) (name : String) (written : Option String) (rest : List String) :
    Except UsageError (Given × List String) :=
  match c.byName name with
  | none => .error (.unknownOption name (Text.similarWords name (c.options.map (·.name))))
  | some o =>
    match o.takes, written with
    | .nothing, some _ => .error (.valueRefused name)
    | _, _ => do
      let (value, behind) ← takeValue o name (written.toList ++ rest)
      return (⟨o, value⟩, behind)

/-- Short options whose letters stand together; one that takes a value takes the rest of them. -/
def takeShort (c : CommandSpec) (rest : List String) :
    List Char → Except UsageError (List Given × List String)
  | [] => .ok ([], rest)
  | letter :: letters =>
    match c.byLetter letter with
    | none => .error (.unknownOption (shortName letter) [])
    | some o =>
      if o.takes = .nothing then do
        let (others, behind) ← takeShort c rest letters
        return (⟨o, none⟩ :: others, behind)
      else do
        let joined := if letters.isEmpty then rest else String.ofList letters :: rest
        let (value, behind) ← takeValue o (shortName letter) joined
        return ([⟨o, value⟩], behind)

/-- A text cut at its first equals sign. -/
def cutAtEquals (text : String) : String × Option String :=
  let chars := text.toList
  let front := chars.takeWhile (· != '=')
  (String.ofList front,
    if front.length < chars.length then some (String.ofList (chars.drop (front.length + 1)))
    else none)

/-- Options at the front of the arguments. -/
def takeOptions (c : CommandSpec) (argument : String) (rest : List String) :
    Except UsageError (List Given × List String) :=
  if "--".toList.isPrefixOf argument.toList then do
    let (name, written) := cutAtEquals argument
    let (given, behind) ← takeLong c name written rest
    return ([given], behind)
  else takeShort c rest argument.toList.tail

/-- Arguments that are read: the options, and the others. -/
structure Arguments where
  /-- The options in the order in which they are given. -/
  given : List Given
  /-- The other arguments. -/
  others : List String
deriving Repr

/-- Reads arguments; the limit bounds the number of options and arguments. -/
def readWithin (c : CommandSpec) : Nat → List String → Except UsageError Arguments
  | 0, arguments => .ok ⟨[], arguments⟩
  | _ + 1, [] => .ok ⟨[], []⟩
  | limit + 1, argument :: rest =>
    if argument = "--" then .ok ⟨[], rest⟩
    else if looksLikeOption argument then do
      let (given, behind) ← takeOptions c argument rest
      let read ← readWithin c limit behind
      return { read with given := given ++ read.given }
    else if c.mixed then do
      let read ← readWithin c limit rest
      return { read with others := argument :: read.others }
    else .ok ⟨[], argument :: rest⟩

/-- Reads the arguments of a command. Every step makes them shorter by a character or an argument,
which bounds the steps. -/
def readArguments (c : CommandSpec) (arguments : List String) : Except UsageError Arguments :=
  readWithin c ((arguments.map (·.length + 1)).foldl Nat.add 0) arguments

/-- Whether an option is given. -/
def Arguments.has (a : Arguments) (name : String) : Bool := a.given.any (·.option.name == name)

/-- The value of an option; of several the last one. -/
def Arguments.value? (a : Arguments) (name : String) : Option String :=
  (a.given.reverse.find? (·.option.name == name)).bind (·.value)

/-- What is wrong with the value of an option. -/
def valueFault (o : OptionSpec) (value : Option String) : Option UsageError :=
  match o.takes, value with
  | .number least, some text =>
    match Text.wholeNumber? text with
    | none => some (.notWhole o text)
    | some n => if n < least then some (.tooSmall o n least) else none
  | _, _ => none

/-- What is wrong with the given options. -/
def Arguments.givenFault (a : Arguments) : Option UsageError :=
  a.given.findSome? fun g => valueFault g.option (a.value? g.option.name)

/-- What is wrong with the options that are not given. -/
def Arguments.missingFault (c : CommandSpec) (a : Arguments) : Option UsageError :=
  (c.own.find? fun o => o.required && !a.has o.name).map .missingOption

/-- What the arguments ask for. -/
inductive Request where
  /-- The help text. -/
  | help
  /-- The command itself. -/
  | run (a : Arguments)
deriving Repr

/-- What the arguments of a command ask for. -/
def request (c : CommandSpec) (arguments : List String) : Except UsageError Request := do
  let read ← readArguments c arguments
  if read.has helpOption.name then return .help
  match read.givenFault <|> read.missingFault c with
  | some fault => throw fault
  | none => return .run read

/-- Refuses arguments that are no options. -/
def Arguments.withoutOthers (a : Arguments) : Except UsageError Arguments :=
  if a.others.isEmpty then .ok a else .error (.extraArguments a.others)

end KeyedAccess.Console
