import KeyedAccess.Console.Command

/-!
# Sessions

One call of the program on a file tree: from the words of the command line to what is printed, how
it ends, and the tree afterwards.
-/

namespace KeyedAccess.Console

/-- What a call of the program leaves behind besides files. -/
structure Report where
  /-- The exit code. -/
  exitCode : Nat
  /-- What is printed as output. -/
  output : String
  /-- What is printed as messages. -/
  messages : String
  /-- What stopped the program, if anything did. -/
  crash : Option Crash := none
deriving Repr

/-- What a command line asks for. -/
inductive Call where
  /-- A text is printed and nothing else happens. -/
  | print (report : Report)
  /-- A command is run, with all log records or with the important ones only. -/
  | run (verbose : Bool) (command : Command)
deriving Repr

/-- A text that is printed as output. -/
def printed (text : String) : Call := .print ⟨0, text, "", none⟩

/-- A usage error. -/
def complained (c : CommandSpec) (e : UsageError) : Call := .print ⟨2, "", c.complaint e, none⟩

/-- What a word that names no command leads to: it may be an option of the program after all. -/
def unknownCommand (words : List String) (word : String) : Call :=
  let error := UsageError.unknownCommand word (Text.similarWords word (commandSpecs.map (·.1)))
  if looksLikeOption word then
    match request programSpec words with
    | .error e => complained programSpec e
    | .ok .help => printed programSpec.help
    | .ok (.run _) => complained programSpec error
  else complained programSpec error

/-- What the arguments of a command ask for. -/
def commandCall (verbose : Bool) (name : String) (spec : CommandSpec) (words : List String) :
    Call :=
  match request spec words with
  | .error e => complained spec e
  | .ok .help => printed spec.help
  | .ok (.run a) =>
    match a.withoutOthers with
    | .error e => complained spec e
    | .ok a => .run verbose (Command.ofArguments name a)

/-- What a command line asks for; an empty one is answered by the help text as a message. -/
def Call.ofWords (words : List String) : Call :=
  if words.isEmpty then .print ⟨2, "", programSpec.help, none⟩
  else
    match request programSpec words with
    | .error e => complained programSpec e
    | .ok .help => printed programSpec.help
    | .ok (.run a) =>
      match a.others with
      | [] => complained programSpec .missingCommand
      | name :: rest =>
        match commandSpecs.lookup name with
        | none => unknownCommand (name :: rest) name
        | some spec => commandCall (a.has verboseOption.name) name spec rest

/-- The columns of a message line. -/
def messageColumns : Nat := 80

/-- The columns of the level in a message line. -/
def levelColumns : Nat := 8

/-- A log record as a line of fixed width. -/
def messageLine (r : Record) : String :=
  Text.padRight levelColumns r.level.name ++ " " ++
    Text.padRight (messageColumns - levelColumns - 1) r.message ++ "\n"

/-- The log as messages. Without `verbose` only warnings are shown. -/
def logMessages (verbose : Bool) (log : List Record) : String :=
  String.join ((log.filter fun r => verbose || r.level == .warning).map messageLine)

/-- A report of a call that was stopped. -/
def crashed (messages : String) (c : Crash) : Report := ⟨1, "", messages, some c⟩

variable {working : Files.Place}

/-- Carries out a plan on a file tree. What has been done before an error stays done. -/
def Plan.carryOut (verbose : Bool) (p : Plan) (t : Files.Tree working) :
    Report × Files.Tree working :=
  let messages := logMessages verbose p.log
  match p.ending with
  | .answer exitCode text => (⟨exitCode, text, messages, none⟩, t)
  | .crash c => (crashed messages c, t)
  | .write directory files text =>
    match t.makeDirectories directory with
    | (made, some e) => (crashed messages (.file e), made)
    | (made, none) =>
      match made.writeAll directory (files.map fun file => (file.1, file.2.toUTF8)) with
      | (after, some e) => (crashed messages (.file e), after)
      | (after, none) => (⟨0, text, messages, none⟩, after)

/-- One call of the program on a file tree. -/
def runWords (words : List String) (t : Files.Tree working) : Report × Files.Tree working :=
  match Call.ofWords words with
  | .print report => (report, t)
  | .run verbose command => (command.plan t.read).carryOut verbose t

end KeyedAccess.Console
