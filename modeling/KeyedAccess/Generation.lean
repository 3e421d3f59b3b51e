import KeyedAccess.Target.Language

/-!
# Generation

From a declaration to the file that holds its accessor. Every step may leave records in a log; the
declarations of one input are independent of one another, and their files come in input order.
-/

namespace KeyedAccess

/-- How important a log record is. -/
inductive Level where
  /-- Progress, for who wants to follow it. -/
  | debug
  /-- Something that the user should know. -/
  | warning
deriving DecidableEq, Repr

/-- The name of a level. -/
def Level.name : Level → String
  | .debug => "DEBUG"
  | .warning => "WARNING"

/-- One message of a run. -/
structure Record where
  /-- How important it is. -/
  level : Level
  /-- What it says. -/
  message : String
deriving DecidableEq, Repr

/-- The line that a record fills. -/
def Record.line (r : Record) : String := r.level.name ++ " " ++ r.message

/-- What a step leaves behind: its records, and a value or the reason why there is none. -/
structure Outcome (α : Type) where
  /-- The records in the order in which they were made. -/
  log : List Record
  /-- The value or the error. -/
  result : Except GenerationError α

/-- Goes on with a second step unless the first one failed. -/
def Outcome.andThen {α β : Type} (first : Outcome α) (next : α → Outcome β) : Outcome β :=
  match first.result with
  | .error e => ⟨first.log, .error e⟩
  | .ok value => ⟨first.log ++ (next value).log, (next value).result⟩

/-- A generated accessor. -/
structure Accessor where
  /-- The name of the type. -/
  identifier : String
  /-- The name of the language. -/
  language : String
  /-- The file that holds the accessor. -/
  fileName : String
  /-- The text of that file. -/
  source : String
deriving DecidableEq, Repr

/-- The name of the unit that is generated for a type. -/
def unitName (identifier : String) : String := identifier ++ ".Indexer.generated"

/-- The record of a description. -/
def describeRecord (t : Descriptor) : Record :=
  ⟨.debug, "Extracted " ++ toString t.properties.length ++ " eligible member(s) from " ++
    t.identifier⟩

/-- The warning about repeated names, when there are any. -/
def duplicateRecords (t : Descriptor) : List Record :=
  if t.duplicates.isEmpty then []
  else [⟨.warning, t.qualifiedName ++ " declares duplicate member name(s): " ++
    ", ".intercalate t.duplicates⟩]

/-- The text of an accessor in the language of the given name. -/
def synthesize (t : Descriptor) (language : String) (options : List (String × String)) :
    Outcome String :=
  match Language.find language with
  | .error e => ⟨[], .error e⟩
  | .ok target =>
    ⟨[⟨.debug, "Synthesizing " ++ language ++ " accessor for " ++ t.qualifiedName⟩],
      target.render options t⟩

/-- The accessor of one declaration; repeated names are reported and left as they are. -/
def generate (d : Declaration) (language : String) (options : List (String × String)) :
    Outcome Accessor :=
  let t := d.describe
  let described : Outcome Unit := ⟨describeRecord t :: duplicateRecords t, .ok ()⟩
  described.andThen fun _ =>
    match Language.find language with
    | .error e => ⟨[], .error e⟩
    | .ok target =>
      (synthesize t language options).andThen fun source =>
        ⟨[], .ok ⟨t.identifier, language, target.fileName t.identifier, source⟩⟩

/-- The accessors of several declarations, in order; the first error in that order wins. -/
def generateEach (declarations : List Declaration) (language : String)
    (options : List (String × String)) : Outcome (List Accessor) :=
  match declarations with
  | [] => ⟨[], .ok []⟩
  | d :: rest =>
    (generate d language options).andThen fun accessor =>
      (generateEach rest language options).andThen fun others => ⟨[], .ok (accessor :: others)⟩

/-- The record of a run over several declarations. -/
def announceRecord (chosen : List Declaration) (language : String) : Record :=
  ⟨.debug, "Generating " ++ toString chosen.length ++ " unit(s) for " ++ language⟩

/-- The accessors of all candidates; the number of workers, if it is given, must be positive. -/
def generateAll (declarations : List Declaration) (language : String) (workers : Option Int)
    (options : List (String × String)) : Outcome (List Accessor) :=
  let chosen := candidates declarations
  let announced : Outcome Unit :=
    ⟨[announceRecord chosen language], if workers.any (· < 1) then .error .noWorkers else .ok ()⟩
  announced.andThen fun _ => generateEach chosen language options

/-- The file names that more than one accessor has, each with the types that it stands for. -/
def fileClashes (accessors : List Accessor) : List (String × List String) :=
  (repeated (accessors.map (·.fileName))).map fun name =>
    (name, (accessors.filter (·.fileName == name)).map (·.identifier))

end KeyedAccess
