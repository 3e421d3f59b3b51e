import KeyedAccess.Console.Argument
import KeyedAccess.Console.Listing
import KeyedAccess.Files.Tree
import KeyedAccess.Generation
import KeyedAccess.Schema.Parse
import KeyedAccess.Script.Parse
import KeyedAccess.Target.Support

/-!
# Commands

The three commands of the program. A command reads at most one file and then knows all that it will
do: what it prints and which files it writes into which directory. Nothing is written before
everything that can be refused has been checked.
-/

namespace KeyedAccess.Console

/-- The option for the language of accessors. -/
def languageOption : OptionSpec :=
  { name := "--language", letter := some 'l', required := true
    help := "Target language (csharp, python)" }

/-- The option for the file that is read. -/
def inputOption : OptionSpec :=
  { name := "--input", letter := some 'i', required := true, help := "Input declaration file" }

/-- The option for the directory that is written. -/
def outputOption : OptionSpec :=
  { name := "--output", letter := some 'o', help := "Output directory" }

/-- The module that accessors import by default when the option for it is given without a value. -/
def installedSupport : String := "indexgen.runtime"

/-- The option for the module that accessors import. -/
def supportOption : OptionSpec :=
  { name := "--runtime-import", takes := .textOr installedSupport
    help := "Import path for runtime. No value=indexgen.runtime, omit=indexgen_runtime" }

/-- The option for the module that classes belong to. -/
def moduleOption : OptionSpec :=
  { name := "--module", help := "Module name for Python input (default: file stem)" }

/-- The option for the number of workers. -/
def workersOption : OptionSpec :=
  { name := "--jobs", letter := some 'j', takes := .number 1,
    help := "Parallel generation workers" }

/-- The option for output that programs read. -/
def listingOption : OptionSpec :=
  { name := "--json", takes := .nothing, help := "Output as JSON" }

/-- The option for the folder of the support code. -/
def folderOption : OptionSpec :=
  { name := "--name", help := "Runtime folder name (python only)" }

/-- The option for all log records. -/
def verboseOption : OptionSpec :=
  { name := "--verbose", letter := some 'v', takes := .nothing, help := "Enable debug logging" }

/-- The command that generates accessors. -/
def genSpec : CommandSpec :=
  { path := "cli gen", usage := "[OPTIONS]"
    about := "Generate accessor companions for every candidate type in a file."
    own := [languageOption, inputOption, { outputOption with required := true }, supportOption,
      moduleOption, workersOption] }

/-- The command that shows descriptors. -/
def infoSpec : CommandSpec :=
  { path := "cli info", usage := "[OPTIONS]"
    about := "Display the member model extracted for each candidate type."
    own := [inputOption, listingOption, moduleOption] }

/-- The command that generates the support code. -/
def runtimeSpec : CommandSpec :=
  { path := "cli runtime", usage := "[OPTIONS]", about := "Generate runtime support code."
    own := [languageOption, outputOption, folderOption] }

/-- The commands by name. -/
def commandSpecs : List (String × CommandSpec) :=
  [("gen", genSpec), ("info", infoSpec), ("runtime", runtimeSpec)]

/-- The program as a whole. -/
def programSpec : CommandSpec :=
  { path := "cli", usage := "[OPTIONS] COMMAND [ARGS]...", mixed := false
    about := "indexgen string-keyed accessor generator."
    own := [verboseOption]
    commands := commandSpecs.map fun entry => (entry.1, entry.2.about) }

/-- A command with its options. -/
inductive Command where
  /-- Generates the accessors of an input file. -/
  | gen (language input output : String) (support module : Option String) (workers : Option Int)
  /-- Shows the descriptors of an input file. -/
  | info (input : String) (asListing : Bool) (module : Option String)
  /-- Generates the support code. -/
  | runtime (language output folder : String)
deriving DecidableEq, Repr

/-- The command of the given name that arguments ask for. -/
def Command.ofArguments (name : String) (a : Arguments) : Command :=
  let text (o : OptionSpec) (default : String) : String := (a.value? o.name).getD default
  if name = "gen" then
    .gen (text languageOption "") (text inputOption "") (text outputOption "")
      (a.value? supportOption.name) (a.value? moduleOption.name)
      ((a.value? workersOption.name).bind Text.wholeNumber?)
  else if name = "info" then
    .info (text inputOption "") (a.has listingOption.name) (a.value? moduleOption.name)
  else .runtime (text languageOption "") (text outputOption ".")
      (text folderOption "indexgen_runtime")

/-- Why an input file gives no declarations. -/
inductive LoadError where
  /-- It cannot be read. -/
  | file (e : Files.FileError)
  /-- It is no declaration file. -/
  | schema (e : Schema.ParseError)
  /-- It is no class source. -/
  | script (e : Script.ParseError)
deriving Repr

/-- What stops a command without a message of its own. -/
inductive Crash where
  /-- A file operation failed. -/
  | file (e : Files.FileError)
  /-- A class source cannot be represented. -/
  | script (e : Script.ParseError)
deriving Repr

/-- How a command ends. -/
inductive Ending where
  /-- It prints a text. -/
  | answer (exitCode : Nat) (text : String)
  /-- It is stopped. -/
  | crash (c : Crash)
  /-- It writes files into a directory and then prints a text. -/
  | write (directory : Files.Path) (files : List (String × String)) (text : String)
deriving Repr

/-- What a command does after it has read its input. -/
structure Plan where
  /-- The log records that it leaves. -/
  log : List Record
  /-- How it ends. -/
  ending : Ending
deriving Repr

/-- The ending of class sources. -/
def scriptEnding : String := ".py"

/-- The declarations of an input file; its name says what kind of file it is. -/
def load (read : Files.Path → Except Files.FileError ByteArray) (input : String)
    (module : Option String) : Except LoadError (List Declaration) := do
  let path := Files.Path.ofString input
  let contents ← (read path).mapError .file
  let text ← (Files.decodeText contents).mapError .file
  if path.ending = scriptEnding then
    (Script.parse text (some ((properScope module).getD path.stem))).mapError .script
  else (Schema.parse text).mapError .schema

/-- What is printed about an input file that is refused. -/
def refusal (input reason : String) : Ending :=
  .answer 1 ("Error: " ++ input ++ ": " ++ reason ++ "\n")

/-- How a command ends whose input gives no declarations. -/
def LoadError.ending (input : String) : LoadError → Ending
  | .file e => .crash (.file e)
  | .schema e => refusal input e.message
  | .script (.source .grammar) | .script (.source .indentation) | .script (.source .tabs) =>
    refusal input "SyntaxError"
  | .script e => .crash (.script e)

/-- How a command ends that does not know a language. -/
def unknownLanguage (language : String) : Ending :=
  .answer 1 ("Unknown language: " ++ language ++ "\n")

/-- File names with the types that they would stand for. -/
def clashText (clashes : List (String × List String)) : String :=
  "output file name collision: " ++ "; ".intercalate (clashes.map fun clash =>
    clash.1 ++ " (" ++ ", ".intercalate clash.2 ++ ")")

/-- The options of a language for generation. -/
def targetOptions (language : Language) (support : Option String) : List (String × String) :=
  match language with
  | .python => [("runtime_import", support.getD Mixin.defaultSupport)]
  | .csharp => []

/-- Generates accessors, unless two of them would have the same file name. -/
def genPlan (declarations : List Declaration) (target : Language) (input output : String)
    (support : Option String) (workers : Option Int) : Plan :=
  let outcome := generateAll declarations target.name workers (targetOptions target support)
  ⟨outcome.log,
    match outcome.result with
    | .error e => refusal input e.message
    | .ok accessors =>
      let clashes := fileClashes accessors
      if clashes.isEmpty then
        .write (.ofString output) (accessors.map fun a => (a.fileName, a.source)) ""
      else refusal input (clashText clashes)⟩

/-- Shows the descriptors of the candidates. -/
def infoPlan (declarations : List Declaration) (asListing : Bool) : Plan :=
  let types := (candidates declarations).map Declaration.describe
  ⟨types.map describeRecord, .answer 0 (if asListing then listing types else tables types)⟩

/-- Generates the support code of a language. -/
def runtimePlan (language output folder : String) : Plan :=
  ⟨[], match Language.ofName? language with
    | some .python =>
      let directory := (Files.Path.ofString output).join (.ofString folder)
      .write directory Support.files ("Generated Python runtime in " ++ directory.text ++ "\n")
    | some .csharp =>
      .answer 0 "C# accessors use System.IndexOutOfRangeException; no runtime needed\n"
    | none => unknownLanguage language⟩

/-- The plan of a command, which may read a file. -/
def Command.plan (read : Files.Path → Except Files.FileError ByteArray) : Command → Plan
  | .gen language input output support module workers =>
    match Language.ofName? language with
    | none => ⟨[], unknownLanguage language⟩
    | some target =>
      match load read input module with
      | .error e => ⟨[], e.ending input⟩
      | .ok declarations => genPlan declarations target input output support workers
  | .info input asListing module =>
    match load read input module with
    | .error e => ⟨[], e.ending input⟩
    | .ok declarations => infoPlan declarations asListing
  | .runtime language output folder => runtimePlan language output folder

end KeyedAccess.Console
