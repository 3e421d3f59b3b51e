import KeyedAccess.Target.Companion
import KeyedAccess.Target.Mixin

/-!
# Target languages

The languages that an accessor can be written in, and what each of them decides: the file name, the
options that it takes, and the text.
-/

namespace KeyedAccess

/-- A language for accessors. -/
inductive Language where
  /-- C#, by a partial companion. -/
  | csharp
  /-- Python, by a mixin class. -/
  | python
deriving DecidableEq, Repr

/-- Why no accessor is generated. -/
inductive GenerationError where
  /-- The name of the language is not known. -/
  | unknownLanguage (name : String)
  /-- The language does not take an option of this name. -/
  | unexpectedOption (name : String)
  /-- Fewer than one worker was asked for. -/
  | noWorkers
deriving DecidableEq, Repr

/-- The wording of a generation error. -/
def GenerationError.message : GenerationError → String
  | .unknownLanguage name =>
    "Unknown language: " ++ name ++ " (expected one of csharp, python)"
  | .unexpectedOption name => "render() got an unexpected keyword argument '" ++ name ++ "'"
  | .noWorkers => "max_workers must be greater than 0"

namespace Language

/-- The name by which a language is asked for. -/
def name : Language → String
  | .csharp => "csharp"
  | .python => "python"

/-- The language of a name. -/
def ofName? : String → Option Language
  | "csharp" => some .csharp
  | "python" => some .python
  | _ => none

/-- The language of a name, or the error that it is unknown. -/
def find (name : String) : Except GenerationError Language :=
  match ofName? name with
  | some language => .ok language
  | none => .error (.unknownLanguage name)

/-- The file name that a language gives to the accessor of a type. -/
def fileName : Language → String → String
  | .csharp => Companion.fileName
  | .python => Mixin.fileName

/-- The names of the options that a language takes. -/
def optionNames : Language → List String
  | .csharp => []
  | .python => ["runtime_import"]

/-- The text of the accessor of a type; every option must be one that the language takes. -/
def render (language : Language) (options : List (String × String)) (t : Descriptor) :
    Except GenerationError String :=
  match options.find? fun option => !language.optionNames.contains option.1 with
  | some option => .error (.unexpectedOption option.1)
  | none =>
    match language with
    | .csharp => .ok (Companion.render t)
    | .python => .ok (Mixin.render t ((options.lookup "runtime_import").getD Mixin.defaultSupport))

end Language

end KeyedAccess
