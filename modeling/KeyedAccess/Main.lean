import KeyedAccess.Console.Session

/-!
# The program

The command line on the files of the machine. Everything is decided by the library; here files are
read and written and texts are printed.
-/

namespace KeyedAccess.Console

/-- The file that a command reads, if it reads one. -/
def Command.source : Command → Option String
  | .gen _ input .. | .info input .. => some input
  | .runtime .. => none

/-- The kind of a failed file operation. -/
def fileError : IO.Error → Files.FileError
  | .noFileOrDirectory .. | .noSuchThing .. => .missing
  | .alreadyExists .. => .occupied
  | .inappropriateType .. => .notDirectory
  | _ => .isDirectory

/-- The wording of a failed file operation. -/
def describeFileError : Files.FileError → String
  | .missing => "no such file or directory"
  | .occupied => "there is already a file of that name"
  | .isDirectory => "the file cannot be used"
  | .notDirectory => "not a directory"
  | .undecodable => "the file is not encoded in UTF-8"
  | .nullCharacter => "a path cannot hold the character NUL"

/-- The wording of what stops a command. -/
def Crash.message : Crash → String
  | .file e => describeFileError e
  | .script e => e.message?.getD "the class source cannot be read"

/-- Reads the file of a command. -/
def readSource (command : Command) : IO (Except Files.FileError ByteArray) := do
  match command.source with
  | none => return .error .missing
  | some input =>
    match ← (IO.FS.readBinFile (Files.Path.ofString input).text).toBaseIO with
    | .ok contents => return .ok contents
    | .error e => return .error (fileError e)

/-- Writes files into a directory, which is made if it does not exist. -/
def writeFiles (directory : Files.Path) (files : List (String × String)) : IO Unit := do
  IO.FS.createDirAll directory.text
  for (name, text) in files do
    IO.FS.writeFile (directory.join (.ofString name)).text text

/-- Prints what a call leaves behind. -/
def printReport (r : Report) : IO UInt32 := do
  IO.print r.output
  IO.eprint r.messages
  if let some c := r.crash then IO.eprintln ("Error: " ++ c.message)
  return r.exitCode.toUInt32

/-- Carries out a plan on the files of the machine. -/
def Plan.execute (verbose : Bool) (p : Plan) : IO UInt32 := do
  let messages := logMessages verbose p.log
  match p.ending with
  | .answer exitCode text => printReport ⟨exitCode, text, messages, none⟩
  | .crash c => printReport (crashed messages c)
  | .write directory files text =>
    match ← (writeFiles directory files).toBaseIO with
    | .ok () => printReport ⟨0, text, messages, none⟩
    | .error e => printReport (crashed messages (.file (fileError e)))

/-- One call of the program. -/
def runProgram (words : List String) : IO UInt32 := do
  match Call.ofWords words with
  | .print report => printReport report
  | .run verbose command =>
    let contents ← readSource command
    (command.plan fun _ => contents).execute verbose

end KeyedAccess.Console

/-- Generates and shows keyed accessors. -/
def main (words : List String) : IO UInt32 := KeyedAccess.Console.runProgram words
