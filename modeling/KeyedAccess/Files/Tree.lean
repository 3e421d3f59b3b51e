import KeyedAccess.Files.Path

/-!
# File trees

The files and directories that a program sees. A place is given by the names that lead to it from
the root; the program runs in one of the directories, from which relative paths are followed.
-/

namespace KeyedAccess.Files

/-- The names that lead to a place from the root. -/
abbrev Place := List String

/-- The directory in which a program runs where nothing else is said. -/
def homePlace : Place := ["home"]

/-- Files and directories, for a program that runs in a directory. -/
structure Tree (working : Place := homePlace) where
  /-- The directories besides the one in which the program runs and those that lead to it. -/
  directories : List Place
  /-- The files with their contents. -/
  files : List (Place × ByteArray)

/-- Why a file operation fails. -/
inductive FileError where
  /-- There is nothing at the place. -/
  | missing
  /-- There is already something at the place. -/
  | occupied
  /-- There is a directory at the place. -/
  | isDirectory
  /-- A file stands where a directory is needed. -/
  | notDirectory
  /-- The contents are no text. -/
  | undecodable
  /-- The path holds the character NUL. -/
  | nullCharacter
deriving DecidableEq, Repr

variable {working : Place}

/-- Whether there is a directory at a place. -/
def Tree.hasDirectory (t : Tree working) (p : Place) : Bool :=
  p.isPrefixOf working || t.directories.contains p

/-- The contents of the file at a place. -/
def Tree.file? (t : Tree working) (p : Place) : Option ByteArray := t.files.lookup p

/-- The place that a name leads to; two dots lead back, and from the root nowhere else. -/
def Place.child (p : Place) (name : String) : Place :=
  if name = ".." then p.dropLast else p ++ [name]

/-- The place that names lead to; all names but the last are those of directories. -/
def Tree.follow (t : Tree working) (p : Place) : List String → Except FileError Place
  | [] => .ok p
  | name :: rest =>
    if t.hasDirectory p then t.follow (Place.child p name) rest
    else if (t.file? p).isSome then .error .notDirectory
    else .error .missing

/-- The place at which a path begins. -/
def Path.start (working : Place) (p : Path) : Place := if p.root = "" then working else []

/-- The place of a path. -/
def Tree.place (t : Tree working) (p : Path) : Except FileError Place :=
  if p.parts.any fun name => name.toList.contains (Char.ofNat 0) then .error .nullCharacter
  else t.follow (p.start working) p.parts

/-- The contents of a file. -/
def Tree.read (t : Tree working) (p : Path) : Except FileError ByteArray := do
  let place ← t.place p
  if t.hasDirectory place then .error .isDirectory
  else match t.file? place with
    | some contents => .ok contents
    | none => .error .missing

/-- The tree with one more directory. -/
def Tree.addDirectory (t : Tree working) (place : Place) : Tree working :=
  { t with directories := t.directories ++ [place] }

/-- Making a directory changes no file. -/
@[simp] theorem Tree.files_addDirectory (t : Tree working) (place : Place) :
    (t.addDirectory place).files = t.files := rfl

/-- Makes a directory in one that exists. -/
def Tree.makeDirectory (t : Tree working) (p : Path) : Except FileError (Tree working) := do
  let place ← t.place p
  if t.hasDirectory place || (t.file? place).isSome then .error .occupied
  else .ok (t.addDirectory place)

/-- Whether a path leads to a directory. -/
def Tree.leadsToDirectory (t : Tree working) (p : Path) : Bool :=
  match t.place p with
  | .ok place => t.hasDirectory place
  | .error _ => false

/-- Makes a directory, where one that exists already will do: the tree afterwards, and what went
wrong. -/
def Tree.allowExisting (t : Tree working) (p : Path) : Tree working × Option FileError :=
  match t.makeDirectory p with
  | .ok after => (after, none)
  | .error e => (t, if t.leadsToDirectory p then none else some e)

/-- Makes a directory and those that lead to it, given by their names, the last one first. An error
ends this, and the directories before it stay. -/
def Tree.makeDirectoriesFrom (t : Tree working) (root : String) :
    List String → Tree working × Option FileError
  | [] => t.allowExisting ⟨root, []⟩
  | name :: above =>
    let path : Path := ⟨root, (name :: above).reverse⟩
    match t.makeDirectory path with
    | .error .missing =>
      match t.makeDirectoriesFrom root above with
      | (after, none) => after.allowExisting path
      | (after, some e) => (after, some e)
    | _ => t.allowExisting path

/-- Makes a directory and those that lead to it, as far as they do not exist. -/
def Tree.makeDirectories (t : Tree working) (p : Path) : Tree working × Option FileError :=
  t.makeDirectoriesFrom p.root p.parts.reverse

/-- Gives the file at a place its contents. -/
def putFile (place : Place) (contents : ByteArray) :
    List (Place × ByteArray) → List (Place × ByteArray)
  | [] => [(place, contents)]
  | (other, old) :: rest =>
    if other = place then (place, contents) :: rest
    else (other, old) :: putFile place contents rest

/-- The tree with new contents of the file at a place. -/
def Tree.setFile (t : Tree working) (place : Place) (contents : ByteArray) : Tree working :=
  { t with files := putFile place contents t.files }

/-- Writing a file changes no directory. -/
@[simp] theorem Tree.directories_setFile (t : Tree working) (place : Place)
    (contents : ByteArray) : (t.setFile place contents).directories = t.directories := rfl

/-- So there is a directory where there was one. -/
@[simp] theorem Tree.hasDirectory_setFile (t : Tree working) (place : Place)
    (contents : ByteArray) (q : Place) :
    (t.setFile place contents).hasDirectory q = t.hasDirectory q := rfl

/-- Writes a file in a directory that exists. -/
def Tree.write (t : Tree working) (p : Path) (contents : ByteArray) :
    Except FileError (Tree working) := do
  let place ← t.place p
  if t.hasDirectory place then .error .isDirectory
  else .ok (t.setFile place contents)

/-- Writes files into a directory, one after the other. An error ends this, and the files before it
stay. -/
def Tree.writeAll (t : Tree working) (directory : Path) :
    List (String × ByteArray) → Tree working × Option FileError
  | [] => (t, none)
  | (name, contents) :: rest =>
    match t.write (directory.join (.ofString name)) contents with
    | .ok after => after.writeAll directory rest
    | .error e => (t, some e)

/-- A place as it is named where the program runs: by the names that lead to it from there, or with
a slash in front by those that lead to it from the root. -/
def Place.shown (working p : Place) : Place :=
  if working.isPrefixOf p then p.drop working.length else "/" :: p

/-- The files that are new or have other contents than before, named where the program runs. -/
def Tree.changes (before after : Tree working) : List (Place × ByteArray) :=
  (after.files.filter fun file => before.file? file.1 != some file.2).map fun file =>
    (Place.shown working file.1, file.2)

/-- The tree of given files. -/
def Tree.ofFiles (files : List (String × ByteArray)) : Tree working :=
  files.foldl
    (fun t file =>
      let path := Path.ofString file.1
      let directory : Path := ⟨path.root, path.parts.dropLast⟩
      match t.makeDirectories directory with
      | (after, none) => (after.writeAll directory [(path.name, file.2)]).1
      | (after, some _) => after)
    ⟨[], []⟩

/-- The text that octets encode, with every end of a line as a line feed. -/
def plainLines : List Char → List Char
  | [] => []
  | '\r' :: '\n' :: rest => '\n' :: plainLines rest
  | '\r' :: rest => '\n' :: plainLines rest
  | c :: rest => c :: plainLines rest

/-- The contents of a file as text. -/
def decodeText (contents : ByteArray) : Except FileError String :=
  match String.fromUTF8? contents with
  | some text => .ok (String.ofList (plainLines text.toList))
  | none => .error .undecodable

end KeyedAccess.Files
