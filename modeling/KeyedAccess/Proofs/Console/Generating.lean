import KeyedAccess.Console.Session
import KeyedAccess.Proofs.Files.Tree
import KeyedAccess.Proofs.Generation
import KeyedAccess.Proofs.Schema.Names
import KeyedAccess.Proofs.Schema.Parsing
import KeyedAccess.Proofs.Script.Bindings
import KeyedAccess.Proofs.Text.FileName

/-!
# Generating writes everything or nothing

The command for accessors ends in one of three ways: it refuses its input, it is stopped, or it
writes one file for each candidate. The files have different names, and each of these is one name on
a path, whatever kind of input the type comes from. So the files overlay those that were there
before, none of them is written over another one, and a command that fails changes no file.
-/

namespace KeyedAccess.Console

open Files (Place)

/-! ## File names -/

/-- The declarations of an input are those of a class source or of a declaration file. -/
theorem parse_of_load {read : Files.Path → Except Files.FileError ByteArray} {input : String}
    {module : Option String} {declarations : List Declaration}
    (h : load read input module = .ok declarations) :
    (∃ text name, Script.parse text (some name) = .ok declarations) ∨
      ∃ text, Schema.parse text = .ok declarations := by
  have hok : ∀ {ε : Type} {parsed : Except ε (List Declaration)} {reason : ε → LoadError},
      parsed.mapError reason = .ok declarations → parsed = .ok declarations := by
    intro ε parsed reason hmap
    cases parsed with
    | error e => cases hmap
    | ok found => exact congrArg Except.ok (Except.ok.inj hmap)
  obtain ⟨contents, -, h⟩ := bind_eq_ok_iff.mp h
  obtain ⟨text, -, h⟩ := bind_eq_ok_iff.mp h
  by_cases hscript : (Files.Path.ofString input).ending = scriptEnding
  · rw [if_pos hscript] at h
    exact .inl ⟨text, _, hok h⟩
  · rw [if_neg hscript] at h
    exact .inr ⟨text, hok h⟩

/-- The names of the declarations of an input can stand in names of files. -/
theorem namesFile_of_load {read : Files.Path → Except Files.FileError ByteArray} {input : String}
    {module : Option String} {declarations : List Declaration}
    (h : load read input module = .ok declarations) :
    ∀ d ∈ declarations, Text.NamesFile d.identifier.toList := by
  intro d hd
  rcases parse_of_load h with ⟨text, name, hp⟩ | ⟨text, hp⟩
  · obtain ⟨word, hword, he⟩ := (Script.isName_of_parse hp hd).1
    rw [he, Script.nameOf, String.toList_ofList]
    exact Text.namesFile_compatibilityForm fun c hc => Text.isIdentifierChar_of_mem hword hc
  · have hname := (Schema.wellNamed_of_parse hp d hd).identifier
    intro c hc
    exact (Text.isIdentifierChar_of_mem hname.isIdentifier hc).isNamePoint

private theorem isFileName_append {stem ending : String} (hstem : Text.NamesFile stem.toList)
    (hending : Text.NamesFile ending.toList) (hlong : 2 < ending.toList.length) :
    Files.IsFileName (stem ++ ending) := by
  have hall : Text.NamesFile (stem ++ ending).toList := by
    rw [String.toList_append]
    exact Text.namesFile_append.mpr ⟨hstem, hending⟩
  have hne {name : String} (hn : name.toList.length ≤ 2) : stem ++ ending ≠ name := by
    rintro rfl
    rw [String.toList_append, List.length_append] at hn
    omega
  exact ⟨hall.not_mem.1, hall.not_mem.2, hne (by decide), hne (by decide), hne (by decide)⟩

/-- In every language the accessor of a type has a file name, if the name of the type can stand in
one. -/
theorem isFileName_fileName (target : Language) {identifier : String}
    (h : Text.NamesFile identifier.toList) : Files.IsFileName (target.fileName identifier) := by
  cases target with
  | csharp =>
    have hending : Text.NamesFile ".Indexer.generated.cs".toList := by decide
    exact isFileName_append h hending (by decide)
  | python =>
    have hending : Text.NamesFile "_indexer.py".toList := by decide
    exact isFileName_append (Text.namesFile_snakeCase h) hending (by decide)

/-! ## How the command ends -/

/-- How the command for accessors ends: it refuses its input, or it is stopped, or it writes the
accessors of all candidates, which have different file names. -/
inductive GenEnds (read : Files.Path → Except Files.FileError ByteArray)
    (language input output : String) (support module : Option String) (workers : Option Int) :
    Ending → Prop where
  /-- It prints a reason and fails. -/
  | refuses (text : String) : GenEnds read language input output support module workers
      (.answer 1 text)
  /-- It is stopped. -/
  | stops (c : Crash) : GenEnds read language input output support module workers (.crash c)
  /-- It writes the accessors. -/
  | writes {target : Language} {declarations : List Declaration} {accessors : List Accessor}
      (hlanguage : Language.ofName? language = some target)
      (hload : load read input module = .ok declarations)
      (hall : (generateAll declarations target.name workers
        (targetOptions target support)).result = .ok accessors)
      (hnodup : (accessors.map (·.fileName)).Nodup) :
      GenEnds read language input output support module workers
        (.write (.ofString output) (accessors.map fun a => (a.fileName, a.source)) "")

section

variable {read : Files.Path → Except Files.FileError ByteArray} {language input output : String}
  {support module : Option String} {workers : Option Int}

/-- An input that gives no declarations is refused or stops the command. -/
theorem LoadError.ending_cases (e : LoadError) (input : String) :
    (∃ text, e.ending input = .answer 1 text) ∨ ∃ c, e.ending input = .crash c := by
  cases e with
  | file e => exact Or.inr ⟨_, rfl⟩
  | schema e => exact Or.inl ⟨_, rfl⟩
  | script e =>
    cases e with
    | unwritable e => exact Or.inr ⟨_, rfl⟩
    | source e =>
      cases e <;> first | exact Or.inl ⟨_, rfl⟩ | exact Or.inr ⟨_, rfl⟩

private theorem genEnds_ending (e : LoadError) :
    GenEnds read language input output support module workers (e.ending input) := by
  rcases e.ending_cases input with ⟨text, he⟩ | ⟨c, he⟩
  · rw [he]
    exact .refuses _
  · rw [he]
    exact .stops _

/-- If there are accessors for all candidates, with different file names, they are written. -/
theorem ending_of_generateAll {target : Language} {declarations : List Declaration}
    {accessors : List Accessor} (hlanguage : Language.ofName? language = some target)
    (hload : load read input module = .ok declarations)
    (hall : (generateAll declarations target.name workers
      (targetOptions target support)).result = .ok accessors)
    (hnodup : (accessors.map (·.fileName)).Nodup) :
    ((Command.gen language input output support module workers).plan read).ending =
      .write (.ofString output) (accessors.map fun a => (a.fileName, a.source)) "" := by
  simp only [Command.plan, hlanguage, hload, genPlan, hall, fileClashes_eq_nil_iff.mpr hnodup,
    List.isEmpty_nil, if_true]

/-- The command for accessors ends in one of these ways. -/
theorem genEnds_plan : GenEnds read language input output support module workers
    ((Command.gen language input output support module workers).plan read).ending := by
  rw [Command.plan]
  split
  · exact .refuses _
  · next target hlanguage =>
    split
    · exact genEnds_ending _
    · next declarations hload =>
      simp only [genPlan]
      split
      · exact .refuses _
      · next accessors hall =>
        split
        · next hclashes =>
          rw [List.isEmpty_iff] at hclashes
          exact .writes hlanguage hload hall (fileClashes_eq_nil_iff.mp hclashes)
        · exact .refuses _

end

/-! ## Carrying out a plan -/

variable {working : Place}

/-- Nothing stands in the way of the files that a plan writes: once their directory has been made,
none of them has the path of a directory. -/
def Plan.Unobstructed (p : Plan) (t : Files.Tree working) : Prop :=
  ∀ directory files text made, p.ending = .write directory files text →
    t.makeDirectories directory = (made, none) →
      ∀ file ∈ files, made.leadsToDirectory (directory.join (.ofString file.1)) = false

section

variable {p : Plan} {t after : Files.Tree working} {verbose : Bool} {report : Report}

/-- A plan that ends in an answer changes nothing and has the exit code of the answer. -/
theorem carryOut_answer {code : Nat} {text : String} (hp : p.ending = .answer code text)
    (h : p.carryOut verbose t = (report, after)) : report.exitCode = code ∧ after = t := by
  rw [Plan.carryOut, hp] at h
  cases h
  exact ⟨rfl, rfl⟩

/-- A plan that is stopped changes nothing and fails. -/
theorem carryOut_crash {c : Crash} (hp : p.ending = .crash c)
    (h : p.carryOut verbose t = (report, after)) : report.exitCode = 1 ∧ after = t := by
  rw [Plan.carryOut, hp] at h
  cases h
  exact ⟨rfl, rfl⟩

/-- A plan that writes files of different names, with nothing in their way, fails without a change
of the files or leaves all of them in its directory. -/
theorem carryOut_write {directory : Files.Path} {files : List (String × String)} {text : String}
    (hp : p.ending = .write directory files text) (hfree : p.Unobstructed t)
    (hnames : ∀ file ∈ files, Files.IsFileName file.1) (hnodup : (files.map (·.1)).Nodup)
    (h : p.carryOut verbose t = (report, after)) :
    (report.exitCode = 1 ∧ after.files = t.files) ∨
      (report.exitCode = 0 ∧ report.crash = none ∧
        ∃ (place : Place) (made : Files.Tree working), after.place directory = .ok place ∧
        after.hasDirectory place = true ∧
          made.files = t.files ∧
          Files.Overlaid place (files.map fun file => (file.1, file.2.toUTF8)) made after) := by
  simp only [Plan.carryOut, hp] at h
  split at h
  · next made e hmade =>
    cases h
    exact Or.inl ⟨rfl, Files.Tree.files_of_makeDirectories hmade⟩
  · next made hmade =>
    obtain ⟨place, hplace, hdirectory⟩ :=
      Files.Tree.leadsToDirectory_iff.mp (Files.Tree.leadsToDirectory_of_makeDirectories hmade)
    have hcontents : ∀ file ∈ files.map fun file => (file.1, file.2.toUTF8),
        Files.IsFileName file.1 ∧ made.leadsToDirectory (directory.join (.ofString file.1)) =
          false := by
      intro file hf
      obtain ⟨source, hs, rfl⟩ := List.mem_map.mp hf
      exact ⟨hnames source hs, hfree directory files text made hp hmade source hs⟩
    have hdistinct : ((files.map fun file => (file.1, file.2.toUTF8)).map (·.1)).Nodup := by
      rw [List.map_map]
      exact hnodup
    obtain ⟨written, hwritten, ho⟩ := Files.Tree.writeAll_overlaid hplace hdirectory
      (fun file hf => (hcontents file hf).1) hdistinct fun file hf => (hcontents file hf).2
    rw [hwritten] at h
    cases h
    have hsame : ∀ q, made.hasDirectory q = true → after.hasDirectory q = true := by
      intro q hq
      rwa [Files.Tree.hasDirectory, ho.directories]
    exact Or.inr ⟨rfl, rfl, place, made, Files.Tree.place_of_directories hsame hplace,
      hsame place hdirectory, Files.Tree.files_of_makeDirectories hmade, ho⟩

end

/-! ## The command as a whole -/

section

variable {language input output : String} {support module : Option String} {workers : Option Int}
  {t : Files.Tree working}

/-- The file names of the accessors that are generated for an input are names of files. -/
theorem isFileName_of_generateAll {read : Files.Path → Except Files.FileError ByteArray}
    {target : Language} {declarations : List Declaration}
    {accessors : List Accessor} {options : List (String × String)}
    (hload : load read input module = .ok declarations)
    (hall : (generateAll declarations target.name workers options).result = .ok accessors) :
    ∀ a ∈ accessors, Files.IsFileName a.fileName := by
  intro a ha
  obtain ⟨d, hd, he⟩ := exists_fileName_of_generateAll target.find_name hall ha
  rw [he]
  exact isFileName_fileName target (namesFile_of_load hload d (List.mem_filter.mp hd).1)

/-- Nothing stands in the way if there is no directory at the places of the files, and the path of
the output is followed downwards only. -/
theorem gen_unobstructed (hn : ".." ∉ (Files.Path.ofString output).parts)
    (hfree : ∀ target declarations, Language.ofName? language = some target →
      load t.read input module = .ok declarations → ∀ d ∈ candidates declarations,
        t.hasDirectory ((Files.Path.ofString output).start working ++
          (Files.Path.ofString output).parts ++ [target.fileName d.identifier]) = false) :
    ((Command.gen language input output support module workers).plan t.read).Unobstructed t := by
  intro directory files text made hp hmade file hf
  have hends : GenEnds t.read language input output support module workers _ := genEnds_plan
  rw [hp] at hends
  cases hends with
  | @writes target declarations accessors hlanguage hload hall hnodup =>
    obtain ⟨a, ha, rfl⟩ := List.mem_map.mp hf
    refine Files.leadsToDirectory_join_of_makeDirectories hn hmade
      (isFileName_of_generateAll hload hall a ha) ?_
    obtain ⟨d, hd, he⟩ := exists_fileName_of_generateAll target.find_name hall ha
    rw [he]
    exact hfree target declarations hlanguage hload d hd

end

/-- What generating leaves behind: in one directory the accessors of the candidates, and everywhere
else what was there before. -/
structure Generates (target : Language) (support : Option String) (declarations : List Declaration)
    (accessors : List Accessor) (place : Place) (t after : Files.Tree working) : Prop where
  /-- There is one accessor for each candidate: the one that this declaration gives alone. -/
  each : List.Forall₂
    (fun d a => (generate d target.name (targetOptions target support)).result = .ok a)
    (candidates declarations) accessors
  /-- Their files lie directly in the directory. -/
  names : ∀ a ∈ accessors, Files.IsFileName a.fileName
  /-- No two of them have the same file. -/
  distinct : (accessors.map (·.fileName)).Nodup
  /-- Each file holds the text of its accessor. -/
  own : ∀ a ∈ accessors, after.file? (place ++ [a.fileName]) = some a.source.toUTF8
  /-- All other files are as they were. -/
  other : ∀ q, (∀ a ∈ accessors, q ≠ place ++ [a.fileName]) → after.file? q = t.file? q

/-- Accessors whose files overlay those of a tree are left behind in this way. -/
theorem generates_of_overlaid {target : Language} {support : Option String}
    {declarations : List Declaration} {accessors : List Accessor} {place : Place}
    {t made after : Files.Tree working} (heach : List.Forall₂
      (fun d a => (generate d target.name (targetOptions target support)).result = .ok a)
      (candidates declarations) accessors)
    (hnames : ∀ a ∈ accessors, Files.IsFileName a.fileName)
    (hnodup : (accessors.map (·.fileName)).Nodup) (hfiles : made.files = t.files)
    (ho : Files.Overlaid place
      ((accessors.map fun a => (a.fileName, a.source)).map fun file => (file.1, file.2.toUTF8))
      made after) : Generates target support declarations accessors place t after where
  each := heach
  names := hnames
  distinct := hnodup
  own a ha := ho.own (a.fileName, a.source.toUTF8)
    (List.mem_map_of_mem (f := fun file : String × String => (file.1, file.2.toUTF8))
      (List.mem_map_of_mem (f := fun a : Accessor => (a.fileName, a.source)) ha))
  other q hq := by
    have hkept : after.file? q = made.file? q := by
      refine ho.other q ?_
      rw [List.map_map]
      exact List.forall_mem_map.mpr hq
    rw [hkept, Files.Tree.file?, hfiles, Files.Tree.file?]

/-- With nothing in its way, generating fails and leaves all files, or it succeeds and has written
the accessors of all candidates. -/
theorem carryOut_gen {language input output : String} {support module : Option String}
    {workers : Option Int} {verbose : Bool} {t after : Files.Tree working} {report : Report}
    (hfree :
      ((Command.gen language input output support module workers).plan t.read).Unobstructed t)
    (h : ((Command.gen language input output support module workers).plan t.read).carryOut
      verbose t = (report, after)) :
    (report.exitCode ≠ 0 ∧ after.files = t.files) ∨
      ((report.exitCode = 0 ∧ report.crash = none) ∧ ∃ target declarations accessors place,
        Language.ofName? language = some target ∧ load t.read input module = .ok declarations ∧
        after.place (.ofString output) = .ok place ∧ after.hasDirectory place = true ∧
        Generates target support declarations accessors place t after) := by
  have hends : GenEnds t.read language input output support module workers _ := genEnds_plan
  generalize hp : ((Command.gen language input output support module workers).plan t.read).ending =
    ending at hends
  cases hends with
  | refuses text =>
    obtain ⟨hcode, rfl⟩ := carryOut_answer hp h
    exact .inl ⟨by omega, rfl⟩
  | stops c =>
    obtain ⟨hcode, rfl⟩ := carryOut_crash hp h
    exact .inl ⟨by omega, rfl⟩
  | @writes target declarations accessors hlanguage hload hall hnodup =>
    have hnames := isFileName_of_generateAll hload hall
    have hwrite := carryOut_write hp hfree (List.forall_mem_map.mpr hnames)
      (by rw [List.map_map]; exact hnodup) h
    rcases hwrite with ⟨hcode, hsame⟩ | ⟨hcode, hcrash, place, made, hplace, hdirectory, hfiles, ho⟩
    · exact .inl ⟨by omega, hsame⟩
    · exact .inr ⟨⟨hcode, hcrash⟩, target, declarations, accessors, place, hlanguage, hload, hplace,
        hdirectory, generates_of_overlaid (forall₂_of_generateAll hall) hnames hnodup hfiles ho⟩

/-- The command for accessors, with nothing in the way of its files, writes everything or nothing:
if it fails or is stopped, no file has changed, and if it succeeds, the files before are overlaid
with one file for each candidate. -/
theorem gen_writes_all_or_nothing {language input output : String} {support module : Option String}
    {workers : Option Int} {verbose : Bool} {t after : Files.Tree working} {report : Report}
    (hfree :
      ((Command.gen language input output support module workers).plan t.read).Unobstructed t)
    (h : ((Command.gen language input output support module workers).plan t.read).carryOut
      verbose t = (report, after)) :
    (report.exitCode ≠ 0 ∨ report.crash ≠ none → after.files = t.files) ∧
      (report.exitCode = 0 → ∃ target declarations accessors place,
        Language.ofName? language = some target ∧ load t.read input module = .ok declarations ∧
        after.place (.ofString output) = .ok place ∧ after.hasDirectory place = true ∧
        Generates target support declarations accessors place t after) := by
  rcases carryOut_gen hfree h with ⟨hcode, hsame⟩ | ⟨⟨hcode, hcrash⟩, hgenerates⟩
  · exact ⟨fun _ => hsame, fun h0 => absurd h0 hcode⟩
  · refine ⟨fun hfails => absurd hfails ?_, fun _ => hgenerates⟩
    rw [hcode, hcrash]
    simp

/-- A file with one class that has one property. -/
def boxFile : Schema.File :=
  [.type
    { header := ⟨[.augmentable], .cls, "Box"⟩
      parameters := none
      bases := []
      members := [⟨[], .property "Size" (.mk ⟨"int", []⟩ [] [] false) [⟨.get, true⟩]⟩] }]

/-- A tree with this file. -/
def boxTree : Files.Tree ["home", "work"] :=
  ⟨[], [(["home", "work", "box.txt"], boxFile.text.toUTF8)]⟩

/-- Octets that encode a text are decoded to it, if its lines end as they should. -/
theorem decodeText_toUTF8 {text : String} (h : Files.plainLines text.toList = text.toList) :
    Files.decodeText text.toUTF8 = .ok text := by
  have htext : String.fromUTF8? text.toUTF8 = some text := dif_pos text.isValidUTF8
  simp only [Files.decodeText, htext, h, String.ofList_toList]

private theorem load_boxTree :
    load boxTree.read "box.txt" none = .ok (Schema.declarationsFrom none boxFile) := by
  have hm : Schema.meaning boxFile = .ok (Schema.declarationsFrom none boxFile) := rfl
  have hparse := Schema.File.parse_text (f := boxFile)
    ⟨by decide +kernel, (Schema.meaning_eq_ok_iff.mp hm).1⟩
  have hread : boxTree.read (.ofString "box.txt") = .ok boxFile.text.toUTF8 := rfl
  have hdecode : Files.decodeText boxFile.text.toUTF8 = .ok boxFile.text :=
    decodeText_toUTF8 (by decide +kernel)
  have hending : (Files.Path.ofString "box.txt").ending ≠ scriptEnding := by decide
  simp only [load, bind, Except.bind, hread, Except.mapError, hdecode, if_neg hending, hparse]

/-- The accessor of its class. -/
def boxAccessor : Accessor :=
  { identifier := "Box", language := "csharp", fileName := "Box.Indexer.generated.cs"
    source := Companion.render
      { identifier := "Box", header := "class Box", properties := [⟨"Size", "int", true, false⟩] } }

private theorem gen_boxTree_succeeds (verbose : Bool) : ∃ report after,
    ((Command.gen "csharp" "box.txt" "out" none none (some 2)).plan boxTree.read).carryOut verbose
      boxTree = (report, after) ∧ report.exitCode = 0 := by
  have hplan : ((Command.gen "csharp" "box.txt" "out" none none (some 2)).plan
      boxTree.read).ending =
        .write (.ofString "out") [(boxAccessor.fileName, boxAccessor.source)] "" := by
    simp only [Command.plan, load_boxTree]
    rfl
  have hmake : boxTree.makeDirectories (.ofString "out") =
      (boxTree.addDirectory ["home", "work", "out"], none) := rfl
  simp only [Plan.carryOut, hplan, hmake]
  exact ⟨_, _, rfl, rfl⟩

/-- Generating for the box writes the accessor into a new directory. -/
theorem gen_writes_box : ∃ report after,
    ((Command.gen "csharp" "box.txt" "out" none none (some 2)).plan boxTree.read).carryOut false
      boxTree = (report, after) ∧ report.exitCode = 0 ∧
    Generates .csharp none (Schema.declarationsFrom none boxFile) [boxAccessor]
      ["home", "work", "out"] boxTree after := by
  have hfree : ((Command.gen "csharp" "box.txt" "out" none none (some 2)).plan
      boxTree.read).Unobstructed boxTree :=
    gen_unobstructed (by decide) fun _ _ _ _ _ _ => rfl
  obtain ⟨report, after, hrun, hcode⟩ := gen_boxTree_succeeds false
  obtain ⟨target, declarations, accessors, place, hlanguage, hload, hplace, -, hg⟩ :=
    (gen_writes_all_or_nothing hfree hrun).2 hcode
  cases hlanguage
  obtain rfl := Except.ok.inj (load_boxTree.symm.trans hload)
  obtain rfl := Files.Tree.place_eq_append (by decide) hplace
  have heach := hg.each
  have hone : accessors = [boxAccessor] := by
    obtain ⟨a, rest, ha, hrest, rfl⟩ := List.forall₂_cons_left_iff.mp heach
    obtain rfl := List.forall₂_nil_left_iff.mp hrest
    obtain rfl := Except.ok.inj ha
    rfl
  exact ⟨report, after, hrun, hcode, hone ▸ hg⟩

end KeyedAccess.Console
