import KeyedAccess.Proofs.Console.Decoding
import KeyedAccess.Proofs.Console.Generating
import KeyedAccess.Proofs.Duplicates
import KeyedAccess.Proofs.Script.Members

/-!
# What is shown and what is generated

One command lists the candidates of an input for programs, another one writes their accessors. If
both succeed for an input, they speak of the same types: the listing has one entry for each file,
and the text of the file is made of a clause for each member that the entry calls readable and one
for each that it calls writable.
-/

namespace KeyedAccess

/-! ## Generated texts -/

/-- What stands around the clauses of the accessor of a type. -/
def Language.frame (language : Language) (support : Option String) (t : Descriptor) : Frame :=
  match language with
  | .csharp => t.companionFrame
  | .python => t.mixinFrame (support.getD Mixin.defaultSupport)

/-- The accessor of a declaration is made of this frame and of the clauses of its description. -/
theorem source_of_generate {target : Language} {support : Option String} {d : Declaration}
    {a : Accessor}
    (h : (generate d target.name (Console.targetOptions target support)).result = .ok a) :
    a.source.toList = (target.frame support { d.describe with properties := [] }).fill target
      (d.describe.getClauses target.readText) (d.describe.setClauses target.assignText) := by
  cases target with
  | csharp =>
    have hrender : Language.csharp.render (Console.targetOptions .csharp support) d.describe =
      .ok (Companion.render d.describe) := rfl
    have hresult := (generate_of_render hrender).1
    rw [h] at hresult
    cases hresult
    exact toList_companion d.describe
  | python =>
    have hrender : Language.python.render (Console.targetOptions .python support) d.describe =
      .ok (Mixin.render d.describe (support.getD Mixin.defaultSupport)) := rfl
    have hresult := (generate_of_render hrender).1
    rw [h] at hresult
    cases hresult
    exact toList_mixin d.describe _

end KeyedAccess

namespace KeyedAccess.Console

open Files (Place)

/-! ## Scopes -/

private theorem path_text_ne_empty {p : Schema.Path} (h : p.Legible) : p.text ≠ "" := by
  obtain ⟨first, rest, he, -, -⟩ := h p.head List.mem_cons_self
  intro hempty
  have hchars := congrArg String.toList hempty
  rw [Schema.Path.text, String.toList_intercalate, List.map_cons, he] at hchars
  cases htail : p.tail.map String.toList with
  | nil =>
    rw [htail, List.intercalate_singleton] at hchars
    cases hchars
  | cons next others =>
    rw [htail, List.intercalate_cons_cons] at hchars
    cases hchars

/-- The scope of a declaration of an input is none or has a text. -/
theorem properScope_of_load {read : Files.Path → Except Files.FileError ByteArray} {input : String}
    {module : Option String} {declarations : List Declaration}
    (h : load read input module = .ok declarations) :
    ∀ d ∈ declarations, properScope d.scope = d.scope := by
  intro d hd
  rcases parse_of_load h with ⟨text, name, hp⟩ | ⟨text, hp⟩
  · obtain ⟨statements, -, s, -, hs⟩ := Script.exists_declaration_of_parse hp hd
    have hscope : d.scope = properScope (some name) := by
      cases s with
      | «class» decorators name bases named body =>
        obtain ⟨_, _, -, -, rfl⟩ := Script.declaration_eq_ok_iff.mp hs
        rfl
      | _ => cases hs
    rw [hscope, properScope, properScope, Option.filter_filter]
    simp only [Bool.and_self]
  · have hscope := (Schema.wellNamed_of_parse hp d hd).scope
    cases hs : d.scope with
    | none => rfl
    | some scope =>
      obtain ⟨path, hpath, rfl⟩ := hscope scope hs
      have hproper : (path.text != "") = true := bne_iff_ne.mpr (path_text_ne_empty hpath)
      rw [properScope, Option.filter_some, if_pos hproper]

/-! ## Both commands -/

section

variable {working : Place} {t after : Files.Tree working} {verbose : Bool} {report : Report}

/-- If a plan succeeds, nothing has stood in its way. -/
theorem Plan.unobstructed_of_carryOut {p : Plan} (h : p.carryOut verbose t = (report, after))
    (hcode : report.exitCode = 0) : p.Unobstructed t := by
  intro directory files text made hp hmade file hf
  simp only [Plan.carryOut, hp, hmade] at h
  split at h
  · cases h
    cases hcode
  · next written hwritten =>
    exact Files.Tree.leadsToDirectory_of_writeAll hwritten (file.1, file.2.toUTF8)
      (List.mem_map_of_mem (f := fun file : String × String => (file.1, file.2.toUTF8)) hf)

variable {language input output : String} {support module : Option String} {workers : Option Int}

/-- If generating succeeds, it has written the accessors of all candidates. -/
theorem generates_of_carryOut
    (h : ((Command.gen language input output support module workers).plan t.read).carryOut
      verbose t = (report, after)) (hcode : report.exitCode = 0) :
    ∃ target declarations accessors place, Language.ofName? language = some target ∧
      load t.read input module = .ok declarations ∧
      Generates target support declarations accessors place t after := by
  have hfree := Plan.unobstructed_of_carryOut h hcode
  rcases carryOut_gen hfree h with ⟨hfails, -⟩ | ⟨-, target, declarations, accessors, place,
    hlanguage, hload, -, -, hgenerates⟩
  · exact absurd hcode hfails
  · exact ⟨target, declarations, accessors, place, hlanguage, hload, hgenerates⟩

/-- If listing succeeds, the output is the listing of the candidates. -/
theorem output_of_carryOut
    (h : ((Command.info input true module).plan t.read).carryOut verbose t = (report, after))
    (hcode : report.exitCode = 0) : ∃ declarations, load t.read input module = .ok declarations ∧
      report.output = listing ((candidates declarations).map Declaration.describe) := by
  rw [Command.plan] at h
  cases hload : load t.read input module with
  | error e =>
    rw [hload] at h
    rcases e.ending_cases input with ⟨text, he⟩ | ⟨c, he⟩
    · have hfails := (carryOut_answer he h).1
      omega
    · have hfails := (carryOut_crash he h).1
      omega
  | ok declarations =>
    rw [hload] at h
    cases h
    exact ⟨declarations, rfl, rfl⟩

end

/-- An entry of a listing and an accessor that are both about one declaration. -/
structure SameModel (target : Language) (support : Option String) (entry : Datum) (d : Declaration)
    (a : Accessor) (t : Descriptor) : Prop where
  /-- The entry is read as this descriptor. -/
  entry : descriptorOf? entry = some t
  /-- The accessor is generated for the declaration. -/
  accessor : (generate d target.name (targetOptions target support)).result = .ok a
  /-- The name is that of the declaration. -/
  identifier : t.identifier = d.identifier
  /-- So is the introduction. -/
  header : t.header = d.header
  /-- So is the namespace. -/
  scope : t.scope = d.scope
  /-- The members are the eligible ones of the declaration, with their names and types. -/
  members : t.properties = (d.members.filter Member.eligible).map Member.toProperty
  /-- The text of the accessor is made of clauses, in a frame that does not look at the members. -/
  text : a.source.toList = (target.frame support { d.describe with properties := [] }).fill target
    (d.describe.getClauses target.readText) (d.describe.setClauses target.assignText)
  /-- The keys of the clauses that read are the names of the readable members. -/
  reads : (d.describe.getClauses target.readText).map (·.key) = t.readable.map (·.name)
  /-- The keys of the clauses that assign are the names of the writable members. -/
  assigns : (d.describe.setClauses target.assignText).map (·.key) = t.writable.map (·.name)

/-- The entry that is written for a declaration and its accessor are about that declaration. -/
theorem sameModel_of_generate {target : Language} {support : Option String} {d : Declaration}
    {a : Accessor} (hscope : properScope d.scope = d.scope)
    (h : (generate d target.name (targetOptions target support)).result = .ok a) :
    SameModel target support (descriptorDatum d.describe) d a d.describe where
  entry := descriptorOf?_descriptorDatum d.describe
  accessor := h
  identifier := rfl
  header := rfl
  scope := hscope
  members := rfl
  text := source_of_generate h
  reads := by
    rw [Descriptor.getClauses, List.map_map]
    rfl
  assigns := by
    rw [Descriptor.setClauses, List.map_map]
    rfl

/-- If both commands succeed for an input, the output of the one is a list of values with exactly
one entry for each file that the other one has written, in the order of the declarations, and each
entry and the accessor in its file are about the same declaration. -/
theorem info_and_gen_agree {language input output : String} {support module : Option String}
    {workers : Option Int} {verbose loud : Bool} {t unchanged after : Files.Tree working}
    {shown report : Report}
    (hinfo : ((Command.info input true module).plan t.read).carryOut verbose t =
      (shown, unchanged)) (hshown : shown.exitCode = 0)
    (hgen : ((Command.gen language input output support module workers).plan t.read).carryOut
      loud t = (report, after)) (hreport : report.exitCode = 0) :
    ∃ target declarations accessors place entries,
      Language.ofName? language = some target ∧ load t.read input module = .ok declarations ∧
      Generates target support declarations accessors place t after ∧
      decode shown.output = some (.items entries) ∧ entries.length = accessors.length ∧
      ∀ i < accessors.length, ∃ entry d a described, entries[i]? = some entry ∧
        (candidates declarations)[i]? = some d ∧ accessors[i]? = some a ∧
        SameModel target support entry d a described := by
  obtain ⟨declarations, hload, houtput⟩ := output_of_carryOut hinfo hshown
  obtain ⟨target, declarations', accessors, place, hlanguage, hload', hg⟩ :=
    generates_of_carryOut hgen hreport
  obtain rfl := Except.ok.inj (hload.symm.trans hload')
  have hlength : (candidates declarations).length = accessors.length := hg.each.length_eq
  refine ⟨target, declarations, accessors, place,
    ((candidates declarations).map Declaration.describe).map descriptorDatum, hlanguage, hload, hg,
    ?_, ?_, fun i hi => ?_⟩
  · rw [houtput, listing, decode_write _ (by decide) (by decide)]
  · rw [List.length_map, List.length_map, hlength]
  · have hd : i < (candidates declarations).length := hlength ▸ hi
    have hcandidate : (candidates declarations)[i] ∈ declarations :=
      (List.mem_filter.mp (List.getElem_mem hd)).1
    have hmodel := sameModel_of_generate (properScope_of_load hload _ hcandidate)
      (List.Forall₂.get hg.each hd hi)
    refine ⟨_, (candidates declarations)[i], accessors[i], _, ?_, List.getElem?_eq_getElem hd,
      List.getElem?_eq_getElem hi, hmodel⟩
    rw [List.getElem?_map, List.getElem?_map, List.getElem?_eq_getElem hd]
    rfl

/-! ### A source with two marked classes -/

/-- A class source with two marked classes, whose first one has a property of a type beyond ASCII
that can only be read. -/
def shelfSource : String :=
  "@indexed\nclass Shelf:\n    title: str\n" ++
  "    @property\n    def mark(self) -> 'é𠮷': pass\n" ++
  "class Spare: pass\n" ++
  "@indexed\nclass Crate:\n    size: int\n"

/-- The type of this property, as an expression. -/
def markType : Script.Expr := .constant (.text [0xe9, 0x20bb7] false)

/-- The property itself. -/
def markFunction : Script.Statement :=
  .function false [.name "property"] "mark" [.mk .either (some "self") none none] (some markType)
    [.pass]

/-- The statements of this source. -/
def shelfStatements : List Script.Statement := [
  .class [.name "indexed"] "Shelf" [] []
    [.declare (.name "title") (.name "str") none, markFunction],
  .class [] "Spare" [] [] [.pass],
  .class [.name "indexed"] "Crate" [] [] [.declare (.name "size") (.name "int") none]]

/-- Whether these are the statements of this source, which is read by matching since nested trees
have no decidable equality. -/
def isShelf : List Script.Statement → Bool
  | [.class [.name "indexed"] "Shelf" [] [] [.declare (.name "title") (.name "str") none,
      .function false [.name "property"] "mark" [.mk .either (some "self") none none]
        (some (.constant (.text [0xe9, 0x20bb7] false))) [.pass]],
    .class [] "Spare" [] [] [.pass],
    .class [.name "indexed"] "Crate" [] [] [.declare (.name "size") (.name "int") none]] => true
  | _ => false

private theorem eq_shelfStatements {statements : List Script.Statement}
    (h : isShelf statements = true) :
    statements = shelfStatements := by
  unfold isShelf at h
  split at h
  · rfl
  · cases h

/-- The first marked class of this source. -/
def shelf : Declaration :=
  { identifier := "Shelf", scope := some "shelf", augmentable := true
    members := [{ name := "title", type := "str" },
      { name := "mark", type := "'é𠮷'", setter := none }] }

/-- The second one. -/
def crate : Declaration :=
  { identifier := "Crate", scope := some "shelf", augmentable := true
    members := [{ name := "size", type := "int" }] }

/-- The class between them. -/
def spare : Declaration := { identifier := "Spare", scope := some "shelf" }

private theorem readModule_shelfSource :
    Script.readModule shelfSource.toList = .ok shelfStatements := by
  have hread : (Script.readModule shelfSource.toList).toOption.any isShelf = true := by
    decide +kernel
  cases hstatements : (Script.readModule shelfSource.toList).toOption with
  | none =>
    rw [hstatements] at hread
    cases hread
  | some statements =>
    rw [hstatements, Option.any_some] at hread
    exact eq_ok_of_toOption (hstatements.trans (congrArg some (eq_shelfStatements hread)))

private theorem text_markType : markType.text = .ok "'é𠮷'" := by
  have hprinted : ∀ point ∈ [0xe9, 0x20bb7], Text.isPrintablePoint point = true := by
    intro point hpoint
    rw [Text.isPrintablePoint, Text.checkedSets.unprintable point hpoint]
    revert hpoint
    revert point
    decide
  have hshown : Text.shownPoints [0xe9, 0x20bb7] = "'é𠮷'".toList := by
    simp [Text.shownPoints, Text.preferredQuote, Text.shownPoint, hprinted]
  have hwritten : markType.text = .ok (String.ofList (Text.shownPoints [0xe9, 0x20bb7])) := rfl
  rw [hwritten, hshown, String.ofList_toList]

private theorem meaning_shelfStatements :
    Script.meaning (some "shelf") shelfStatements = .ok [shelf, spare, crate] := by
  have hfunction : markFunction.contributions false =
      .ok [.defines (Script.readMember "mark" "'é𠮷'")] := by
    have htype : markFunction.contributions false =
      markType.text.map fun type => [.defines (Script.readMember "mark" type)] := rfl
    rw [htype, text_markType]
    rfl
  have hmembers : Script.membersOf false
      [.declare (.name "title") (.name "str") none, markFunction] = .ok shelf.members := by
    rw [Script.membersOf, List.mapM_cons, List.mapM_cons, hfunction]
    rfl
  have hshelf : Script.Statement.declaration (some "shelf") (.class [.name "indexed"] "Shelf" [] []
      [.declare (.name "title") (.name "str") none, markFunction]) = .ok (some shelf) := by
    rw [Script.Statement.declaration]
    have hfreezes : ([Script.Expr.name "indexed"].any Script.Expr.freezes) = false := rfl
    rw [hfreezes, hmembers]
    rfl
  rw [Script.meaning, shelfStatements, List.mapM_cons, hshelf]
  rfl

/-- A class source is read, decoded and parsed, in a module that is named after the file. -/
theorem load_of_script {read : Files.Path → Except Files.FileError ByteArray} {input text : String}
    {contents : ByteArray} (hread : read (.ofString input) = .ok contents)
    (hdecode : Files.decodeText contents = .ok text)
    (hending : (Files.Path.ofString input).ending = scriptEnding) :
    load read input none =
      (Script.parse text (some (Files.Path.ofString input).stem)).mapError .script := by
  simp only [load, bind, Except.bind, hread, Except.mapError, hdecode, if_pos hending, properScope,
    Option.filter_none, Option.getD_none]

/-- A tree with this source, for a program that runs beside it. -/
def shelfTree : Files.Tree ["home", "work"] :=
  ⟨[["home", "data"]], [(["home", "data", "shelf.py"], shelfSource.toUTF8)]⟩

private theorem load_shelfTree :
    load shelfTree.read "../data/shelf.py" none = .ok [shelf, spare, crate] := by
  have hread : shelfTree.read (.ofString "../data/shelf.py") = .ok shelfSource.toUTF8 := rfl
  have hdecode : Files.decodeText shelfSource.toUTF8 = .ok shelfSource :=
    decodeText_toUTF8 (by decide +kernel)
  have hparse : Script.parse shelfSource (some "shelf") = .ok [shelf, spare, crate] := by
    rw [Script.parse, readModule_shelfSource]
    exact congrArg (·.mapError Script.ParseError.unwritable) meaning_shelfStatements
  have hstem : (Files.Path.ofString "../data/shelf.py").stem = "shelf" := by decide
  rw [load_of_script hread hdecode (by decide), hstem, hparse, Except.mapError]

/-- The mixin that is generated for a class. -/
def mixinOf (d : Declaration) : Accessor :=
  ⟨d.identifier, Language.python.name, Language.python.fileName d.identifier,
    Mixin.render d.describe Mixin.defaultSupport⟩

/-- Both commands succeed for this source. The listing has an entry for each marked class, in the
order of the source, and each of them agrees with the mixin that is written for the class. -/
theorem info_and_gen_agree_shelf : ∃ shown unchanged report after,
    ((Command.info "../data/shelf.py" true none).plan shelfTree.read).carryOut false shelfTree =
      (shown, unchanged) ∧ shown.exitCode = 0 ∧
    ((Command.gen "python" "../data/shelf.py" "../out" none none (some 2)).plan
      shelfTree.read).carryOut true shelfTree = (report, after) ∧ report.exitCode = 0 ∧
    ∃ first second a b t u place, decode shown.output = some (.items [first, second]) ∧
      SameModel .python none first shelf a t ∧ SameModel .python none second crate b u ∧
      t.properties = [⟨"title", "str", true, true⟩, ⟨"mark", "'é𠮷'", true, false⟩] ∧
      u.properties = [⟨"size", "int", true, true⟩] ∧
      after.file? (place ++ [a.fileName]) = some a.source.toUTF8 ∧
      after.file? (place ++ [b.fileName]) = some b.source.toUTF8 := by
  obtain ⟨shown, unchanged, hinfo, hshown⟩ : ∃ shown unchanged,
      ((Command.info "../data/shelf.py" true none).plan shelfTree.read).carryOut false shelfTree =
        (shown, unchanged) ∧ shown.exitCode = 0 := by
    rw [Command.plan, load_shelfTree]
    exact ⟨_, _, rfl, rfl⟩
  obtain ⟨report, after, hgen, hreport⟩ : ∃ report after,
      ((Command.gen "python" "../data/shelf.py" "../out" none none (some 2)).plan
        shelfTree.read).carryOut true shelfTree = (report, after) ∧ report.exitCode = 0 := by
    have hall : (generateAll [shelf, spare, crate] Language.python.name (some 2)
        (targetOptions .python none)).result = .ok [mixinOf shelf, mixinOf crate] := rfl
    have hlanguage : Language.ofName? "python" = some .python := rfl
    have hending : ((Command.gen "python" "../data/shelf.py" "../out" none none (some 2)).plan
        shelfTree.read).ending = .write (.ofString "../out") _ "" :=
      ending_of_generateAll hlanguage load_shelfTree hall (by decide +kernel)
    have hmake : shelfTree.makeDirectories (.ofString "../out") =
        (shelfTree.addDirectory ["home", "out"], none) := rfl
    rw [Plan.carryOut, hending]
    dsimp only
    rw [hmake]
    exact ⟨_, _, rfl, rfl⟩
  refine ⟨shown, unchanged, report, after, hinfo, hshown, hgen, hreport, ?_⟩
  obtain ⟨target, declarations, accessors, place, entries, hlanguage, hload, hg, hdecode, hlength,
    hsame⟩ := info_and_gen_agree hinfo hshown hgen hreport
  cases hlanguage
  obtain rfl := Except.ok.inj (load_shelfTree.symm.trans hload)
  have heach : List.Forall₂ _ [shelf, crate] accessors := hg.each
  obtain ⟨a, others, -, hothers, rfl⟩ := List.forall₂_cons_left_iff.mp heach
  obtain ⟨b, rest, -, hnone, rfl⟩ := List.forall₂_cons_left_iff.mp hothers
  obtain rfl := List.forall₂_nil_left_iff.mp hnone
  obtain ⟨first, second, rfl⟩ := List.length_eq_two.mp hlength
  obtain ⟨_, _, _, t, hentry, hd, ha, hfirst⟩ := hsame 0 Nat.zero_lt_two
  cases hentry
  cases hd
  cases ha
  obtain ⟨_, _, _, u, hentry, hd, ha, hsecond⟩ := hsame 1 Nat.one_lt_two
  cases hentry
  cases hd
  cases ha
  exact ⟨first, second, a, b, t, u, place, hdecode, hfirst, hsecond, hfirst.members,
    hsecond.members, hg.own a List.mem_cons_self,
    hg.own b (List.mem_cons_of_mem _ List.mem_cons_self)⟩

end KeyedAccess.Console
