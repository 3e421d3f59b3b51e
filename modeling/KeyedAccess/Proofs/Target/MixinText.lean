import KeyedAccess.Access.Compiled
import KeyedAccess.Proofs.Script.Written
import KeyedAccess.Proofs.Target.Clause

/-!
# The text of a mixin

Where the names of a descriptor are identifiers, the text of its mixin is one of written lines: the
names stand in it as they are, and the keys and types stand between quotes. The lexer cuts it into
the tokens that are stated here.
-/

namespace KeyedAccess.Mixin

open Script Text

/-- A descriptor whose texts may stand in a mixin as they are. -/
structure Named (t : Descriptor) : Prop where
  /-- The name of the type is an identifier. -/
  identifier : isIdentifier t.identifier.toList = true
  /-- The scope joins identifiers by dots. -/
  scope : ∀ scope ∈ t.scope, ∀ c ∈ scope.toList, IsIdentifierChar c ∨ c = '.'
  /-- The names that can be read are identifiers. -/
  readable : ∀ p ∈ t.readable, isIdentifier p.name.toList = true
  /-- So are the names that can be written. -/
  writable : ∀ p ∈ t.writable, isIdentifier p.name.toList = true

/-- A character that may stand in a remark as it is. -/
def InRemark (c : Char) : Prop := c ≠ '"' ∧ c ≠ '\\' ∧ IsKept c

instance (c : Char) : Decidable (InRemark c) := by
  unfold InRemark
  infer_instance

/-- A descriptor whose scope may stand in a remark as it is, and whose other names are
identifiers. -/
structure Spelled (t : Descriptor) : Prop where
  /-- The name of the type is an identifier. -/
  identifier : isIdentifier t.identifier.toList = true
  /-- The scope ends no remark. -/
  scope : ∀ scope ∈ t.scope, ∀ c ∈ scope.toList, InRemark c
  /-- The names that can be read are identifiers. -/
  readable : ∀ p ∈ t.readable, isIdentifier p.name.toList = true
  /-- So are the names that can be written. -/
  writable : ∀ p ∈ t.writable, isIdentifier p.name.toList = true

/-- The characters of identifiers may stand in a remark. -/
theorem inRemark_of_isIdentifierChar {c : Char} (h : IsIdentifierChar c) : InRemark c := by
  have hw := isWordChar_of_isIdentifierChar h
  refine ⟨?_, ?_, isKept_of_isIdentifierChar h⟩
  · rintro rfl
    exact absurd hw (by decide)
  · rintro rfl
    exact absurd hw (by decide)

/-- A scope that joins identifiers by dots may stand in a remark. -/
theorem Named.spelled {t : Descriptor} (ht : Named t) : Spelled t where
  identifier := ht.identifier
  scope scope hs c hc := by
    rcases ht.scope scope hs c hc with hc | rfl
    · exact inRemark_of_isIdentifierChar hc
    · decide
  readable := ht.readable
  writable := ht.writable

/-- A text between double quotes. -/
def literal (text : String) : Lexeme := .quotation (text.toList.flatMap asciiEscape)

/-- The line that begins a case. -/
def caseLine (key : Lexeme) : Line :=
  ⟨12, .name "case".toList, [⟨true, key⟩, ⟨false, .op ":"⟩]⟩

/-- The line that reads a property. -/
def readLine (name : String) : Line :=
  ⟨16, .word "return", [⟨true, .name "self".toList⟩, ⟨false, .op "."⟩, ⟨false, .ofName name⟩]⟩

/-- The line that assigns a property. -/
def writeLine (name type : String) : Line :=
  ⟨16, .name "self".toList, [⟨false, .op "."⟩, ⟨false, .ofName name⟩, ⟨true, .op "="⟩,
    ⟨true, .name "cast".toList⟩, ⟨false, .op "("⟩, ⟨false, literal type⟩, ⟨false, .op ","⟩,
    ⟨true, .name "value".toList⟩, ⟨false, .op ")"⟩]⟩

/-- The line that raises the error. -/
def raiseLine : Line :=
  ⟨16, .word "raise", [⟨true, .name "OutOfRangeError".toList⟩, ⟨false, .op "("⟩,
    ⟨false, .name "name".toList⟩, ⟨false, .op ")"⟩]⟩

/-- A literal text is sound. -/
theorem sound_literal (text : String) : (literal text).Sound := by
  refine ⟨enclosed_flatMap_asciiEscape _, fun d hd => ?_⟩
  obtain ⟨c, -, hd⟩ := List.mem_flatMap.mp hd
  obtain ⟨hlow, -⟩ := isPlain_of_mem_asciiEscape hd
  refine ⟨by omega, ?_⟩
  rintro rfl
  exact absurd hlow (by decide)

private theorem sound_caseLine (key : String) : (caseLine (literal key)).Sound := by
  refine ⟨⟨?_, ?_, sound_literal key, ?_, fits_of_check (by decide)⟩, rfl⟩
  · exact ⟨by decide, by decide⟩
  · exact (by decide : (Lexeme.name "case".toList).EndsBefore ' ')
  · exact (by decide : ':' ≠ '"')

private theorem sound_readLine {name : String} (h : isIdentifier name.toList = true) :
    (readLine name).Sound := by
  have hname : isIdentifier (Lexeme.ofName name).chars = true := by rwa [Lexeme.chars_ofName]
  refine ⟨⟨?_, ?_, ?_, ?_, ?_, endsBefore_name _ hname _, Lexeme.sound_ofName h, ?_, trivial⟩, ?_⟩
  · exact (by decide : "return" ∈ reservedWords)
  · exact (by decide : (Lexeme.word "return").EndsBefore ' ')
  · exact ⟨by decide, by decide⟩
  · exact (by decide : (Lexeme.name "self".toList).EndsBefore '.')
  · exact (by decide : "." ∈ operators)
  · exact Lexeme.endsBefore_ofName name (by decide)
  · rw [readLine]
    rcases Lexeme.ofName_eq name with he | he <;> rw [he] <;> rfl

private theorem sound_writeLine {name : String} (h : isIdentifier name.toList = true)
    (type : String) :
    (writeLine name type).Sound := by
  have hname : isIdentifier (Lexeme.ofName name).chars = true := by rwa [Lexeme.chars_ofName]
  refine ⟨⟨?_, ?_, ?_, endsBefore_name _ hname _, Lexeme.sound_ofName h, ?_, ?_, ?_, ?_, ?_, ?_, ?_,
    sound_literal type, ?_, fits_of_check (by decide)⟩, ?_⟩
  · exact ⟨by decide, by decide⟩
  · exact (by decide : (Lexeme.name "self".toList).EndsBefore '.')
  · exact (by decide : "." ∈ operators)
  · exact Lexeme.endsBefore_ofName name (by decide : isWordChar ' ' = false ∧ isQuote ' ' = false)
  · exact (by decide : "=" ∈ operators)
  · exact (by decide : (Lexeme.op "=").EndsBefore ' ')
  · exact ⟨by decide, by decide⟩
  · exact (by decide : (Lexeme.name "cast".toList).EndsBefore '(')
  · exact (by decide : "(" ∈ operators)
  · exact (by decide : (Lexeme.op "(").EndsBefore '"')
  · exact (by decide : ',' ≠ '"')
  · rw [writeLine]
    rcases Lexeme.ofName_eq name with he | he <;> rw [he] <;> rfl

private theorem sound_raiseLine : raiseLine.Sound := ⟨fits_of_check (by decide), rfl⟩

/-- A case of a method: its key and the line of its block. -/
structure WrittenCase where
  /-- The key. -/
  key : String
  /-- The line. -/
  body : Line

/-- How a case is written. -/
def WrittenCase.chars (c : WrittenCase) : List Char :=
  (caseLine (literal c.key)).chars ++ c.body.chars

/-- The tokens of a case up to the end of its line. -/
def WrittenCase.tokens (c : WrittenCase) : List Token :=
  (caseLine (literal c.key)).tokens ++ .indent :: c.body.tokens

/-- The wildcard. -/
def wildcard : Lexeme := .name ['_']

/-- The text of the last case. -/
def defaultChars : List Char := (caseLine wildcard).chars ++ raiseLine.chars

/-- The tokens of the last case up to the end of its line. -/
def defaultTokens : List Token := (caseLine wildcard).tokens ++ .indent :: raiseLine.tokens

/-- The blocks around the body of a case. -/
def caseBlocks : List (Nat × Nat) := [(16, 16), (12, 12), (8, 8), (4, 4)]

/-- The tokens of cases and of the last one, up to the end of its line. -/
def casesTokens (cases : List WrittenCase) : List Token :=
  (cases.flatMap fun c => c.tokens ++ [.dedent]) ++ defaultTokens

/-- Cases are cut into their tokens, one after the other. -/
theorem cutInto_cases {cases : List WrittenCase}
    (h : ∀ c ∈ cases, c.body.Sound ∧ c.body.indent = 16) {blocks : List (Nat × Nat)}
    {opening : List Token}
    (hp : placeLine (12, 12) blocks = .ok (opening, [(12, 12), (8, 8), (4, 4)])) :
    CutInto blocks (cases.flatMap WrittenCase.chars ++ defaultChars)
      (opening ++ casesTokens cases) caseBlocks := by
  have hdeeper : placeLine (16, 16) [(12, 12), (8, 8), (4, 4)] = .ok ([.indent], caseBlocks) := rfl
  induction cases generalizing blocks opening with
  | nil =>
    have hcase : (caseLine wildcard).Sound := ⟨fits_of_check (by decide), rfl⟩
    have hboth := (hcase.cutInto hp).append (sound_raiseLine.cutInto hdeeper)
    rw [List.append_assoc] at hboth
    exact hboth
  | cons c cases ih =>
    obtain ⟨hbody, hindent⟩ := h c List.mem_cons_self
    have hfirst := ((sound_caseLine c.key).cutInto hp).append
      (hbody.cutInto (by rw [hindent]; exact hdeeper))
    have hback : placeLine (12, 12) caseBlocks =
        .ok ([.dedent], [(12, 12), (8, 8), (4, 4)]) := rfl
    have hrest := ih (fun d hd => h d (List.mem_cons_of_mem _ hd)) hback
    have hall := hfirst.append hrest
    simpa only [casesTokens, WrittenCase.chars, WrittenCase.tokens, List.flatMap_cons,
      List.append_assoc, List.cons_append, List.nil_append] using hall

/-- A literal is written by printed characters. -/
theorem isPlain_of_mem_asciiQuoted {text : String} {c : Char} (h : c ∈ (asciiQuoted text).toList) :
    IsPlain c := by
  rw [asciiQuoted, String.toList_ofList] at h
  rcases List.mem_cons.mp h with rfl | h
  · exact ⟨by decide, by decide⟩
  · rcases List.mem_append.mp h with h | h
    · obtain ⟨d, -, hd⟩ := List.mem_flatMap.mp h
      exact isPlain_of_mem_asciiEscape hd
    · obtain rfl := List.mem_singleton.mp h
      exact ⟨by decide, by decide⟩

/-- So it has no line end. -/
theorem not_isLineBoundary_of_mem_asciiQuoted {text : String} {c : Char}
    (h : c ∈ (asciiQuoted text).toList) : isLineBoundary c = false := by
  obtain ⟨hlow, hhigh⟩ := isPlain_of_mem_asciiQuoted h
  refine Bool.eq_false_iff.mpr fun hb => ?_
  rcases eq_of_isLineBoundary hb with hb | hb
  · omega
  · simp only [wideBoundaries, List.mem_cons, List.not_mem_nil, or_false] at hb
    omega

private theorem indentChars_case (key : String) {line : List Char}
    (h : ∀ c ∈ line, isLineBoundary c = false) (hb : line.all isBlank = false) :
    indentChars (spaces 12).toList
        ("case ".toList ++ (asciiQuoted key).toList ++ [':'] ++ '\n' :: line) =
      (caseLine (literal key)).chars ++ ((spaces 12).toList ++ line) := by
  have hfixed : ∀ c ∈ "case ".toList, isLineBoundary c = false := by decide
  have hfirst : ∀ c ∈ "case ".toList ++ (asciiQuoted key).toList ++ [':'],
      isLineBoundary c = false := by
    intro c hc
    rcases List.mem_append.mp hc with hc | hc
    · rcases List.mem_append.mp hc with hc | hc
      · exact hfixed c hc
      · exact not_isLineBoundary_of_mem_asciiQuoted hc
    · obtain rfl := List.mem_singleton.mp hc
      rfl
  rw [indentChars_append hfirst (by simp [isBlank]), indentChars_line h hb]
  simp [caseLine, Line.chars, Line.parts, spell, Part.chars, literal, asciiQuoted,
    spaces, List.replicate]

private theorem indentChars_getCase {p : Property} (h : isIdentifier p.name.toList = true) :
    indentChars (spaces 12).toList (getCase p).toList ++ ['\n'] =
      (⟨p.name, readLine p.name⟩ : WrittenCase).chars := by
  have hsplit : (getCase p).toList = "case ".toList ++ (asciiQuoted p.name).toList ++ [':'] ++
      '\n' :: ("    return self.".toList ++ p.name.toList) := by
    simp [getCase]
  have hfixed : ∀ c ∈ "    return self.".toList, isLineBoundary c = false := by decide
  have hline : ∀ c ∈ "    return self.".toList ++ p.name.toList, isLineBoundary c = false := by
    intro c hc
    rcases List.mem_append.mp hc with hc | hc
    · exact hfixed c hc
    · exact (isIdentifierChar_of_mem h hc).not_isLineBoundary
  rw [hsplit, indentChars_case p.name hline (by simp [isBlank])]
  simp [WrittenCase.chars, readLine, Line.chars, Line.parts, spell, Part.chars,
    spaces, List.replicate]

private theorem indentChars_setCase {p : Property} (h : isIdentifier p.name.toList = true) :
    indentChars (spaces 12).toList (setCase p).toList ++ ['\n'] =
      (⟨p.name, writeLine p.name p.type⟩ : WrittenCase).chars := by
  have hsplit : (setCase p).toList = "case ".toList ++ (asciiQuoted p.name).toList ++ [':'] ++
      '\n' :: ("    self.".toList ++ p.name.toList ++ " = cast(".toList ++
        (asciiQuoted p.type).toList ++ ", value)".toList) := by
    simp [setCase]
  have hfixed : ∀ text ∈ ["    self.", " = cast(", ", value)"], ∀ c ∈ text.toList,
      isLineBoundary c = false := by decide
  have hline : ∀ c ∈ "    self.".toList ++ p.name.toList ++ " = cast(".toList ++
      (asciiQuoted p.type).toList ++ ", value)".toList, isLineBoundary c = false := by
    intro c hc
    simp only [List.mem_append] at hc
    rcases hc with (((hc | hc) | hc) | hc) | hc
    · exact hfixed "    self." (by simp) c hc
    · exact (isIdentifierChar_of_mem h hc).not_isLineBoundary
    · exact hfixed " = cast(" (by simp) c hc
    · exact not_isLineBoundary_of_mem_asciiQuoted hc
    · exact hfixed ", value)" (by simp) c hc
  rw [hsplit, indentChars_case p.name hline (by simp [isBlank])]
  simp [WrittenCase.chars, writeLine, Line.chars, Line.parts, spell, Part.chars,
    literal, asciiQuoted, spaces, List.replicate]

/-- The cases that read. -/
def readCases (t : Descriptor) : List WrittenCase :=
  t.readable.map fun p => ⟨p.name, readLine p.name⟩

/-- The cases that assign. -/
def writeCases (t : Descriptor) : List WrittenCase :=
  t.writable.map fun p => ⟨p.name, writeLine p.name p.type⟩

/-- Clauses are the text of cases if each of them is. -/
theorem clauseLines_eq {properties : List Property} {write : Property → String}
    {caseOf : Property → WrittenCase}
    (h : ∀ p ∈ properties, indentChars (spaces 12).toList (write p).toList ++ ['\n'] =
      (caseOf p).chars) :
    (clauseLines (properties.map fun p => ⟨p.name, write p⟩) (spaces 12)).toList =
      (properties.map caseOf).flatMap WrittenCase.chars := by
  rw [toList_clauseLines, List.flatMap_map, List.flatMap_map]
  · rw [List.flatMap_def, List.flatMap_def]
    exact congrArg List.flatten (List.map_congr_left h)
  · intro clause hc hn
    obtain ⟨p, hp, rfl⟩ := List.mem_map.mp hc
    have hl := h p hp
    rw [hn] at hl
    exact absurd (congrArg List.length hl) (by
      simp [WrittenCase.chars, caseLine, Line.chars])

/-- The line that begins a method. -/
def methodLine (name : String) (parameters : List Part) (result : Lexeme) : Line :=
  ⟨4, .word "def", [⟨true, .name name.toList⟩, ⟨false, .op "("⟩, ⟨false, .name "self".toList⟩,
    ⟨false, .op ","⟩, ⟨true, .name "name".toList⟩, ⟨false, .op ":"⟩, ⟨true, .name "str".toList⟩] ++
    parameters ++ [⟨false, .op ")"⟩, ⟨true, .op "->"⟩, ⟨true, result⟩, ⟨false, .op ":"⟩]⟩

/-- The line that begins the method that reads. -/
def getLine : Line := methodLine "__getitem__" [] (.name "Any".toList)

/-- The line that begins the method that assigns. -/
def setLine : Line :=
  methodLine "__setitem__" [⟨false, .op ","⟩, ⟨true, .name "value".toList⟩, ⟨false, .op ":"⟩,
    ⟨true, .name "Any".toList⟩] (.word "None")

/-- The line that begins the choice by the key. -/
def matchLine : Line :=
  ⟨8, .name "match".toList, [⟨true, .name "name".toList⟩, ⟨false, .op ":"⟩]⟩

/-- How a method is written. -/
def methodChars (header : Line) (cases : List WrittenCase) : List Char :=
  header.chars ++ (matchLine.chars ++ (cases.flatMap WrittenCase.chars ++ defaultChars))

/-- The tokens of a method up to the end of its last line. -/
def methodTokens (header : Line) (cases : List WrittenCase) : List Token :=
  header.tokens ++ .indent :: (matchLine.tokens ++ .indent :: casesTokens cases)

/-- A method is cut into its tokens. -/
theorem cutInto_method {header : Line} (hs : header.Sound) (hi : header.indent = 4)
    {cases : List WrittenCase} (h : ∀ c ∈ cases, c.body.Sound ∧ c.body.indent = 16)
    {blocks : List (Nat × Nat)} {opening : List Token}
    (hp : placeLine (4, 4) blocks = .ok (opening, [(4, 4)])) :
    CutInto blocks (methodChars header cases) (opening ++ methodTokens header cases)
      caseBlocks := by
  have hheader := hs.cutInto (by rw [hi]; exact hp)
  have hmatch : matchLine.Sound := ⟨fits_of_check (by decide), rfl⟩
  have hdeeper : placeLine (8, 8) [(4, 4)] = .ok ([.indent], [(8, 8), (4, 4)]) := rfl
  have hdeepest : placeLine (12, 12) [(8, 8), (4, 4)] =
      .ok ([.indent], [(12, 12), (8, 8), (4, 4)]) := rfl
  have hall := hheader.append ((hmatch.cutInto hdeeper).append (cutInto_cases h hdeepest))
  simpa only [methodChars, methodTokens, List.append_assoc, List.cons_append,
    List.nil_append] using hall

/-- A line that introduces a module or a class by a remark. -/
def remarkLine (indent : Nat) (text : List Char) : Line := ⟨indent, .remark text, []⟩

/-- The line that imports what the annotations and assignments use. -/
def typingLine (writes : Bool) : Line :=
  ⟨0, .word "from", [⟨true, .name "typing".toList⟩, ⟨true, .word "import"⟩,
    ⟨true, .name "Any".toList⟩] ++
      if writes then [⟨false, .op ","⟩, ⟨true, .name "cast".toList⟩] else []⟩

/-- The line that imports the error. -/
def supportLine : Line :=
  ⟨0, .word "from", [⟨true, .name "indexgen".toList⟩, ⟨false, .op "."⟩,
    ⟨false, .name "runtime".toList⟩, ⟨true, .word "import"⟩,
    ⟨true, .name "OutOfRangeError".toList⟩]⟩

/-- The line that begins the class. -/
def classLine (identifier : String) : Line :=
  ⟨0, .word "class", [⟨true, .name (className identifier).toList⟩, ⟨false, .op ":"⟩]⟩

/-- The line that keeps the class without attributes of its own. -/
def slotsLine : Line :=
  ⟨4, .name "__slots__".toList, [⟨true, .op "="⟩, ⟨true, .op "("⟩, ⟨false, .op ")"⟩]⟩

/-- The remark on a module. -/
def moduleRemark (t : Descriptor) : List Char :=
  "String-keyed member access for ".toList ++ t.qualifiedName.toList ++ ['.']

/-- The remark on a class. -/
def classRemark (t : Descriptor) : List Char :=
  "Mixin adding \x60\x60obj[name]\x60\x60 access to ".toList ++ t.identifier.toList ++ ['.']

/-- The tokens of a class up to the end of its last line. -/
def classTokens (t : Descriptor) : List Token :=
  (classLine t.identifier).tokens ++ .indent :: ((remarkLine 4 (classRemark t)).tokens ++
    (slotsLine.tokens ++ (methodTokens getLine (readCases t) ++ .dedent :: .dedent :: .dedent ::
      methodTokens setLine (writeCases t))))

/-- The tokens of a mixin up to the end of its last line. -/
def moduleTokens (t : Descriptor) : List Token :=
  (remarkLine 0 (moduleRemark t)).tokens ++ ((typingLine !t.writable.isEmpty).tokens ++
    (supportLine.tokens ++ classTokens t))

/-- The first line of a mixin, which is a comment. -/
def noticeChars : List Char := '#' :: (" Generated by indexgen. Do not edit.".toList ++ ['\n'])

/-- The characters of a mixin: its parts in order, some with empty lines behind them. -/
def moduleChars (t : Descriptor) : List Char :=
  noticeChars ++ ((remarkLine 0 (moduleRemark t)).chars ++ ['\n'] ++
    ((typingLine !t.writable.isEmpty).chars ++ (supportLine.chars ++ ['\n', '\n'] ++
      ((classLine t.identifier).chars ++ ((remarkLine 4 (classRemark t)).chars ++ ['\n'] ++
        (slotsLine.chars ++ ['\n'] ++ (getLine.chars ++ matchLine.chars ++
          ((readCases t).flatMap WrittenCase.chars ++ (defaultChars ++ ['\n'] ++
            (setLine.chars ++ matchLine.chars ++
              ((writeCases t).flatMap WrittenCase.chars ++ defaultChars)))))))))))

@[simp] private theorem chars_remarkLine (indent : Nat) (text : List Char) :
    (remarkLine indent text).chars =
      List.replicate indent ' ' ++ '"' :: '"' :: '"' :: (text ++ ['"', '"', '"', '\n']) := by
  simp [remarkLine, Line.chars, Line.parts, spell, Part.chars]

/-- A name in a remark, with an empty line behind it. -/
theorem toList_remark {indent : Nat} {opening closing text : String}
    (ho : opening.toList = List.replicate indent ' ' ++ '"' :: '"' :: '"' :: text.toList)
    (hc : closing.toList = ['.', '"', '"', '"', '\n', '\n']) (name : String) :
    opening.toList ++ (name.toList ++ closing.toList) =
      (remarkLine indent (text.toList ++ name.toList ++ ['.'])).chars ++ ['\n'] := by
  rw [ho, hc, chars_remarkLine]
  simp only [List.append_assoc, List.cons_append, List.nil_append]

/-- The line that begins the class. -/
theorem toList_classLine (identifier : String) :
    "class ".toList ++ ((className identifier).toList ++ ":\n".toList) =
      (classLine identifier).chars := by
  simp [classLine, Line.chars, Line.parts, spell, Part.chars]

/-- The import of what the annotations and assignments use. -/
theorem toList_typingImport (t : Descriptor) :
    (typingImport (t.setClauses setCase)).toList = (typingLine !t.writable.isEmpty).chars := by
  rw [typingImport, Descriptor.setClauses, List.isEmpty_map]
  cases t.writable.isEmpty with
  | true => decide +kernel
  | false => decide +kernel

/-- Equal parts in front of equal texts. -/
private theorem front_eq {part lines text others : List Char} (hp : part = lines)
    (ht : text = others) : part ++ text = lines ++ others := by rw [hp, ht]

/-- Three parts that are some lines in front of equal texts. -/
private theorem fronts_eq {first second third lines text others : List Char}
    (hp : first ++ (second ++ third) = lines) (ht : text = others) :
    first ++ (second ++ (third ++ text)) = lines ++ others := by
  rw [← hp, ht, List.append_assoc, List.append_assoc]

/-- The text of a mixin is made of these lines. -/
theorem toList_render {t : Descriptor} (hr : ∀ p ∈ t.readable, isIdentifier p.name.toList = true)
    (hw : ∀ p ∈ t.writable, isIdentifier p.name.toList = true) :
    (render t Access.triedSupport).toList = moduleChars t := by
  have hget : (clauseLines (t.getClauses getCase) (spaces 12)).toList =
      (readCases t).flatMap WrittenCase.chars :=
    clauseLines_eq fun p hp => indentChars_getCase (hr p hp)
  have hset : (clauseLines (t.setClauses setCase) (spaces 12)).toList =
      (writeCases t).flatMap WrittenCase.chars :=
    clauseLines_eq fun p hp => indentChars_setCase (hw p hp)
  unfold render moduleChars
  conv =>
    lhs
    simp only [String.toList_append, List.append_assoc, -String.reduceAppend,
      -String.reduceToList]
  refine front_eq (by decide +kernel) ?_
  refine fronts_eq (toList_remark (by decide +kernel) (by decide +kernel) _) ?_
  refine front_eq (toList_typingImport t) (fronts_eq (by decide +kernel) ?_)
  refine fronts_eq (toList_classLine _) ?_
  refine fronts_eq (toList_remark (by decide +kernel) (by decide +kernel) _) ?_
  refine front_eq (by decide +kernel) (front_eq (by decide +kernel) (front_eq hget ?_))
  exact front_eq (by decide +kernel) (front_eq (by decide +kernel)
    (front_eq hset (by decide +kernel)))

/-- A remark is sound if its text holds neither quotes nor escapes. -/
theorem sound_remarkLine (indent : Nat) {text : List Char}
    (h : ∀ c ∈ text, InRemark c) : (remarkLine indent text).Sound :=
  ⟨⟨h, trivial, trivial⟩, rfl⟩

/-- A fixed text, a name and a full stop may stand in a remark. -/
private theorem inRemark_append {opening name : List Char} (ho : ∀ c ∈ opening, InRemark c)
    (hn : ∀ c ∈ name, InRemark c) : ∀ c ∈ opening ++ name ++ ['.'], InRemark c := by
  intro c hc
  rcases List.mem_append.mp hc with hc | hc
  · rcases List.mem_append.mp hc with hc | hc
    · exact ho c hc
    · exact hn c hc
  · obtain rfl := List.mem_singleton.mp hc
    decide

/-- The name of such a type may stand in a remark. -/
theorem Spelled.inRemark_identifier {t : Descriptor} (ht : Spelled t) :
    ∀ c ∈ t.identifier.toList, InRemark c := fun _ hc =>
  inRemark_of_isIdentifierChar (isIdentifierChar_of_mem ht.identifier hc)

/-- So may its name within its scope. -/
theorem Spelled.inRemark_qualifiedName {t : Descriptor} (ht : Spelled t) :
    ∀ c ∈ t.qualifiedName.toList, InRemark c := by
  rw [Descriptor.qualifiedName]
  split
  · next scope hs =>
    have hscope := ht.scope scope (Option.mem_filter_iff.mp hs).1
    intro c hc
    rw [String.toList_append, String.toList_append] at hc
    rcases List.mem_append.mp hc with hc | hc
    · rcases List.mem_append.mp hc with hc | hc
      · exact hscope c hc
      · obtain rfl := List.mem_singleton.mp hc
        decide
    · exact ht.inRemark_identifier c hc
  · exact ht.inRemark_identifier

/-- The remark on the module of such a descriptor holds neither quotes nor escapes. -/
theorem inRemark_moduleRemark {t : Descriptor} (ht : Spelled t) :
    ∀ c ∈ moduleRemark t, InRemark c :=
  inRemark_append (by decide) ht.inRemark_qualifiedName

/-- Neither does the remark on its class. -/
theorem inRemark_classRemark {t : Descriptor} (ht : Spelled t) :
    ∀ c ∈ classRemark t, InRemark c :=
  inRemark_append (by decide) ht.inRemark_identifier

private theorem sound_className {identifier : String} (h : isIdentifier identifier.toList = true) :
    (Lexeme.name (className identifier).toList).Sound := by
  have hlist : (className identifier).toList = identifier.toList ++ "Indexer".toList :=
    String.toList_append
  refine ⟨?_, fun hm => ?_⟩
  · have hsuffix : "Indexer".toList.all isIdentifierChar = true := by decide
    cases he : identifier.toList with
    | nil =>
      rw [he] at h
      cases h
    | cons c rest =>
      rw [he, isIdentifier, Bool.and_eq_true] at h
      rw [hlist, he, List.cons_append, isIdentifier, List.all_append, h.1, h.2, hsuffix]
      rfl
  · have hall : ∀ word ∈ reservedWords, ¬ "Indexer".toList <:+ word.toList := by decide
    rw [String.ofList_toList] at hm
    exact hall _ hm ⟨identifier.toList, hlist.symm⟩

private theorem sound_classLine {identifier : String} (h : isIdentifier identifier.toList = true) :
    (classLine identifier).Sound := by
  refine ⟨⟨?_, ?_, sound_className h, ?_, fits_of_check (by decide)⟩, rfl⟩
  · exact (by decide : "class" ∈ reservedWords)
  · exact (by decide : (Lexeme.word "class").EndsBefore ' ')
  · exact (by decide : (Lexeme.name []).EndsBefore ':')

/-- The text of a mixin is cut into its tokens. -/
theorem cutInto_moduleChars {t : Descriptor} (ht : Spelled t) :
    CutInto [] (moduleChars t) (moduleTokens t) caseBlocks := by
  have hreads : ∀ c ∈ readCases t, c.body.Sound ∧ c.body.indent = 16 := by
    intro c hc
    obtain ⟨p, hp, rfl⟩ := List.mem_map.mp hc
    exact ⟨sound_readLine (ht.readable p hp), rfl⟩
  have hwrites : ∀ c ∈ writeCases t, c.body.Sound ∧ c.body.indent = 16 := by
    intro c hc
    obtain ⟨p, hp, rfl⟩ := List.mem_map.mp hc
    exact ⟨sound_writeLine (ht.writable p hp) p.type, rfl⟩
  have hmodule := sound_remarkLine 0 (inRemark_moduleRemark ht)
  have hclass := sound_remarkLine 4 (inRemark_classRemark ht)
  have htyping : (typingLine !t.writable.isEmpty).Sound := by
    cases t.writable.isEmpty with
    | true => exact ⟨fits_of_check (by decide), rfl⟩
    | false => exact ⟨fits_of_check (by decide), rfl⟩
  have hsupport : supportLine.Sound := ⟨fits_of_check (by decide), rfl⟩
  have hslots : slotsLine.Sound := ⟨fits_of_check (by decide), rfl⟩
  have hget : getLine.Sound := ⟨fits_of_check (by decide), rfl⟩
  have hset : setLine.Sound := ⟨fits_of_check (by decide), rfl⟩
  have htop : placeLine (0, 0) [] = .ok ([], []) := rfl
  have hbody : placeLine (4, 4) [] = .ok ([.indent], [(4, 4)]) := rfl
  have hsame : placeLine (4, 4) [(4, 4)] = .ok ([], [(4, 4)]) := rfl
  have hback : placeLine (4, 4) caseBlocks = .ok ([.dedent, .dedent, .dedent], [(4, 4)]) := rfl
  have hnotice : CutInto [] noticeChars [] [] := cutInto_comment [] (by decide)
  have hfront := (hmodule.cutInto htop).append (cutInto_emptyLine [])
  have himports := (htyping.cutInto htop).append ((hsupport.cutInto htop).append
    ((cutInto_emptyLine []).append (cutInto_emptyLine [])))
  have hhead := ((sound_classLine ht.identifier).cutInto htop).append ((hclass.cutInto hbody).append
    (cutInto_emptyLine _))
  have hattributes := (hslots.cutInto hsame).append (cutInto_emptyLine _)
  have hread := (cutInto_method hget rfl hreads hsame).append (cutInto_emptyLine _)
  have hwrite := cutInto_method hset rfl hwrites hback
  have hall := hnotice.append (hfront.append (himports.append (hhead.append (hattributes.append
    (hread.append hwrite)))))
  simpa only [moduleChars, moduleTokens, classTokens, methodChars, List.append_assoc,
    List.cons_append, List.nil_append, List.append_nil] using hall

/-- The tokens of a mixin. -/
theorem tokenize_render {t : Descriptor} (ht : Spelled t) :
    tokenize (render t Access.triedSupport).toList =
      moduleTokens t ++ [Token.dedent, .dedent, .dedent, .dedent, .finish] := by
  rw [toList_render ht.readable ht.writable, (cutInto_moduleChars ht).tokenize]
  rfl

/-- A mixin holds no NUL. -/
theorem not_nul_of_render {t : Descriptor} (ht : Spelled t) :
    ((render t Access.triedSupport).toList.any fun c => c.toNat == 0) = false := by
  rw [toList_render ht.readable ht.writable, List.any_eq_false]
  intro c hc
  rw [beq_iff_eq]
  exact ((cutInto_moduleChars ht).kept c hc).1

end KeyedAccess.Mixin
