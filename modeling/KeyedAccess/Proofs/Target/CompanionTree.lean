import KeyedAccess.Target.Companion
import KeyedAccess.Text.CharSet
import KeyedAccess.Text.Identifier

/-!
# Companions as syntax

The part of C# that companions are written in: an indexer over one key, whose getter is a switch
expression and whose setter is a switch statement. The companion of a descriptor is the text of such
a part, in which every word is an identifier, whatever the types are.
-/

namespace KeyedAccess.Companion

/-- The words that C# keeps for itself. -/
def keywords : List String :=
  ["abstract", "as", "base", "bool", "break", "byte", "case", "catch", "char", "checked", "class",
    "const", "continue", "decimal", "default", "delegate", "do", "double", "else", "enum", "event",
    "explicit", "extern", "false", "finally", "fixed", "float", "for", "foreach", "goto", "if",
    "implicit", "in", "int", "interface", "internal", "is", "lock", "long", "namespace", "new",
    "null", "object", "operator", "out", "override", "params", "private", "protected", "public",
    "readonly", "ref", "return", "sbyte", "sealed", "short", "sizeof", "stackalloc", "static",
    "string", "struct", "switch", "this", "throw", "true", "try", "typeof", "uint", "ulong",
    "unchecked", "unsafe", "ushort", "using", "virtual", "void", "volatile", "while"]

/-- The blocks of format characters, which stand in words without telling them apart. -/
def formatBlocks : List (Nat × Nat) :=
  [(0xad, 0xad), (0x600, 0x605), (0x61c, 0x61c), (0x6dd, 0x6dd), (0x70f, 0x70f), (0x890, 0x891),
    (0x8e2, 0x8e2), (0x180e, 0x180e), (0x200b, 0x200f), (0x202a, 0x202e), (0x2060, 0x2064),
    (0x2066, 0x206f), (0xfeff, 0xfeff), (0xfff9, 0xfffb), (0x110bd, 0x110bd), (0x110cd, 0x110cd),
    (0x13430, 0x1343f), (0x1bca0, 0x1bca3), (0x1d173, 0x1d17a), (0xe0001, 0xe0001),
    (0xe0020, 0xe007f)]

/-- Whether a character is a format character. -/
def isFormat (c : Char) : Bool :=
  formatBlocks.any fun block => block.1 ≤ c.toNat && c.toNat ≤ block.2

/-- The characters of a word behind the sign that frees it from being a keyword. -/
def bareChars : List Char → List Char
  | '@' :: rest => rest
  | chars => chars

/-- The name that a word stands for: the sign before it and its format characters do not count. -/
def simpleName (word : String) : String :=
  String.ofList ((bareChars word.toList).filter fun c => !isFormat c)

/-- A character that a word can hold. Beyond ASCII only the line boundaries are left out, so more
words are taken here than C# takes. -/
def isWordChar (c : Char) : Bool :=
  if c.toNat < 128 then Text.isAsciiNameChar c else !Text.isLineBoundary c

/-- Whether a text is an identifier and no keyword. -/
def isIdentifier (word : String) : Bool :=
  let chars := bareChars word.toList
  chars.all isWordChar && chars.head?.any (fun c => !c.isDigit && !isFormat c) &&
    (word.toList.head? == some '@' || !keywords.contains (simpleName word))

/-- A word that can name something. -/
structure Identifier where
  /-- The word as it is written. -/
  word : String
  /-- It is an identifier and no keyword. -/
  valid : isIdentifier word = true

/-- The name that an identifier stands for. -/
def Identifier.name (x : Identifier) : String := simpleName x.word

/-- An expression of an accessor. -/
inductive Expression where
  /-- What a simple name stands for. -/
  | name (x : Identifier)
  /-- A conversion to a type. -/
  | cast (type : String) (operand : Expression)
  /-- A failure with an argument, in the place of a value. -/
  | fail (argument : Expression)

/-- The text of an expression. -/
def Expression.text : Expression → String
  | .name x => x.word
  | .cast type operand => "(" ++ type ++ ") " ++ operand.text
  | .fail argument => "throw new IndexOutOfRangeException(" ++ argument.text ++ ")"

@[simp] theorem Expression.text_name (x : Identifier) : (Expression.name x).text = x.word := rfl

@[simp] theorem Expression.text_cast (type : String) (operand : Expression) :
    (Expression.cast type operand).text = "(" ++ type ++ ") " ++ operand.text := rfl

@[simp] theorem Expression.text_fail (argument : Expression) :
    (Expression.fail argument).text =
      "throw new IndexOutOfRangeException(" ++ argument.text ++ ")" := rfl

/-- A statement of an accessor. -/
inductive Statement where
  /-- An assignment to a simple name. -/
  | assign (target : Identifier) (value : Expression)
  /-- The end of a section. -/
  | leave
  /-- A failure with an argument. -/
  | fail (argument : Expression)

/-- The text of a statement. -/
def Statement.text : Statement → String
  | .assign target value => target.word ++ " = " ++ value.text ++ ";"
  | .leave => "break;"
  | .fail argument => (Expression.fail argument).text ++ ";"

@[simp] theorem Statement.text_assign (target : Identifier) (value : Expression) :
    (Statement.assign target value).text = target.word ++ " = " ++ value.text ++ ";" := rfl

@[simp] theorem Statement.text_leave : Statement.leave.text = "break;" := rfl

@[simp] theorem Statement.text_fail (argument : Expression) :
    (Statement.fail argument).text = (Expression.fail argument).text ++ ";" := rfl

/-- The arm of one key. -/
structure Arm where
  /-- The key. -/
  key : Identifier
  /-- The value for this key. -/
  result : Expression

/-- The text of an arm. -/
def Arm.text (arm : Arm) : String :=
  "\"" ++ arm.key.word ++ "\" => " ++ arm.result.text ++ ","

/-- The section of one key. -/
structure Section where
  /-- The key. -/
  key : Identifier
  /-- The statements for this key. -/
  body : List Statement

/-- The text of a section. -/
def Section.text (block : Section) : String :=
  block.body.foldl (fun text statement => text ++ "\n    " ++ statement.text)
    ("case \"" ++ block.key.word ++ "\":")

/-- A switch expression. No two of its arms have the same key. -/
structure SwitchExpression where
  /-- What the arms are chosen by. -/
  subject : Expression
  /-- The arms. -/
  arms : List Arm
  /-- The value for all other keys. -/
  otherwise : Expression
  /-- The keys differ. -/
  distinct : (arms.map (·.key.word)).Nodup

/-- A switch statement. No two of its sections have the same key. -/
structure SwitchStatement where
  /-- What the sections are chosen by. -/
  subject : Expression
  /-- The sections. -/
  sections : List Section
  /-- The statement for all other keys. -/
  otherwise : Statement
  /-- The keys differ. -/
  distinct : (sections.map (·.key.word)).Nodup

/-- A part of a type that holds one indexer. -/
structure Part where
  /-- The namespace. -/
  scope : Option String
  /-- The introduction of the type. -/
  header : String
  /-- The parameter of the indexer. -/
  parameter : Identifier
  /-- The getter. -/
  getter : SwitchExpression
  /-- The setter. -/
  setter : SwitchStatement

/-- The text of a part. -/
def Part.text (part : Part) : String :=
  "// <auto-generated/>\nusing System;\n\n" ++ scopeLines part.scope ++
  "partial " ++ part.header ++ "\n\x7b\n" ++
  ("    public object this[string " ++ part.parameter.word ++ "]\n    \x7b\n") ++
  ("        get => " ++ part.getter.subject.text ++ " switch\n        \x7b\n") ++
  clauseLines (part.getter.arms.map fun arm => ⟨arm.key.word, arm.text⟩) (Text.spaces 12) ++
  ("            _ => " ++ part.getter.otherwise.text ++ "\n        \x7d;\n") ++
  ("        set\n        \x7b\n            switch (" ++ part.setter.subject.text ++
    ")\n            \x7b\n") ++
  clauseLines (part.setter.sections.map fun block => ⟨block.key.word, block.text⟩)
    (Text.spaces 16) ++
  ("                default:\n                    " ++ part.setter.otherwise.text ++ "\n") ++
  "            \x7d\n        \x7d\n    \x7d\n\x7d\n"

/-- The names of a descriptor can be written in C#, and no two properties have the same name. -/
structure Nameable (t : Descriptor) : Prop where
  /-- Every name is an identifier and no keyword. -/
  identifiers : ∀ p ∈ t.properties, isIdentifier p.name = true
  /-- The names differ. -/
  distinct : (t.properties.map (·.name)).Nodup

/-- The parameter that holds the key. -/
def keyParameter : Identifier := ⟨"name", by decide⟩

/-- The parameter that holds the value to be assigned, which every setter has. -/
def valueParameter : Identifier := ⟨"value", by decide⟩

/-- The arm of a property. -/
def armOf (p : Property) (hp : isIdentifier p.name = true) : Arm :=
  ⟨⟨p.name, hp⟩, .name ⟨p.name, hp⟩⟩

/-- The section of a property. -/
def sectionOf (p : Property) (hp : isIdentifier p.name = true) : Section :=
  ⟨⟨p.name, hp⟩, [.assign ⟨p.name, hp⟩ (.cast p.type (.name valueParameter)), .leave]⟩

variable {t : Descriptor}

/-- The readable properties have identifiers as names. -/
theorem Nameable.readable (h : Nameable t) : ∀ p ∈ t.readable, isIdentifier p.name = true :=
  fun p hp => h.identifiers p (List.mem_filter.mp hp).1

/-- The writable properties have identifiers as names. -/
theorem Nameable.writable (h : Nameable t) : ∀ p ∈ t.writable, isIdentifier p.name = true :=
  fun p hp => h.identifiers p (List.mem_filter.mp hp).1

/-- The getter of a descriptor. -/
def getterOf (h : Nameable t) : SwitchExpression where
  subject := .name keyParameter
  arms := t.readable.pmap armOf h.readable
  otherwise := .fail (.name keyParameter)
  distinct := by
    have he : (t.readable.pmap armOf h.readable).map (·.key.word) = t.readable.map (·.name) := by
      rw [List.map_pmap]
      exact List.pmap_eq_map _
    rw [he]
    exact h.distinct.sublist (List.filter_sublist.map _)

/-- The setter of a descriptor. -/
def setterOf (h : Nameable t) : SwitchStatement where
  subject := .name keyParameter
  sections := t.writable.pmap sectionOf h.writable
  otherwise := .fail (.name keyParameter)
  distinct := by
    have he : (t.writable.pmap sectionOf h.writable).map (·.key.word) =
        t.writable.map (·.name) := by
      rw [List.map_pmap]
      exact List.pmap_eq_map _
    rw [he]
    exact h.distinct.sublist (List.filter_sublist.map _)

/-- The part of a type that its companion is. -/
def partOf (h : Nameable t) : Part :=
  ⟨t.scope, t.header, keyParameter, getterOf h, setterOf h⟩

/-- The arm of a property is written as its clause is. -/
theorem text_armOf {p : Property} (hp : isIdentifier p.name = true) :
    (armOf p hp).text = getArm p := by
  simp only [Arm.text, armOf, Expression.text_name, getArm]

/-- The section of a property is written as its clause is. -/
theorem text_sectionOf {p : Property} (hp : isIdentifier p.name = true) :
    (sectionOf p hp).text = setSection p := by
  have hcolon : "\":\n    " = "\":" ++ "\n    " := by decide
  have hopen : " = (" = " = " ++ "(" := by decide
  have hclose : ") value;\n    break;" = ") " ++ "value" ++ ";" ++ "\n    " ++ "break;" := by decide
  rw [setSection, hcolon, hopen, hclose]
  simp only [Section.text, sectionOf, List.foldl_cons, List.foldl_nil, Statement.text_assign,
    Statement.text_leave, Expression.text_cast, Expression.text_name, valueParameter,
    String.append_assoc]

/-- The arms of the getter are written as the clauses for reading. -/
theorem clauses_arms (h : Nameable t) :
    ((getterOf h).arms.map fun arm => (⟨arm.key.word, arm.text⟩ : Clause)) =
    t.getClauses getArm := by
  simp only [getterOf, List.map_pmap, text_armOf]
  exact @List.pmap_eq_map _ _ _ (fun p => (⟨p.name, getArm p⟩ : Clause)) _ h.readable

/-- The sections of the setter are written as the clauses for assigning. -/
theorem clauses_sections (h : Nameable t) :
    ((setterOf h).sections.map fun block => (⟨block.key.word, block.text⟩ : Clause)) =
      t.setClauses setSection := by
  simp only [setterOf, List.map_pmap, text_sectionOf]
  exact @List.pmap_eq_map _ _ _ (fun p => (⟨p.name, setSection p⟩ : Clause)) _ h.writable

/-- The companion of a descriptor is the text of its part. -/
theorem text_partOf (h : Nameable t) : (partOf h).text = render t := by
  have hindexer : "    public object this[string " ++ "name" ++ "]\n    \x7b\n" =
      "    public object this[string name]\n    \x7b\n" := by decide
  have hgetter : "        get => " ++ "name" ++ " switch\n        \x7b\n" =
      "        get => name switch\n        \x7b\n" := by decide
  have hfail : "throw new IndexOutOfRangeException(" ++ "name" ++ ")" =
      "throw new IndexOutOfRangeException(name)" := by decide
  have hother : "            _ => " ++ "throw new IndexOutOfRangeException(name)" ++
      "\n        \x7d;\n" =
      "            _ => throw new IndexOutOfRangeException(name)\n        \x7d;\n" := by decide
  have hsetter : "        set\n        \x7b\n            switch (" ++ "name" ++
      ")\n            \x7b\n" =
      "        set\n        \x7b\n            switch (name)\n            \x7b\n" := by decide
  have hdefault : "                default:\n                    " ++
      ("throw new IndexOutOfRangeException(name)" ++ ";") ++ "\n" =
      "                default:\n                    throw new IndexOutOfRangeException(name);\n" :=
    by decide
  unfold Part.text render
  simp only [partOf]
  rw [clauses_arms, clauses_sections]
  simp only [getterOf, setterOf, keyParameter, Expression.text_name, Expression.text_fail,
    Statement.text_fail, hindexer, hgetter, hfail, hother, hsetter, hdefault]

end KeyedAccess.Companion
