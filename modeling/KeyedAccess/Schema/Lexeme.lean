import KeyedAccess.Schema.Reader
import KeyedAccess.Text.Identifier

/-!
# Lexemes of declaration files

What a piece of text is depends on what may stand at its place. Where a name may stand, the longest
word is taken, and it is a keyword only if it is the whole of one that may stand there too. Where no
name may stand, a keyword is taken as soon as its letters are there.

White space and comments may stand everywhere.
-/

namespace KeyedAccess.Schema

/-- What may stand at a place. -/
structure Context where
  /-- Whether a name may. -/
  names : Bool
  /-- The keywords that may. -/
  words : List Word
  /-- The marks that may. -/
  marks : List Mark
deriving Repr

/-- Everything that a declaration file can hold. -/
def Context.everything : Context := ⟨true, Word.all, Mark.all⟩

/-- White space of declaration files. -/
def isWhite (c : Char) : Bool :=
  c == ' ' || c == '\t' || c.toNat == 12 || c == '\r' || c == '\n'

/-- Drops white space and comments; a comment ends before the next line feed. -/
def skipBlank (inComment : Bool) : List Char → List Char
  | [] => []
  | c :: rest =>
    if inComment then skipBlank (c != '\n') rest
    else if c = '#' then skipBlank true rest
    else if isWhite c then skipBlank false rest
    else c :: rest

/-- Drops the characters of `word` from the front, if they stand there. -/
def dropWord : List Char → List Char → Option (List Char)
  | [], rest => some rest
  | _ :: _, [] => none
  | w :: word, c :: rest => if w = c then dropWord word rest else none

/-- The token that a whole word is. -/
def Context.classify (context : Context) (text : String) : Token :=
  match Word.ofText? text with
  | some w => if context.words.contains w then .word w else .name text
  | none => .name text

/-- The first token of a text that begins with one, and the text behind it. -/
def lexeme (context : Context) : List Char → Option (Token × List Char)
  | [] => none
  | c :: rest =>
    match Mark.ofChar? c with
    | some m => if context.marks.contains m then some (.mark m, rest) else none
    | none =>
      if context.names then
        if Text.isAsciiNameStart c then
          some (context.classify (String.ofList (c :: rest.takeWhile Text.isAsciiNameChar)),
            rest.dropWhile Text.isAsciiNameChar)
        else none
      else
        context.words.findSome? fun w =>
          (dropWord w.text.toList (c :: rest)).map fun rest => (Token.word w, rest)

/-- What may follow the last name of a type. -/
def afterTypeName : List Mark :=
  [.comma, .dot, .lbrace, .less, .lsqb, .more, .question, .rbrace, .rpar, .rsqb, .semicolon]

/-- What may follow a closed bracket of a type. -/
def afterTypeBracket : List Mark :=
  [.comma, .lbrace, .lsqb, .more, .question, .rbrace, .rpar, .rsqb, .semicolon]

/-- What may follow the question mark of a type. -/
def afterQuestion : List Mark :=
  [.comma, .lbrace, .more, .rbrace, .rpar, .rsqb, .semicolon]

/-- The keywords that begin a member. -/
def memberWords : List Word := .this :: Word.modifiers

/-- The keywords that begin a statement. -/
def statementWords : List Word := .scope :: (Word.kinds ++ Word.modifiers)

/-- The keywords that go on after a modifier, in front of a type or of a member. -/
def modifiedWords : List Word := .this :: (Word.kinds ++ Word.modifiers)

/-- What may follow a name behind a dot, whether the names are a type or a namespace. -/
def afterDottedName : Context :=
  ⟨true, .scope :: .this :: (Word.kinds ++ Word.modifiers), afterTypeName⟩

/-- Only a name. -/
def onlyName : Context := ⟨true, [], []⟩

/-- Only the given marks. -/
def onlyMarks (marks : List Mark) : Context := ⟨false, [], marks⟩

/-- What may stand within or after a type. -/
def Spot.context : Spot → Context
  | .start | .dot _ => onlyName
  | .path ⟨_, []⟩ => ⟨true, memberWords, afterTypeName⟩
  | .path ⟨_, _ :: _⟩ => afterDottedName
  | .closed .. => ⟨true, memberWords, afterTypeBracket⟩
  | .rank .. => onlyMarks [.comma, .rsqb]
  | .nullable .. => ⟨true, memberWords, afterQuestion⟩

/-- What may stand at a place. Places that differ only in what surrounds the unfinished part share
their context, so it can hold more than the place itself admits. -/
def Place.context : Place → Context
  | .between [] => ⟨false, statementWords, []⟩
  | .between (_ :: _) => ⟨true, modifiedWords, []⟩
  | .scope | .scopeDot _ | .kind .. | .parameterNext .. => onlyName
  | .scopeName ⟨_, []⟩ => ⟨false, statementWords, [.dot, .semicolon]⟩
  | .scopeName ⟨_, _ :: _⟩ => afterDottedName
  | .record _ => ⟨true, [.cls, .struct], []⟩
  | .named _ => onlyMarks [.colon, .lbrace, .lpar]
  | .headed .. => onlyMarks [.colon, .lbrace]
  | .based .. => onlyMarks [.comma, .lbrace]
  | .parametersOpen (.indexer ..) => onlyName
  | .parametersOpen _ => ⟨true, [], [.rpar]⟩
  | .parameterName .. => onlyMarks [.colon]
  | .parameterTyped .. => onlyMarks [.comma, .rpar, .rsqb]
  | .typing _ _ spot => spot.context
  | .body _ [] => ⟨true, memberWords, [.rbrace]⟩
  | .body _ (_ :: _) => ⟨true, modifiedWords, []⟩
  | .memberName .. => onlyMarks [.colon, .lpar]
  | .memberTyped .. | .methodTyped .. => ⟨true, memberWords, [.lbrace, .rbrace, .semicolon]⟩
  | .this .. => onlyMarks [.lsqb]
  | .indexerHeaded .. => onlyMarks [.colon]
  | .indexerTyped .. => onlyMarks [.lbrace]
  | .methodHeaded .. => ⟨true, memberWords, [.colon, .rbrace, .semicolon]⟩
  | .block .. => ⟨false, Word.accessors, [.rbrace]⟩
  | .accessor .. => ⟨false, Word.accessors, [.rbrace, .semicolon]⟩

/-- Dropping blanks makes no text longer. -/
theorem length_skipBlank_le (inComment : Bool) (text : List Char) :
    (skipBlank inComment text).length ≤ text.length := by
  induction text generalizing inComment with
  | nil => simp [skipBlank]
  | cons c rest ih =>
    simp only [skipBlank]
    split
    · exact Nat.le_trans (ih _) (Nat.le_succ _)
    · split
      · exact Nat.le_trans (ih _) (Nat.le_succ _)
      · split
        · exact Nat.le_trans (ih _) (Nat.le_succ _)
        · exact Nat.le_refl _

/-- What is left after a word is shorter by the word. -/
theorem length_of_dropWord {word text rest : List Char} (h : dropWord word text = some rest) :
    text.length = word.length + rest.length := by
  induction word generalizing text with
  | nil => simp_all [dropWord]
  | cons w word ih =>
    cases text with
    | nil => simp [dropWord] at h
    | cons c text =>
      simp only [dropWord] at h
      split at h
      · have := ih h
        simp only [List.length_cons]
        omega
      · exact absurd h (by simp)

/-- No keyword is empty. -/
theorem Word.text_ne_nil (w : Word) : 0 < w.text.toList.length := by
  cases w with
  | modifier m => cases m with
    | access who => cases who <;> decide
    | _ => decide
  | accessor a => cases a <;> decide
  | _ => decide

/-- Every token takes at least one character. -/
theorem length_lt_of_lexeme {context : Context} {text rest : List Char} {t : Token}
    (h : lexeme context text = some (t, rest)) : rest.length < text.length := by
  cases text with
  | nil => simp [lexeme] at h
  | cons c text =>
    simp only [lexeme] at h
    split at h
    · split at h
      · simp only [Option.some.injEq, Prod.mk.injEq] at h
        simp [← h.2]
      · exact absurd h (by simp)
    · split at h
      · split at h
        · simp only [Option.some.injEq, Prod.mk.injEq] at h
          have := (List.dropWhile_suffix Text.isAsciiNameChar (l := text)).length_le
          rw [← h.2]
          simp only [List.length_cons]
          omega
        · exact absurd h (by simp)
      · obtain ⟨w, -, hw⟩ := List.exists_of_findSome?_eq_some h
        obtain ⟨r, hr, he⟩ := Option.map_eq_some_iff.1 hw
        have := length_of_dropWord hr
        have := w.text_ne_nil
        simp only [Prod.mk.injEq] at he
        rw [← he.2]
        omega

end KeyedAccess.Schema
