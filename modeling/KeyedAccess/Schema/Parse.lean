import KeyedAccess.Schema.Lexeme
import KeyedAccess.Schema.Meaning

/-!
# Parsing declaration files

The text of a declaration file is cut into tokens while its tree is read, because each token depends
on the place where it stands. An error names the first token that cannot follow, or the first
character that begins no token, and where it stands.
-/

namespace KeyedAccess.Schema

/-- A place in a text. -/
structure Position where
  /-- The line, counted from one by line feeds. -/
  line : Nat
  /-- The column, counted from one by characters. -/
  column : Nat
deriving DecidableEq, Repr

/-- The position behind one more character. -/
def Position.after (p : Position) (c : Char) : Position :=
  if c = '\n' then ⟨p.line + 1, 1⟩ else ⟨p.line, p.column + 1⟩

/-- The position at the end of a text. -/
def Position.endOf (text : List Char) : Position := text.foldl Position.after ⟨1, 1⟩

/-- The position where the rest of a text begins. -/
def Position.ofRest (text rest : List Char) : Position :=
  Position.endOf (text.take (text.length - rest.length))

/-- Why a text is no declaration file. The rest is the text from the offending place on. -/
inductive Refusal where
  /-- A token that cannot follow. -/
  | token (t : Token) (rest : List Char)
  /-- The end of the text, behind a last token at the given rest. -/
  | atEnd (rest : List Char)
  /-- A character that begins no token. -/
  | character (c : Char) (rest : List Char)
deriving Repr

/-- Reads the rest of a text from a state. The last token, or without one the text, begins at
`last`. -/
def readFrom (s : State) (last text : List Char) : Except Refusal File :=
  match _hskip : skipBlank false text with
  | [] =>
    match s.finish with
    | some f => .ok f
    | none => .error (.atEnd last)
  | c :: rest =>
    match _hlex : lexeme s.place.context (c :: rest) with
    | some (t, behind) =>
      match s.step t with
      | some next => readFrom next (c :: rest) behind
      | none => .error (.token t (c :: rest))
    | none =>
      match lexeme .everything (c :: rest) with
      | some (t, _) => .error (.token t (c :: rest))
      | none => .error (.character c (c :: rest))
termination_by text.length
decreasing_by
  have hlt := length_lt_of_lexeme _hlex
  have hle := length_skipBlank_le false text
  rw [_hskip] at hle
  exact Nat.lt_of_lt_of_le hlt hle

/-- The tree of a declaration file. -/
def readFile (text : List Char) : Except Refusal File := readFrom .start text text

/-- Why a text stands for no declarations. -/
inductive ParseError where
  /-- A token cannot follow. -/
  | unexpectedToken (t : Token) (position : Position)
  /-- The text ends too early; the position is that of the last token. -/
  | unexpectedEnd (position : Position)
  /-- No token begins with a character. -/
  | unexpectedCharacter (c : Char) (position : Position)
  /-- The file is well formed and has no meaning. -/
  | invalid (e : MeaningError)
deriving Repr

/-- A refusal with its position in the text. -/
def Refusal.located (text : List Char) : Refusal → ParseError
  | .token t rest => .unexpectedToken t (.ofRest text rest)
  | .atEnd rest => .unexpectedEnd (.ofRest text rest)
  | .character c rest => .unexpectedCharacter c (.ofRest text rest)

/-- The declarations that a text stands for. -/
def parseChars (text : List Char) : Except ParseError (List Declaration) :=
  match readFile text with
  | .error refusal => .error (refusal.located text)
  | .ok f =>
    match meaning f with
    | .error e => .error (.invalid e)
    | .ok declarations => .ok declarations

/-- The declarations that a text stands for. -/
def parse (text : String) : Except ParseError (List Declaration) := parseChars text.toList

/-- Where an error stands, unless it is one of meaning. -/
def ParseError.position? : ParseError → Option Position
  | .unexpectedToken _ position => some position
  | .unexpectedEnd position => some position
  | .unexpectedCharacter _ position => some position
  | .invalid _ => none

/-- A token as messages show it. -/
def shownToken (label text : String) : String := "Token('" ++ label ++ "', '" ++ text ++ "')"

/-- The wording of an unexpected token. -/
def unexpectedMessage (label text : String) (position : Position) : String :=
  "Unexpected token " ++ shownToken label text ++ " at line " ++ toString position.line ++
    ", column " ++ toString position.column ++ "."

/-- The wording of an error. -/
def ParseError.message : ParseError → String
  | .unexpectedToken t position => unexpectedMessage t.label t.text position
  | .unexpectedEnd position => unexpectedMessage "$END" "" position
  | .unexpectedCharacter c position =>
    "No terminal matches '" ++ String.singleton c ++ "' in the current parser context, at line " ++
      toString position.line ++ " col " ++ toString position.column
  | .invalid e => e.message

end KeyedAccess.Schema
