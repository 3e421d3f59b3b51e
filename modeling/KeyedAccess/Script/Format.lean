import KeyedAccess.Script.Literal

/-!
# Formatted texts

A formatted text is cut into literal pieces and replacement fields. The source of a field ends at
the first mark outside brackets and quotes that can follow it; a doubled brace is a literal one. A
format may hold fields of its own, but these may not hold formats with fields.
-/

namespace KeyedAccess.Script

/-- A piece of a formatted text whose expressions are not read yet. -/
inductive RawPiece where
  /-- Text as it stands. -/
  | text (points : List Nat)
  /-- The source of an expression, its conversion and its format. -/
  | field (source : List Char) (conversion : Option Char) (format : Option (List RawPiece))

/-- What is open within a field. -/
structure FieldScan where
  /-- Characters that are taken without a look. -/
  ahead : Nat := 0
  /-- The quote character of an open text, and whether it is tripled. -/
  quote : Option (Char × Bool) := none
  /-- The open brackets, innermost first. -/
  brackets : List Char := []

/-- What a character means for the source of a field. -/
inductive FieldMove where
  /-- It belongs to the source. -/
  | take (next : FieldScan)
  /-- It ends the source. -/
  | stop
  /-- It cannot stand there. -/
  | refuse

/-- A bracket that a closing one closes. -/
def closes (opened c : Char) : Bool :=
  (opened == '(' && c == ')') || (opened == '[' && c == ']') || (opened == '{' && c == '}')

/-- A character within an open text of a field. -/
def FieldScan.quoted (s : FieldScan) (quote : Char) (triple : Bool) (c : Char)
    (rest : List Char) : FieldScan :=
  if c ≠ quote then s
  else if triple then
    if rest.take 2 == [quote, quote] then { s with quote := none, ahead := 2 } else s
  else { s with quote := none }

/-- A character outside all texts of a field. -/
def FieldScan.plain (s : FieldScan) (c : Char) (rest : List Char) : FieldMove :=
  if c = '\'' ∨ c = '"' then
    if rest.take 2 == [c, c] then .take { s with quote := some (c, true), ahead := 2 }
    else .take { s with quote := some (c, false) }
  else if c = '(' ∨ c = '[' ∨ c = '{' then
    if s.brackets.length < 200 then .take { s with brackets := c :: s.brackets } else .refuse
  else if c = '#' then .refuse
  else if s.brackets.isEmpty ∧ ['!', ':', '}', '=', '<', '>'].contains c then
    if rest.head? = some '=' ∧ c ≠ ':' ∧ c ≠ '}' then .take { s with ahead := 1 }
    else if c = '<' ∨ c = '>' then .take s
    else .stop
  else if c = ')' ∨ c = ']' ∨ c = '}' then
    match s.brackets with
    | opened :: outer => if closes opened c then .take { s with brackets := outer } else .refuse
    | [] => .refuse
  else .take s

/-- The source of a field, up to the mark that ends it, and the text from that mark on; nothing if
there is none, or if a backslash or a comment stands in it. -/
def fieldSource (s : FieldScan) : List Char → Option (List Char × List Char)
  | [] => none
  | c :: rest =>
    let move : FieldMove :=
      if s.ahead ≠ 0 then .take { s with ahead := s.ahead - 1 }
      else if c = '\\' then .refuse
      else match s.quote with
        | some (quote, triple) => .take (s.quoted quote triple c rest)
        | none => s.plain c rest
    match move with
    | .take next => (fieldSource next rest).map fun read => (c :: read.1, read.2)
    | .stop => some ([], c :: rest)
    | .refuse => none

/-- Blank characters behind the mark of a self-documenting field. -/
def isFieldBlank (c : Char) : Bool :=
  c == ' ' || (decide (9 ≤ c.toNat) && decide (c.toNat ≤ 13))

/-- A source of blanks alone, which is no expression. -/
def isBlankSource (source : List Char) : Bool :=
  source.all fun c => c == ' ' || c == '\t' || c == '\n' || c.toNat == 12

/-- How the next character of a literal text is taken. -/
inductive LiteralMode where
  /-- It may be a brace or begin an escape. -/
  | plain
  /-- It follows a backslash. -/
  | escaped
  /-- It belongs to the name of a character, up to a closing brace. -/
  | naming
deriving DecidableEq

/-- The literal text at the front of a formatted text, whether it ended at a doubled brace, and the
text behind it. Braces are doubled only at the top; a lone closing brace is refused there. -/
def literalRun (escapes top : Bool) (mode : LiteralMode) :
    List Char → Option (List Char × Bool × List Char)
  | [] => some ([], false, [])
  | c :: rest =>
    let keep (mode : LiteralMode) : Option (List Char × Bool × List Char) :=
      (literalRun escapes top mode rest).map fun read => (c :: read.1, read.2)
    match mode with
    | .escaped => keep .plain
    | .naming => keep (if c = '}' then .plain else .naming)
    | .plain =>
      if c = '{' ∨ c = '}' then
        if top ∧ rest.head? = some c then some ([c], true, rest.drop 1)
        else if top ∧ c = '}' then none
        else some ([], false, c :: rest)
      else if escapes ∧ c = '\\' then
        if rest.take 2 == ['N', '{'] then keep .naming
        else if rest.head? = some '{' ∨ rest.head? = some '}' then keep .plain
        else keep .escaped
      else keep .plain

/-- Joins neighbouring literal pieces and drops empty ones. -/
def mergePieces : List RawPiece → List RawPiece
  | [] => []
  | .text points :: rest =>
    match mergePieces rest with
    | .text more :: others => .text (points ++ more) :: others
    | others => if points.isEmpty then others else .text points :: others
  | piece :: rest => piece :: mergePieces rest

/-- The conversion behind its mark, and the text behind it. -/
def conversionRun : List Char → Option (Option Char × List Char)
  | '!' :: rest =>
    match rest.takeWhile fun c => c != '}' && c != ':' with
    | [c] =>
      if (c = 's' ∨ c = 'r' ∨ c = 'a') ∧ !(rest.drop 1).isEmpty then some (some c, rest.drop 1)
      else none
    | _ => none
  | rest => some (none, rest)

/-- A literal piece with its escapes resolved, if they count. -/
def literalPiece (escapes : Bool) (literal : List Char) : Option RawPiece :=
  (if escapes then unescape true literal else some (pointsOf literal)).map .text

/-- The pieces of a formatted text or format, and the text behind them, which is empty or begins
with a closing brace. The depth counts the formats around; the limit bounds the pieces. -/
def piecesWithin (escapes : Bool) (depth : Nat) :
    Nat → List Char → Option (List RawPiece × List Char)
  | 0, _ => none
  | limit + 1, text => do
    let (literal, doubled, rest) ← literalRun escapes (depth == 0) .plain text
    let front ← literalPiece escapes literal
    if doubled then
      let (others, behind) ← piecesWithin escapes depth limit rest
      return (front :: others, behind)
    match rest with
    | '{' :: field =>
      if 2 ≤ depth then none
      let (source, mark) ← fieldSource {} field
      if isBlankSource source then none
      let documented := mark.head? == some '='
      let afterMark := if documented then (mark.drop 1).dropWhile isFieldBlank else mark
      let shown := field.take (field.length - afterMark.length)
      let (conversion, afterConversion) ← conversionRun afterMark
      let (format, close) ← (match afterConversion with
        | [':'] => none
        | ':' :: inner => do
          let (pieces, behind) ← piecesWithin escapes (depth + 1) limit inner
          return (some (mergePieces pieces), behind)
        | _ => some (none, afterConversion))
      match close with
      | '}' :: next =>
        let conversion :=
          if documented && format.isNone && conversion.isNone then some 'r' else conversion
        let label := if documented then [RawPiece.text (pointsOf shown)] else []
        let (others, behind) ← piecesWithin escapes depth limit next
        return (front :: (label ++ RawPiece.field source conversion format :: others), behind)
      | _ => none
    | _ => return ([front], rest)

/-- The pieces of the body of a formatted text; nothing if it is malformed. -/
def rawPieces (escapes : Bool) (body : List Char) : Option (List RawPiece) :=
  match piecesWithin escapes 0 (body.length + 1) body with
  | some (pieces, []) => some pieces
  | _ => none

end KeyedAccess.Script
