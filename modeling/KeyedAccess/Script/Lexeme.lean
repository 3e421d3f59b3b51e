import KeyedAccess.Script.Number
import KeyedAccess.Text.Identifier

/-!
# Lexemes of class sources

A text is cut into tokens from its front. Outside brackets the end of a line is a token, and the
indentation of a line that holds more than a comment opens a block or closes some. A tab reaches to
the next multiple of eight columns; an indentation that would compare differently if a tab were one
column wide is refused.
-/

namespace KeyedAccess.Script

/-- Where the lexer stands: the open blocks, the open brackets, and whether a line begins. -/
structure Layout where
  /-- The columns of the open blocks with wide and with narrow tabs, innermost first. -/
  blocks : List (Nat × Nat)
  /-- The open brackets, innermost first. -/
  brackets : List Char
  /-- Whether a line begins. -/
  atLineStart : Bool
deriving DecidableEq, Repr

/-- The layout before the first line. -/
def Layout.start : Layout := ⟨[], [], true⟩

/-- What the lexer finds at the front of a text. -/
inductive Scan where
  /-- Some tokens, and it goes on behind them. -/
  | go (tokens : List Token) (next : Layout) (rest : List Char)
  /-- The last tokens. -/
  | stop (tokens : List Token)

/-- The most open blocks. -/
def blockLimit : Nat := 100

/-- The most open brackets. -/
def bracketLimit : Nat := 200

/-- The columns of the first character of a line, with wide and with narrow tabs, and the text from
it on; nothing if a line is continued by the end of the text. A form feed counts the columns anew.
Of an indentation over several lines the first line counts. -/
def indentation (wide narrow first : Nat) : List Char → Option ((Nat × Nat) × List Char)
  | ' ' :: rest => indentation (wide + 1) (narrow + 1) first rest
  | '\t' :: rest => indentation ((wide / 8 + 1) * 8) (narrow + 1) first rest
  | '\x0c' :: rest => indentation 0 0 first rest
  | '\\' :: '\n' :: c :: rest =>
    indentation wide narrow (if first = 0 then wide else first) (c :: rest)
  | '\\' :: _ => none
  | rest => some (if first = 0 then (wide, narrow) else (first, first), rest)

/-- Closes the blocks that are indented deeper than a column. -/
def closeBlocks (column : Nat) : List (Nat × Nat) → List Token × List (Nat × Nat)
  | [] => ([], [])
  | block :: outer =>
    if column < block.1 then
      let closed := closeBlocks column outer
      (.dedent :: closed.1, closed.2)
    else ([], block :: outer)

/-- Opens or closes blocks for a line that begins at the given columns. -/
def placeLine (columns : Nat × Nat) (blocks : List (Nat × Nat)) :
    Except Fault (List Token × List (Nat × Nat)) :=
  let current := blocks.headD (0, 0)
  if columns.1 = current.1 then
    if columns.2 = current.2 then .ok ([], blocks) else .error .tabs
  else if current.1 < columns.1 then
    if blockLimit ≤ blocks.length + 1 then .error .indentation
    else if columns.2 ≤ current.2 then .error .tabs
    else .ok ([.indent], columns :: blocks)
  else
    let closed := closeBlocks columns.1 blocks
    let outer := closed.2.headD (0, 0)
    if columns.1 ≠ outer.1 then .error .indentation
    else if columns.2 ≠ outer.2 then .error .tabs
    else .ok closed

/-- The end of the text. -/
def scanEnd (s : Layout) : Scan :=
  if s.brackets.isEmpty then .stop (s.blocks.map (fun _ => Token.dedent) ++ [.finish])
  else .stop [.fault .unfinished]

/-- The beginning of a line. A line without tokens changes nothing. -/
def scanLineStart (s : Layout) (text : List Char) : Scan :=
  match indentation 0 0 0 text with
  | none => .stop [.fault .unfinished]
  | some (columns, rest) =>
    let behindComment := if rest.head? = some '#' then rest.dropWhile (· != '\n') else rest
    match behindComment with
    | [] => scanEnd s
    | '\n' :: next => .go [] s next
    | _ =>
      if s.brackets.isEmpty then
        match placeLine columns s.blocks with
        | .ok (tokens, blocks) => .go tokens { s with blocks, atLineStart := false } rest
        | .error fault => .stop [.fault fault]
      else .go [] { s with atLineStart := false } rest

/-- The text up to the quotes that close it, and the text behind these. A character behind a
backslash closes nothing; a line ends only a text in single quotes. -/
def quotedBody (quote : Char) (triple : Bool) : List Char → Option (List Char × List Char)
  | [] => none
  | '\\' :: c :: rest =>
    (quotedBody quote triple rest).map fun found => ('\\' :: c :: found.1, found.2)
  | c :: rest =>
    if c = quote then
      if triple then
        match rest with
        | c1 :: c2 :: behind =>
          if c1 = quote ∧ c2 = quote then some ([], behind)
          else (quotedBody quote triple rest).map fun found => (c :: found.1, found.2)
        | _ => none
      else some ([], rest)
    else if c = '\n' ∧ !triple then none
    else (quotedBody quote triple rest).map fun found => (c :: found.1, found.2)

/-- Whether letters, in either case, may stand before quotes. -/
def isQuotationMark (letters : List Char) : Bool :=
  ["", "b", "r", "u", "f", "br", "rb", "fr", "rf"].contains
    (String.ofList (letters.map Char.toLower))

/-- A quote character. -/
def isQuote (c : Char) : Bool := c == '\'' || c == '"'

/-- A literal text at the front, after its letters. -/
def scanQuotation (s : Layout) (letters : List Char) : List Char → Scan
  | [] => .stop [.fault .characters]
  | quote :: rest =>
    let triple := rest.take 2 == [quote, quote]
    match quotedBody quote triple (if triple then rest.drop 2 else rest) with
    | some (body, behind) => .go [.quotation ⟨letters, body⟩] s behind
    | none => .stop [.fault .characters]

/-- A word at the front. -/
def scanWord (s : Layout) (text : List Char) : Scan :=
  let word := text.takeWhile isWordChar
  let rest := text.dropWhile isWordChar
  if rest.head?.any isQuote && isQuotationMark word then scanQuotation s word rest
  else if reservedWords.contains (String.ofList word) then
    .go [.word (String.ofList word)] s rest
  else if Text.isIdentifier word then .go [.name word] s rest
  else .stop [.fault .characters]

/-- The bracket that closes an opening one. -/
def closingBracket (c : Char) : Char :=
  if c = '(' then ')' else if c = '[' then ']' else '}'

/-- Follows a bracket; nothing if it closes none or the wrong one, or is nested too deep. -/
def bracketsAfter (brackets : List Char) (op : String) : Option (List Char) :=
  match op.toList with
  | [c] =>
    if c = '(' ∨ c = '[' ∨ c = '{' then
      if brackets.length < bracketLimit then some (c :: brackets) else none
    else if c = ')' ∨ c = ']' ∨ c = '}' then
      match brackets with
      | opened :: outer => if closingBracket opened = c then some outer else none
      | [] => none
    else some brackets
  | _ => some brackets

/-- An operator at the front. -/
def scanOperator (s : Layout) (text : List Char) : Scan :=
  match operators.find? fun op => op.toList.isPrefixOf text with
  | some op =>
    match bracketsAfter s.brackets op with
    | some brackets => .go [.op op] { s with brackets } (text.drop op.length)
    | none => .stop [.fault .characters]
  | none => .stop [.fault .characters]

/-- A blank within a line. -/
def isLineBlank (c : Char) : Bool := c == ' ' || c == '\t' || c.toNat == 12

/-- The next token within a line. -/
def scanToken (s : Layout) (text : List Char) : Scan :=
  match text.dropWhile isLineBlank with
  | [] => scanEnd s
  | '#' :: rest => .go [] s (rest.dropWhile (· != '\n'))
  | '\n' :: rest =>
    .go (if s.brackets.isEmpty then [.newline] else []) { s with atLineStart := true } rest
  | '\\' :: '\n' :: c :: rest => .go [] s (c :: rest)
  | '\\' :: _ => .stop [.fault .unfinished]
  | c :: rest =>
    if isDecimalDigit c || (c == '.' && rest.head?.any isDecimalDigit) then
      match numberLexeme (c :: rest) with
      | some (value, behind) => .go [.number value] s behind
      | none => .stop [.fault .characters]
    else if isQuote c then scanQuotation s [] (c :: rest)
    else if isWordChar c then scanWord s (c :: rest)
    else scanOperator s (c :: rest)

/-- The tokens from a layout on. Each scan leaves a shorter text or ends the beginning of a line. -/
def tokensFrom (s : Layout) (text : List Char) : List Token :=
  match if s.atLineStart then scanLineStart s text else scanToken s text with
  | .stop tokens => tokens
  | .go tokens next rest =>
    if _h : rest.length < text.length ∨
        (rest.length = text.length ∧ s.atLineStart = true ∧ next.atLineStart = false) then
      tokens ++ tokensFrom next rest
    else tokens ++ [.fault .characters]
termination_by 2 * text.length + (if s.atLineStart then 1 else 0)
decreasing_by
  rcases _h with h | ⟨h, hs, hn⟩
  · split <;> split <;> omega
  · simp [hs, hn, h]

/-- Line ends in one form, and one at the end of the last line. -/
def uniformLines : List Char → List Char
  | [] => ['\n']
  | '\r' :: '\n' :: rest => '\n' :: (if rest.isEmpty then [] else uniformLines rest)
  | '\r' :: rest => '\n' :: (if rest.isEmpty then [] else uniformLines rest)
  | '\n' :: rest => '\n' :: (if rest.isEmpty then [] else uniformLines rest)
  | c :: rest => c :: uniformLines rest

/-- The tokens of a text. -/
def tokenize (text : List Char) : List Token := tokensFrom .start (uniformLines text)

end KeyedAccess.Script
