import KeyedAccess.Script.Pattern

/-!
# Statements in class sources

The grammar of statements over a reader for nested lines. A block is one line behind a colon, or
lines that are indented deeper.
-/

namespace KeyedAccess.Script

/-- The readers that the grammar of statements is written over. -/
structure Readers where
  /-- Expressions. -/
  grammar : Grammar
  /-- Patterns. -/
  pattern : Reader Pattern
  /-- One line, or one statement with its blocks. -/
  line : Reader (List Statement)

/-- Reads one expression. -/
def Readers.expression (r : Readers) : Reader Expr := r.grammar .expression

/-- Reads an expression that must satisfy a condition, or fails behind it. -/
def Readers.checked (check : Expr → Bool) (item : Reader Expr) : Reader Expr := do
  let value ← item
  unless check value do refuse
  return value

/-- The right side of an assignment. -/
def Readers.assigned (r : Readers) : Reader Expr := do
  if ← nextIsWord "yield" then yieldExpression r.grammar else expressionsOf r.grammar

/-- The operators of assignments that change a value. -/
def augmentations : List (String × BinaryOp) := [
  ("+=", .add), ("-=", .subtract), ("*=", .multiply), ("@=", .matrixMultiply), ("/=", .divide),
  ("%=", .modulo), ("&=", .bitAnd), ("|=", .bitOr), ("^=", .bitXor), ("<<=", .shiftLeft),
  (">>=", .shiftRight), ("**=", .power), ("//=", .floorDivide)]

/-- The operator of an assignment that changes a value, taken, if it comes next. -/
def augmentation : Reader (Option BinaryOp) := do
  match ← peek with
  | .op symbol =>
    match augmentations.lookup symbol with
    | some op =>
      advance
      return some op
    | none => return none
  | _ => return none

/-- The values behind equals signs, of which all but the last are targets. -/
def chainWithin (r : Readers) : Nat → List Expr → Expr → Reader Statement
  | 0, targets, value => return .assign targets value
  | count + 1, targets, value => do
    if ← nextIsOp "=" then
      unless value.isTarget do refuse
      advance
      chainWithin r count (targets ++ [value]) (← r.assigned)
    else if targets.isEmpty then return .expression value
    else return .assign targets value

/-- An expression, or an assignment whose first target is one. -/
def expressionStatement (r : Readers) : Reader Statement := do
  let value ← r.assigned
  if ← nextIsOp ":" then
    unless value.isSingleTarget do refuse
    advance
    let type ← r.expression
    let given ← if ← acceptOp "=" then some <$> r.assigned else pure none
    return .declare value type given
  let next ← peek
  if augmentations.any fun entry => next == .op entry.1 then
    unless value.isSingleTarget do refuse
    match ← augmentation with
    | some op => return .augment value op (← r.assigned)
    | none => refuse
  fun tokens => chainWithin r tokens.length [] value tokens

/-- A name that gets another one perhaps. -/
def aliasOf (name : Reader String) : Reader Alias := do
  let name ← name
  let bound ← if ← acceptWord "as" then some <$> identifier else pure none
  return ⟨name, bound⟩

/-- A dotted name as text. -/
def modulePath : Reader String := do
  let names ← do
    let first ← identifier
    let others ← many do
      if ← acceptOp "." then return some (← identifier) else return none
    pure (first :: others)
  return ".".intercalate names

/-- The names of an import between commas; only parentheses allow one at the end. -/
def importedNames : Reader (Option (List Alias)) := do
  if ← acceptOp "*" then return none
  if ← acceptOp "(" then
    let first ← aliasOf identifier
    unless ← nextIsOp ")" do expectOp ","
    let others ← commaList ")" (aliasOf identifier)
    expectOp ")"
    return some (first :: others)
  return some (← commaSeparated (aliasOf identifier))

/-- An import from a module, after its word. -/
def importFromAfter : Reader Statement := do
  let dots ← many do
    if ← acceptOp "." then return some 1
    else if ← acceptOp "..." then return some 3
    else return none
  let module ← if dots.isEmpty || !(← nextIsWord "import") then some <$> modulePath else pure none
  expectWord "import"
  return .importFrom (dots.foldl Nat.add 0) module (← importedNames)

/-- Targets of a deletion between commas. -/
def deletedTargets (r : Readers) : Reader (List Expr) := do
  match ← looseTuple (Readers.checked Expr.isDeletable r.expression) beginsExpression with
  | .tuple items => return items
  | item => return [item]

/-- A statement that fits on a line. -/
def simpleStatement (r : Readers) : Reader Statement := do
  match ← peek with
  | .word "return" =>
    advance
    if beginsItem (← peek) then return .return (some (← expressionsOf r.grammar))
    else return .return none
  | .word "import" =>
    advance
    return .importModules (← commaSeparated (aliasOf modulePath))
  | .word "from" =>
    advance
    importFromAfter
  | .word "raise" =>
    advance
    if beginsExpression (← peek) then
      let error ← r.expression
      let cause ← if ← acceptWord "from" then some <$> r.expression else pure none
      return .raise (some error) cause
    else return .raise none none
  | .word "pass" =>
    advance
    return .pass
  | .word "del" =>
    advance
    return .delete (← deletedTargets r)
  | .word "assert" =>
    advance
    let test ← r.expression
    let message ← if ← acceptOp "," then some <$> r.expression else pure none
    return .assert test message
  | .word "break" =>
    advance
    return .break
  | .word "continue" =>
    advance
    return .continue
  | .word "global" =>
    advance
    return .global (← commaSeparated identifier)
  | .word "nonlocal" =>
    advance
    return .nonlocal (← commaSeparated identifier)
  | _ => expressionStatement r

/-- Further statements of a line, after semicolons, and the end of the line. -/
def lineAfterWithin (r : Readers) : Nat → Reader (List Statement)
  | 0 => refuse
  | count + 1 => do
    if ← acceptOp ";" then
      if ← accept .newline then return []
      let next ← simpleStatement r
      return next :: (← lineAfterWithin r count)
    else
      expect .newline
      return []

/-- The statements of one line. -/
def simpleLine (r : Readers) : Reader (List Statement) := do
  let first ← simpleStatement r
  let others ← fun tokens => lineAfterWithin r (tokens.length + 1) tokens
  return first :: others

/-- Lines up to the end of a block or of the text, which is not taken. -/
def linesOf (r : Readers) : Reader (List Statement) := do
  let found ← many do
    match ← peek with
    | .dedent | .finish => return none
    | _ => return some (← r.line)
  return found.flatten

/-- Opens a block of lines after a colon: takes the end of the line and the deeper indentation. -/
def openBlock : Reader Unit := do
  expect .newline
  unless ← accept .indent do refuse .missingBlock

/-- A block. -/
def blockOf (r : Readers) : Reader (List Statement) := do
  expectOp ":"
  if (← peek) == .newline then
    openBlock
    let first ← r.line
    let others ← linesOf r
    expect .dedent
    return first ++ others
  else simpleLine r

/-- The block of an else branch, if there is one. -/
def elseBlock (r : Readers) : Reader (List Statement) := do
  if ← acceptWord "else" then blockOf r else return []

/-- The branches of a condition, after its first word. -/
def branches (r : Readers) : Nat → Reader Statement
  | 0 => refuse
  | count + 1 => do
    let test ← namedExpression r.grammar
    let body ← blockOf r
    if ← acceptWord "elif" then return .conditional test body [← branches r count]
    else return .conditional test body (← elseBlock r)

/-- A loop over an iterable, after its word. -/
def forAfter (r : Readers) (isAsync : Bool) : Reader Statement := do
  let target ← targetsOf r.grammar
  expectWord "in"
  let source ← expressionsOf r.grammar
  let body ← blockOf r
  return .for isAsync target source body (← elseBlock r)

/-- A context with the target that it binds. -/
def withItem (r : Readers) : Reader WithItem := do
  let context ← r.expression
  if ← acceptWord "as" then
    let operand := r.grammar .operand
    let target ← Readers.checked Expr.isTarget (starredOr operand operand)
    unless (← nextIsOp ",") || (← nextIsOp ")") || (← nextIsOp ":") do refuse
    return ⟨context, some target⟩
  else return ⟨context, none⟩

/-- The contexts of a with statement, in front of its colon. They may stand in parentheses, unless
these belong to the first context. -/
def withItems (r : Readers) : Reader (List WithItem) := do
  let plain : Reader (List WithItem) := do
    let items ← commaSeparated (withItem r)
    unless ← nextIsOp ":" do refuse
    return items
  if ← nextIsOp "(" then
    let enclosed : Reader (List WithItem) := do
      advance
      let first ← withItem r
      unless ← nextIsOp ")" do expectOp ","
      let others ← commaList ")" (withItem r)
      expectOp ")"
      unless ← nextIsOp ":" do refuse
      return first :: others
    orElse enclosed plain
  else plain

/-- A with statement, after its word. -/
def withAfter (r : Readers) (isAsync : Bool) : Reader Statement := do
  let items ← withItems r
  return .with isAsync items (← blockOf r)

/-- A handler, if one comes next; all handlers of a block are of one kind. -/
def handlerOf (r : Readers) (kind : Option Bool) : Reader (Option Handler) := do
  unless ← acceptWord "except" do return none
  let grouped ←
    if kind != some false && (← nextIsOp "*") then do
      advance
      pure true
    else if kind == some true then refuse
    else pure false
  if !grouped && (← nextIsOp ":") then return some (.mk false none none (← blockOf r))
  let type ← r.expression
  let name ← if ← acceptWord "as" then some <$> identifier else pure none
  return some (.mk grouped (some type) name (← blockOf r))

/-- Whether a handler handles groups. -/
def Handler.grouped : Handler → Bool
  | .mk grouped _ _ _ => grouped

/-- A guarded block, after its word. -/
def tryAfter (r : Readers) : Reader Statement := do
  let body ← blockOf r
  if ← acceptWord "finally" then return .try body [] [] (← blockOf r)
  match ← handlerOf r none with
  | none => refuse .missingHandler
  | some first =>
    let others ← many (handlerOf r (some first.grouped))
    let orElse ← elseBlock r
    let final ← if ← acceptWord "finally" then blockOf r else pure []
    return .try body (first :: others) orElse final

/-- A class, after its decorators and its word. -/
def classAfter (r : Readers) (decorators : List Expr) : Reader Statement := do
  let name ← identifier
  let arguments ← if ← acceptOp "(" then argumentsOf r.grammar else pure .start
  return .class decorators name arguments.positional arguments.named (← blockOf r)

/-- A function, after its decorators and its word. -/
def functionAfter (r : Readers) (isAsync : Bool) (decorators : List Expr) : Reader Statement := do
  let name ← identifier
  expectOp "("
  let parameters ← parametersOf r.grammar true ")"
  expectOp ")"
  let result ← if ← acceptOp "->" then some <$> r.expression else pure none
  return .function isAsync decorators name parameters result (← blockOf r)

/-- A function or a class behind at least one decorator. -/
def decorated (r : Readers) : Reader Statement := do
  let decorators ← many do
    if ← acceptOp "@" then
      let decorator ← namedExpression r.grammar
      expect .newline
      return some decorator
    else return none
  if ← acceptWord "class" then classAfter r decorators
  else if ← acceptWord "async" then
    expectWord "def"
    functionAfter r true decorators
  else
    expectWord "def"
    functionAfter r false decorators

/-- What stands behind the word of an asynchronous statement. -/
def asyncAfter (r : Readers) : Reader Statement := do
  if ← acceptWord "def" then functionAfter r true []
  else if ← acceptWord "with" then withAfter r true
  else
    expectWord "for"
    forAfter r true

/-- A case of a choice by patterns, if one comes next. -/
def caseOf (r : Readers) : Reader (Option Case) := do
  if (← peek) != .name "case".toList then return none
  advance
  let pattern ← casePattern r.pattern
  let guard ← if ← acceptWord "if" then some <$> namedExpression r.grammar else pure none
  return some (.mk pattern guard (← blockOf r))

/-- The subject of a choice by patterns. -/
def subjectOf (g : Grammar) : Reader Expr := do
  let first ← displayItem g
  if ← acceptOp "," then
    let others ← commaList ":" (displayItem g)
    return .tuple (first :: others)
  if first matches .starred _ then refuse
  return first

/-- A choice by patterns. Its word is reserved nowhere else. -/
def matchStatement (r : Readers) : Reader Statement := do
  expect (.name "match".toList)
  let subject ← subjectOf r.grammar
  expectOp ":"
  openBlock
  match ← caseOf r with
  | none => refuse
  | some first =>
    let others ← many (caseOf r)
    expect .dedent
    return .match subject (first :: others)

/-- One line, or one statement with its blocks, over a reader for nested ones. -/
def lineOf (r : Readers) : Reader (List Statement) := do
  match ← peek with
  | .word "if" =>
    advance
    return [← fun tokens => branches r tokens.length tokens]
  | .word "while" =>
    advance
    let test ← namedExpression r.grammar
    let body ← blockOf r
    return [.while test body (← elseBlock r)]
  | .word "for" =>
    advance
    return [← forAfter r false]
  | .word "with" =>
    advance
    return [← withAfter r false]
  | .word "try" =>
    advance
    return [← tryAfter r]
  | .word "class" =>
    advance
    return [← classAfter r []]
  | .word "def" =>
    advance
    return [← functionAfter r false []]
  | .word "async" =>
    advance
    return [← asyncAfter r]
  | .op "@" => return [← decorated r]
  | .name text =>
    if text = "match".toList then
      orElse (do return [← matchStatement r]) (simpleLine r)
    else simpleLine r
  | _ => simpleLine r

/-- The grammar of lines with nesting up to a depth. -/
def linesWithin (grammar : Grammar) (pattern : Reader Pattern) : Nat → Reader (List Statement)
  | 0 => refuse
  | depth + 1 => lineOf ⟨grammar, pattern, linesWithin grammar pattern depth⟩

/-- The readers with nesting up to a depth. -/
def readersWithin (depth : Nat) : Readers :=
  let grammar := grammarWithin depth
  let pattern := patternWithin grammar depth
  ⟨grammar, pattern, linesWithin grammar pattern depth⟩

/-- All lines of a text. -/
def moduleOf (depth : Nat) : Reader (List Statement) := do
  let body ← linesOf (readersWithin depth)
  expect .finish
  return body

/-- Why a text is no module. -/
inductive SourceError where
  /-- A text must not hold the character NUL. -/
  | nullCharacter
  /-- The text does not follow the grammar. -/
  | grammar
  /-- The indentation does not follow the grammar. -/
  | indentation
  /-- The indentation depends on the width of a tab. -/
  | tabs
deriving DecidableEq, Repr

/-- The error of a fault that a reading runs into. -/
def Fault.error : Fault → SourceError
  | .characters | .unfinished => .grammar
  | .tabs => .tabs
  | .indentation => .indentation

/-- The error of a failed reading. A fault of the text is reported as such. Where a block is missing
and further on some characters form no token, these count. -/
def Failure.error (f : Failure) : SourceError :=
  match f.rest.head?, f.cause with
  | some (.fault fault), _ => fault.error
  | _, .missingBlock =>
    if f.rest.contains (.fault .characters) then .grammar else .indentation
  | _, .missingHandler => .grammar
  | some .indent, .token | some .dedent, .token => .indentation
  | _, .token => .grammar

/-- The statements of a module. -/
def readModule (text : List Char) : Except SourceError (List Statement) :=
  if text.any fun c => c.toNat == 0 then .error .nullCharacter
  else
    match moduleOf (text.length + 2) (tokenize text) with
    | .ok (body, _) => .ok body
    | .error failure => .error failure.error

end KeyedAccess.Script
