import KeyedAccess.Script.Expression

/-!
# Patterns in class sources

The grammar of the patterns of a match statement. Like the grammar of expressions it is written over
a reader for nested patterns, which is used only after a token has been taken.
-/

namespace KeyedAccess.Script

/-- A number of a pattern, with a sign in front of it perhaps. -/
def signedNumber : Reader Expr := do
  let negative ← acceptOp "-"
  match ← peek with
  | .number (some value) =>
    advance
    if negative then return .unary .minus (.constant value) else return .constant value
  | _ => refuse

/-- Whether a number is imaginary. -/
def Expr.isImaginary : Expr → Bool
  | .constant (.imaginary _) => true
  | .unary _ operand => match operand with
    | .constant (.imaginary _) => true
    | _ => false
  | _ => false

/-- A number or a sum of a real and an imaginary number. -/
def patternNumber : Reader Expr := do
  let first ← signedNumber
  let op ←
    if ← nextIsOp "+" then pure (some BinaryOp.add)
    else if ← nextIsOp "-" then pure (some BinaryOp.subtract)
    else pure none
  match op with
  | none => return first
  | some op =>
    if first.isImaginary then refuse
    advance
    match ← peek with
    | .number (some (.imaginary x)) =>
      advance
      return .binary first op (.constant (.imaginary x))
    | _ => refuse

/-- The literal at the front of a pattern, if there is one. -/
def patternLiteral (g : Grammar) : Reader (Option Expr) := do
  match ← peek with
  | .number _ | .op "-" => return some (← patternNumber)
  | .quotation _ => return some (← quotations g)
  | .word "None" =>
    advance
    return some (.constant .none)
  | .word "True" =>
    advance
    return some (.constant (.truth true))
  | .word "False" =>
    advance
    return some (.constant (.truth false))
  | _ => return none

/-- Names joined by dots. -/
def dottedName : Reader Expr := do
  let first ← identifier
  let others ← many do
    if ← acceptOp "." then return some (← identifier) else return none
  return others.foldl .member (.name first)

/-- Whether the wildcard comes next. -/
def nextIsWildcard : Reader Bool := return (← peek) == .name ['_']

/-- Fails where a name cannot be bound, because it is the beginning of something else. -/
def refuseLongerName : Reader Unit := do
  if (← nextIsOp ".") || (← nextIsOp "(") || (← nextIsOp "=") then refuse

/-- A name that a pattern binds. -/
def captureTarget : Reader String := do
  if ← nextIsWildcard then refuse
  let name ← identifier
  refuseLongerName
  return name

/-- A pattern for the rest of a sequence, or a plain one. -/
def sequenceItem (pattern : Reader Pattern) : Reader Pattern := do
  if ← acceptOp "*" then
    if ← nextIsWildcard then
      advance
      return .rest none
    else return .rest (some (← captureTarget))
  else pattern

/-- What parentheses of a pattern hold. -/
def patternParenthesis (pattern : Reader Pattern) : Reader Pattern := do
  if ← acceptOp ")" then return .sequence []
  let first ← sequenceItem pattern
  if ← acceptOp "," then
    let others ← commaList ")" (sequenceItem pattern)
    expectOp ")"
    return .sequence (first :: others)
  if first matches .rest _ then refuse
  expectOp ")"
  return first

/-- The entries of a mapping pattern that have been read. -/
structure MappingSoFar where
  /-- The keys. -/
  keys : List Expr
  /-- Their patterns. -/
  patterns : List Pattern
  /-- The name for the rest. -/
  rest : Option String

/-- The entries of a mapping pattern up to the closing brace, which is not taken. Nothing follows
the name for the rest. -/
def mappingWithin (g : Grammar) (pattern : Reader Pattern) :
    Nat → MappingSoFar → Reader MappingSoFar
  | 0, soFar => return soFar
  | count + 1, soFar => do
    if ← nextIsOp "\x7d" then return soFar
    if ← acceptOp "**" then
      let name ← captureTarget
      discard (acceptOp ",")
      return { soFar with rest := some name }
    let key ← match ← patternLiteral g with
      | some literal => pure literal
      | none => do
        let name ← dottedName
        if name matches .name _ then refuse else pure name
    expectOp ":"
    let value ← pattern
    let next := { soFar with keys := soFar.keys ++ [key], patterns := soFar.patterns ++ [value] }
    if ← acceptOp "," then mappingWithin g pattern count next else return next

/-- The arguments of a class pattern up to the closing parenthesis, which is not taken; after a
named one all are named. -/
def classArguments (pattern : Reader Pattern) :
    Nat → List Pattern → List (String × Pattern) →
      Reader (List Pattern × List (String × Pattern))
  | 0, plain, named => return (plain, named)
  | count + 1, plain, named => do
    if ← nextIsOp ")" then return (plain, named)
    let (plain, named) ←
      if ← nextIsNameThen "=" then do
        let name ← identifier
        advance
        pure (plain, named ++ [(name, ← pattern)])
      else if named.isEmpty then do pure (plain ++ [← pattern], named)
      else refuse
    if ← acceptOp "," then classArguments pattern count plain named
    else return (plain, named)

/-- A pattern that begins with a name. -/
def namedPattern (pattern : Reader Pattern) : Reader Pattern := do
  if ← nextIsWildcard then
    advance
    return .capture none
  let name ← dottedName
  if ← acceptOp "(" then
    let (plain, named) ← fun tokens => classArguments pattern tokens.length [] [] tokens
    expectOp ")"
    return .object name plain (named.map (·.1)) (named.map (·.2))
  refuseLongerName
  match name with
  | .name id => return .capture (some id)
  | _ => return .value name

/-- A pattern that no bar or binding can split. -/
def closedPattern (g : Grammar) (pattern : Reader Pattern) : Reader Pattern := do
  match ← patternLiteral g with
  | some literal => return .value literal
  | none =>
    match ← peek with
    | .name _ => namedPattern pattern
    | .op "(" =>
      advance
      patternParenthesis pattern
    | .op "[" =>
      advance
      let items ← commaList "]" (sequenceItem pattern)
      expectOp "]"
      return .sequence items
    | .op "\x7b" =>
      advance
      let read ← fun tokens => mappingWithin g pattern tokens.length ⟨[], [], none⟩ tokens
      expectOp "\x7d"
      return .mapping read.keys read.patterns read.rest
    | _ => refuse

/-- One step of the grammar of patterns over a reader for nested ones. -/
def patternOf (g : Grammar) (pattern : Reader Pattern) : Reader Pattern := do
  let first ← closedPattern g pattern
  let others ← many do
    if ← acceptOp "|" then return some (← closedPattern g pattern) else return none
  let whole := if others.isEmpty then first else .either (first :: others)
  if ← acceptWord "as" then return .bind whole (← captureTarget) else return whole

/-- The grammar of patterns with nesting up to a depth. -/
def patternWithin (g : Grammar) : Nat → Reader Pattern
  | 0 => refuse
  | depth + 1 => patternOf g (patternWithin g depth)

/-- The pattern of a case, which may be a sequence without brackets. -/
def casePattern (pattern : Reader Pattern) : Reader Pattern := do
  let first ← sequenceItem pattern
  if ← nextIsOp "," then
    let begins (t : Token) : Bool := t != .op ":" && t != .word "if"
    let others ← many do
      if ← acceptOp "," then
        if begins (← peek) then return some (← sequenceItem pattern) else return none
      else return none
    return .sequence (first :: others)
  if first matches .rest _ then refuse
  return first

end KeyedAccess.Script
