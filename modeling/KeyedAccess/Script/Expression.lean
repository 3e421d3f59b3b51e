import KeyedAccess.Script.Format
import KeyedAccess.Script.Lexeme
import KeyedAccess.Script.Reader

/-!
# Expressions in class sources

The grammar of expressions. Each rule is written over the rules that it refers to again after taking
a token, so the nesting of an expression is bounded by the number of its tokens.
-/

namespace KeyedAccess.Script

/-- The rules of the grammar that refer to themselves. -/
inductive Rule where
  /-- A conditional expression, a function expression, or less. -/
  | expression
  /-- Operands joined by connectives, or less. -/
  | disjunction
  /-- Operands of a comparison. -/
  | operand
  /-- An operand of a product. -/
  | factor
deriving DecidableEq, Repr

/-- A reader for each of these rules. -/
abbrev Grammar := Rule → Reader Expr

/-- Whether an expression can begin with a token. -/
def beginsExpression : Token → Bool
  | .name _ | .number _ | .quotation _ => true
  | .word w => ["not", "lambda", "await", "None", "True", "False"].contains w
  | .op o => ["(", "[", "\x7b", "-", "+", "~", "..."].contains o
  | _ => false

/-- Whether an expression or an unpacked one can begin with a token. -/
def beginsItem (t : Token) : Bool := t == .op "*" || beginsExpression t

/-- Whether a target of an assignment is meant by an expression. Within a sequence a target may be
starred once. -/
def Expr.isTarget : Expr → Bool
  | .name _ | .member .. | .subscript .. => true
  | .tuple items | .list items => areTargets items
  | .starred value => match value with
    | .starred _ => false
    | value => value.isTarget
  | _ => false
where
  /-- Whether all items are targets. -/
  areTargets : List Expr → Bool
    | [] => true
    | item :: rest => item.isTarget && areTargets rest

/-- Whether an expression can be deleted. -/
def Expr.isDeletable : Expr → Bool
  | .name _ | .member .. | .subscript .. => true
  | .tuple items | .list items => areDeletable items
  | _ => false
where
  /-- Whether all items can be deleted. -/
  areDeletable : List Expr → Bool
    | [] => true
    | item :: rest => item.isDeletable && areDeletable rest

/-- Whether an expression is a target without parts. -/
def Expr.isSingleTarget : Expr → Bool
  | .name _ | .member .. | .subscript .. => true
  | _ => false

/-- A tuple, unless it is one item without a comma. -/
def tupleOf (first : Expr) (others : Option (List Expr)) : Expr :=
  match others with
  | some others => .tuple (first :: others)
  | none => first

/-- One item, or several with commas as a tuple; a comma may end them. -/
def looseTuple (item : Reader Expr) (begins : Token → Bool) : Reader Expr := do
  let first ← item
  if ← nextIsOp "," then
    let others ← many do
      if ← acceptOp "," then
        if begins (← peek) then return some (← item) else return none
      else return none
    return .tuple (first :: others)
  else return first

/-- An item that may be unpacked. -/
def starredOr (operand plain : Reader Expr) : Reader Expr := do
  if ← acceptOp "*" then return .starred (← operand) else plain

/-- Expressions between commas, which may be unpacked. -/
def expressionsOf (g : Grammar) : Reader Expr :=
  looseTuple (starredOr (g .operand) (g .expression)) beginsItem

/-- An expression that may assign its value to a name. -/
def namedExpression (g : Grammar) : Reader Expr := do
  if ← nextIsNameThen ":=" then
    let target ← identifier
    advance
    return .named (.name target) (← g .expression)
  else g .expression

/-- An item of a display. -/
def displayItem (g : Grammar) : Reader Expr := starredOr (g .operand) (namedExpression g)

/-- A yield expression. -/
def yieldExpression (g : Grammar) : Reader Expr := do
  expectWord "yield"
  if ← acceptWord "from" then return .yieldFrom (← g .expression)
  else if beginsItem (← peek) then return .yield (some (← expressionsOf g))
  else return .yield none

/-- Targets between commas, in front of the word `in`. -/
def targetsOf (g : Grammar) : Reader Expr := fun tokens => do
  let (target, rest) ← looseTuple (starredOr (g .operand) (g .operand)) beginsItem tokens
  if target.isTarget then return (target, rest) else .error ⟨rest, .token⟩

/-- The rounds of a comprehension. -/
def forClauses (g : Grammar) : Reader (List ForClause) :=
  many do
    let isAsync ← acceptWord "async"
    if ← acceptWord "for" then
      let target ← targetsOf g
      expectWord "in"
      let source ← g .disjunction
      let conditions ← many do
        if ← acceptWord "if" then return some (← g .disjunction) else return none
      return some (.mk isAsync target source conditions)
    else if isAsync then refuse
    else return none

/-- Whether the rounds of a comprehension come next. -/
def nextIsClause : Reader Bool := do
  return (← nextIsWord "for") || (← nextIsWord "async")

/-- What parentheses hold. -/
def parenthesis (g : Grammar) : Reader Expr := do
  if ← acceptOp ")" then return .tuple []
  if ← nextIsWord "yield" then
    let value ← yieldExpression g
    expectOp ")"
    return value
  let first ← displayItem g
  let isStarred := first matches .starred _
  if !isStarred && (← nextIsClause) then
    let clauses ← forClauses g
    expectOp ")"
    return .comprehension .generator first clauses
  if ← acceptOp "," then
    let others ← commaList ")" (displayItem g)
    expectOp ")"
    return .tuple (first :: others)
  if isStarred then refuse
  expectOp ")"
  return first

/-- What square brackets hold. -/
def bracket (g : Grammar) : Reader Expr := do
  if ← acceptOp "]" then return .list []
  let first ← displayItem g
  let isStarred := first matches .starred _
  if !isStarred && (← nextIsClause) then
    let clauses ← forClauses g
    expectOp "]"
    return .comprehension .list first clauses
  unless ← nextIsOp "]" do expectOp ","
  let others ← commaList "]" (displayItem g)
  expectOp "]"
  return .list (first :: others)

/-- An entry of a dictionary. -/
def dictEntry (g : Grammar) : Reader Entry := do
  if ← acceptOp "**" then return .spread (← g .operand)
  let key ← g .expression
  expectOp ":"
  return .pair key (← g .expression)

/-- The end of a dictionary after its first entry. -/
def dictAfter (g : Grammar) (first : Entry) : Reader Expr := do
  unless ← nextIsOp "\x7d" do expectOp ","
  let others ← commaList "\x7d" (dictEntry g)
  expectOp "\x7d"
  return .dict (first :: others)

/-- What braces hold. -/
def brace (g : Grammar) : Reader Expr := do
  if ← acceptOp "\x7d" then return .dict []
  if ← nextIsOp "**" then return ← dictAfter g (← dictEntry g)
  let isNamed ← nextIsNameThen ":="
  let first ← displayItem g
  if ← nextIsOp ":" then
    if isNamed || first matches .starred _ then refuse
    advance
    let value ← g .expression
    if ← nextIsClause then
      let clauses ← forClauses g
      expectOp "\x7d"
      return .dictComprehension first value clauses
    dictAfter g (.pair first value)
  else if ← nextIsClause then
    if first matches .starred _ then refuse
    let clauses ← forClauses g
    expectOp "\x7d"
    return .comprehension .set first clauses
  else
    unless ← nextIsOp "\x7d" do expectOp ","
    let others ← commaList "\x7d" (displayItem g)
    expectOp "\x7d"
    return .set (first :: others)

/-- The arguments of a call that have been read. -/
structure ArgumentsSoFar where
  /-- The positional ones. -/
  positional : List Expr
  /-- The named ones. -/
  named : List NamedArgument
  /-- Whether a named one, or an unpacked dictionary, rules out further plain ones. -/
  afterNamed : Bool
  /-- Whether an unpacked dictionary rules out further unpacked iterables. -/
  afterSpread : Bool

/-- Reads one more argument of a call. -/
def argument (g : Grammar) (soFar : ArgumentsSoFar) : Reader ArgumentsSoFar := do
  if ← acceptOp "**" then
    let value ← g .expression
    return { soFar with
      named := soFar.named ++ [.mk none value], afterNamed := true, afterSpread := true }
  if ← nextIsOp "*" then
    if soFar.afterSpread then refuse
    advance
    let value ← g .expression
    return { soFar with positional := soFar.positional ++ [.starred value] }
  if ← nextIsNameThen "=" then
    let name ← identifier
    advance
    let given ← g .expression
    return { soFar with named := soFar.named ++ [.mk (some name) given], afterNamed := true }
  let value ← namedExpression g
  if soFar.afterNamed then refuse
  return { soFar with positional := soFar.positional ++ [value] }

/-- Reads the arguments of a call up to its closing parenthesis, which is not taken. -/
def argumentsWithin (g : Grammar) : Nat → ArgumentsSoFar → Reader ArgumentsSoFar
  | 0, soFar => return soFar
  | count + 1, soFar => do
    if ← nextIsOp ")" then return soFar
    let next ← argument g soFar
    if ← acceptOp "," then argumentsWithin g count next
    else return next

/-- The arguments of a call before any is read. -/
def ArgumentsSoFar.start : ArgumentsSoFar := ⟨[], [], false, false⟩

/-- Further arguments of a call, if a comma comes next, and the closing parenthesis. -/
def furtherArguments (g : Grammar) (soFar : ArgumentsSoFar) : Reader ArgumentsSoFar := fun tokens =>
  (do
    let read ← if ← acceptOp "," then argumentsWithin g tokens.length soFar else pure soFar
    expectOp ")"
    return read) tokens

/-- The arguments of a call and the closing parenthesis. -/
def argumentsOf (g : Grammar) : Reader ArgumentsSoFar := do
  if ← acceptOp ")" then return .start
  else furtherArguments g (← argument g .start)

/-- A call, whose only argument may be a generator without parentheses. -/
def callAfter (g : Grammar) (function : Expr) : Reader Expr := do
  if ← acceptOp ")" then return .call function [] []
  let first ← argument g .start
  let clause ← nextIsClause
  match first.positional, clause with
  | [value], true =>
    if value matches .starred _ then refuse
    let clauses ← forClauses g
    expectOp ")"
    return .call function [.comprehension .generator value clauses] []
  | _, _ =>
    let read ← furtherArguments g first
    return .call function read.positional read.named

/-- A slice or an index. -/
def sliceItem (g : Grammar) : Reader Expr := do
  let bound : Reader (Option Expr) := do
    if beginsExpression (← peek) then return some (← g .expression) else return none
  let finish (lower : Option Expr) : Reader Expr := do
    let upper ← bound
    let step ← if ← acceptOp ":" then bound else pure none
    return .slice lower upper step
  if ← acceptOp ":" then finish none
  else
    let isNamed ← nextIsNameThen ":="
    let first ← namedExpression g
    if isNamed then return first
    if ← acceptOp ":" then finish (some first)
    else return first

/-- What stands in the brackets of a subscription. -/
def subscriptIndex (g : Grammar) : Reader Expr := do
  let item := starredOr (g .expression) (sliceItem g)
  let first ← item
  let index ←
    if ← acceptOp "," then
      let others ← commaList "]" item
      pure (.tuple (first :: others))
    else if first matches .starred _ then pure (.tuple [first])
    else pure first
  expectOp "]"
  return index

/-- Attributes, calls and subscriptions behind an atom. -/
def trailersWithin (g : Grammar) : Nat → Expr → Reader Expr
  | 0, value => return value
  | count + 1, value => do
    if ← acceptOp "." then trailersWithin g count (.member value (← identifier))
    else if ← acceptOp "(" then trailersWithin g count (← callAfter g value)
    else if ← acceptOp "[" then trailersWithin g count (.subscript value (← subscriptIndex g))
    else return value

/-- The value of an expression within a formatted text; it is read as if it stood in
parentheses. -/
def fieldValue (g : Grammar) (source : List Char) : Option Expr :=
  match expressionsOf g (tokenize ('(' :: (source ++ [')']))) with
  | .ok (value, _) => some value
  | .error _ => none

mutual

/-- The pieces of a formatted text with their expressions read. -/
def readPieces (g : Grammar) : List RawPiece → Option (List Piece)
  | [] => some []
  | piece :: rest => do return (← readPiece g piece) :: (← readPieces g rest)

/-- A piece of a formatted text with its expression read. -/
def readPiece (g : Grammar) : RawPiece → Option Piece
  | .text points => some (.text points)
  | .field source conversion format => do
    let value ← fieldValue g source
    let format ← readFormat g format
    return .value value conversion format

/-- The format of a field with its expressions read. -/
def readFormat (g : Grammar) : Option (List RawPiece) → Option (Option (List Piece))
  | none => some none
  | some pieces => do return some (← readPieces g pieces)

end

/-- The raw pieces that a literal text contributes to the text that neighbours form together. -/
def Quotation.rawPieces (q : Quotation) : Option (List RawPiece) :=
  if q.has 'f' then Script.rawPieces (!q.has 'r') q.body
  else q.points.map fun points => [.text points]

/-- The value of neighbouring literal texts. -/
def quotationValue (g : Grammar) (first : Quotation) (others : List Quotation) : Option Expr := do
  let all := first :: others
  if all.any (·.has 'b') then
    if all.all (·.has 'b') then
      let octets ← all.mapM Quotation.points
      return .constant (.octets octets.flatten)
    else none
  else
    let pieces ← all.mapM Quotation.rawPieces
    let merged := mergePieces pieces.flatten
    if all.any (·.has 'f') then return .joined (← readPieces g merged)
    else
      let points := merged.flatMap fun
        | .text points => points
        | .field .. => []
      return .constant (.text points (first.letters == ['u']))

/-- One or more neighbouring literal texts. -/
def quotations (g : Grammar) : Reader Expr := do
  let found ← many do
    match ← peek with
    | .quotation q =>
      advance
      return some q
    | _ => return none
  match found with
  | first :: others =>
    match quotationValue g first others with
    | some value => return value
    | none => refuse
  | [] => refuse

/-- An expression that no operator can split. -/
def atom (g : Grammar) : Reader Expr := do
  match ← peek with
  | .name text =>
    advance
    return .name (nameOf text)
  | .number (some value) =>
    advance
    return .constant value
  | .quotation _ => quotations g
  | .word "None" =>
    advance
    return .constant .none
  | .word "True" =>
    advance
    return .constant (.truth true)
  | .word "False" =>
    advance
    return .constant (.truth false)
  | .op "..." =>
    advance
    return .constant .ellipsis
  | .op "(" =>
    advance
    parenthesis g
  | .op "[" =>
    advance
    bracket g
  | .op "\x7b" =>
    advance
    brace g
  | _ => refuse

/-- An atom with what is behind it. -/
def primary (g : Grammar) : Reader Expr := do
  let value ← atom g
  fun tokens => trailersWithin g tokens.length value tokens

/-- A power, whose exponent may have signs. -/
def powerOf (g : Grammar) : Reader Expr := do
  let base ← if ← acceptWord "await" then (Expr.await ·) <$> primary g else primary g
  if ← acceptOp "**" then return .binary base .power (← g .factor) else return base

/-- A sign. -/
def signOf : Token → Option UnaryOp
  | .op "+" => some .plus
  | .op "-" => some .minus
  | .op "~" => some .invert
  | _ => none

/-- A power behind signs. -/
def factorOf (g : Grammar) : Reader Expr := do
  let signs ← many do
    match signOf (← peek) with
    | some sign =>
      advance
      return some sign
    | none => return none
  let value ← powerOf g
  return signs.foldr .unary value

/-- Operands of one rank of operators, which bind to the left. -/
def leftChain (ops : List (String × BinaryOp)) (operand : Reader Expr) : Reader Expr := do
  let first ← operand
  let others ← many do
    match ← peek with
    | .op symbol =>
      match ops.lookup symbol with
      | some op =>
        advance
        return some (op, ← operand)
      | none => return none
    | _ => return none
  return others.foldl (fun left next => .binary left next.1 next.2) first

/-- The operators between two operands, rank by rank, tightest first. -/
def ranks : List (List (String × BinaryOp)) := [
  [("*", .multiply), ("/", .divide), ("//", .floorDivide), ("%", .modulo), ("@", .matrixMultiply)],
  [("+", .add), ("-", .subtract)],
  [("<<", .shiftLeft), (">>", .shiftRight)],
  [("&", .bitAnd)],
  [("^", .bitXor)],
  [("|", .bitOr)]]

/-- An operand of a comparison. -/
def operandOf (g : Grammar) : Reader Expr :=
  ranks.foldl (fun operand ops => leftChain ops operand) (factorOf g)

/-- The comparison at the front, taken, if there is one. -/
def comparisonSign : Reader (Option Comparison) := do
  match ← peek with
  | .op symbol =>
    match [("==", Comparison.equal), ("!=", .notEqual), ("<=", .lessEqual), ("<", .less),
        (">=", .greaterEqual), (">", .greater)].lookup symbol with
    | some op =>
      advance
      return some op
    | none => return none
  | .word "in" =>
    advance
    return some .isIn
  | .word "not" =>
    advance
    expectWord "in"
    return some .notIn
  | .word "is" =>
    advance
    if ← acceptWord "not" then return some .isNot else return some .is
  | _ => return none

/-- A chain of comparisons. -/
def comparisonOf (g : Grammar) : Reader Expr := do
  let first ← operandOf g
  let others ← many do
    match ← comparisonSign with
    | some op => return some (Comparand.mk op (← operandOf g))
    | none => return none
  if others.isEmpty then return first else return .compare first others

/-- A comparison behind negations. -/
def inversionOf (g : Grammar) : Reader Expr := do
  let negations ← many do
    if ← acceptWord "not" then return some () else return none
  let value ← comparisonOf g
  return negations.foldr (fun _ inner => .unary .not inner) value

/-- Operands joined by a connective. -/
def connectedBy (word : String) (op : Connective) (operand : Reader Expr) : Reader Expr := do
  let first ← operand
  let others ← many do
    if ← acceptWord word then return some (← operand) else return none
  if others.isEmpty then return first else return .connected op (first :: others)

/-- Operands joined by connectives. -/
def disjunctionOf (g : Grammar) : Reader Expr :=
  connectedBy "or" .or (connectedBy "and" .and (inversionOf g))

/-- What the parameters of a function so far allow next. -/
structure ParametersSoFar where
  /-- The parameters. -/
  parameters : List Parameter
  /-- Whether names can be reached by name only. -/
  afterStar : Bool
  /-- Whether the mark of positional parameters has been read. -/
  afterSlash : Bool
  /-- Whether a parameter with a default has been read. -/
  afterDefault : Bool

/-- A parameter that is reached by position only if the mark for that follows it. -/
def Parameter.byPosition : Parameter → Parameter
  | .mk _ name type default => .mk .position name type default

/-- The type of a parameter, where types are written. -/
def parameterType (g : Grammar) (typed starred : Bool) : Reader (Option Expr) := do
  unless typed do return none
  unless ← acceptOp ":" do return none
  if starred then return some (← starredOr (g .operand) (g .expression))
  else return some (← g .expression)

/-- Parameters between commas up to the mark that closes them, which is not taken. -/
def parametersWithin (g : Grammar) (typed : Bool) (close : String) :
    Nat → ParametersSoFar → Reader (List Parameter)
  | 0, soFar => return soFar.parameters
  | count + 1, soFar => do
    let next (p : ParametersSoFar) : Reader (List Parameter) := do
      if ← nextIsOp close then return p.parameters
      expectOp ","
      parametersWithin g typed close count p
    if ← nextIsOp close then return soFar.parameters
    if ← acceptOp "**" then
      let name ← identifier
      let type ← parameterType g typed false
      unless ← nextIsOp close do expectOp ","
      unless ← nextIsOp close do refuse
      return soFar.parameters ++ [.mk .restNames (some name) type none]
    if ← nextIsOp "*" then
      if soFar.afterStar then refuse
      advance
      if ← nextIsOp "," then
        advance
        unless (← peek) matches .name _ do refuse
        parametersWithin g typed close count { soFar with
          parameters := soFar.parameters ++ [.mk .restPositions none none none], afterStar := true }
      else
        let name ← identifier
        let type ← parameterType g typed true
        next { soFar with
          parameters := soFar.parameters ++ [.mk .restPositions (some name) type none]
          afterStar := true }
    else if ← nextIsOp "/" then
      if soFar.afterStar || soFar.afterSlash || soFar.parameters.isEmpty then refuse
      advance
      next { soFar with
        parameters := soFar.parameters.map Parameter.byPosition, afterSlash := true }
    else
      let name ← identifier
      let type ← parameterType g typed false
      let default ← if ← acceptOp "=" then some <$> g .expression else pure none
      if default.isNone && soFar.afterDefault && !soFar.afterStar then refuse
      let passing := if soFar.afterStar then Passing.name else .either
      next { soFar with
        parameters := soFar.parameters ++ [.mk passing (some name) type default]
        afterDefault := soFar.afterDefault || default.isSome }

/-- Parameters up to the mark that closes them, which is not taken. -/
def parametersOf (g : Grammar) (typed : Bool) (close : String) : Reader (List Parameter) :=
  fun tokens => parametersWithin g typed close (tokens.length + 1) ⟨[], false, false, false⟩ tokens

/-- A function expression, after its word. -/
def lambdaAfter (g : Grammar) : Reader Expr := do
  let parameters ← parametersOf g false ":"
  expectOp ":"
  return .lambda parameters (← g .expression)

/-- A conditional expression, a function expression, or less. -/
def expressionOf (g : Grammar) : Reader Expr := do
  if ← acceptWord "lambda" then lambdaAfter g
  else
    let value ← disjunctionOf g
    if ← acceptWord "if" then
      let test ← disjunctionOf g
      expectWord "else"
      return .choice test value (← g .expression)
    else return value

/-- One step of the grammar over a reader for nested occurrences. -/
def Rule.read (g : Grammar) : Rule → Reader Expr
  | .expression => expressionOf g
  | .disjunction => disjunctionOf g
  | .operand => operandOf g
  | .factor => factorOf g

/-- The grammar with nesting up to a depth. -/
def grammarWithin : Nat → Grammar
  | 0, _ => refuse
  | depth + 1, rule => rule.read (grammarWithin depth)

end KeyedAccess.Script
