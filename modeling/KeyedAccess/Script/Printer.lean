import KeyedAccess.Script.Quotes
import KeyedAccess.Script.Tree

/-!
# Expressions as text

The normal form of an expression: one blank around operators and behind commas, parentheses only
where the expression binds looser than its place, and literals by their values. Within a field of
a formatted text no backslash may be written.
-/

namespace KeyedAccess.Script

/-- Why an expression has no normal form. -/
inductive WriteError where
  /-- A field of a formatted text would need a backslash. -/
  | backslash
  /-- A whole number has too many digits. -/
  | digits
deriving DecidableEq, Repr

/-- The wording of the error. -/
def WriteError.message : WriteError → String
  | .backslash => "Unable to avoid backslash in f-string expression part"
  | .digits => "Exceeds the limit (4300 digits) for integer string conversion; use " ++
    "sys.set_int_max_str_digits() to increase the limit"

/-- How tightly a place binds what stands there. -/
abbrev Tightness := Nat

namespace Tightness

/-- The loosest binding, of an assignment within an expression. -/
def named : Tightness := 1

/-- The binding of commas. -/
def tuple : Tightness := 2

/-- The binding of `yield`. -/
def yield : Tightness := 3

/-- The binding of conditional expressions and function expressions, and of most places. -/
def choice : Tightness := 4

/-- The binding of operands of conditional expressions. -/
def condition : Tightness := 5

/-- The binding of `not`. -/
def negation : Tightness := 7

/-- The binding of comparisons. -/
def comparison : Tightness := 8

/-- The binding of operands of comparisons. -/
def operand : Tightness := 9

/-- The binding of signs. -/
def sign : Tightness := 15

/-- The binding of `await`. -/
def await : Tightness := 17

/-- The tightest binding, of what nothing can split. -/
def atom : Tightness := 18

/-- The next tighter binding. -/
def next (t : Tightness) : Tightness := min (t + 1) atom

end Tightness

/-- The sign of an operator between two operands. -/
def BinaryOp.symbol : BinaryOp → String
  | .bitOr => "|"
  | .bitXor => "^"
  | .bitAnd => "&"
  | .shiftLeft => "<<"
  | .shiftRight => ">>"
  | .add => "+"
  | .subtract => "-"
  | .multiply => "*"
  | .divide => "/"
  | .floorDivide => "//"
  | .modulo => "%"
  | .matrixMultiply => "@"
  | .power => "**"

/-- How tightly an operator binds. -/
def BinaryOp.tightness : BinaryOp → Tightness
  | .bitOr => 9
  | .bitXor => 10
  | .bitAnd => 11
  | .shiftLeft | .shiftRight => 12
  | .add | .subtract => 13
  | .multiply | .divide | .floorDivide | .modulo | .matrixMultiply => 14
  | .power => 16

/-- The sign of an operator before its operand, with the blank behind a word. -/
def UnaryOp.symbol : UnaryOp → String
  | .plus => "+"
  | .minus => "-"
  | .invert => "~"
  | .not => "not "

/-- How tightly an operator before its operand binds. -/
def UnaryOp.tightness : UnaryOp → Tightness
  | .not => .negation
  | _ => .sign

/-- The word of a connective. -/
def Connective.word : Connective → String
  | .and => "and"
  | .or => "or"

/-- How tightly a connective binds. -/
def Connective.tightness : Connective → Tightness
  | .or => 5
  | .and => 6

/-- The sign of a comparison. -/
def Comparison.symbol : Comparison → String
  | .equal => "=="
  | .notEqual => "!="
  | .less => "<"
  | .lessEqual => "<="
  | .greater => ">"
  | .greaterEqual => ">="
  | .is => "is"
  | .isNot => "is not"
  | .isIn => "in"
  | .notIn => "not in"

/-- The brackets around a comprehension. -/
def Collection.brackets : Collection → String × String
  | .list => ("[", "]")
  | .set => ("\x7b", "\x7d")
  | .generator => ("(", ")")

/-- Numbers are positional from a ten-thousandth to below ten to the sixteenth, with a point and a
zero behind whole ones; what is beyond all numbers is written as one that is too great. -/
def realFormat : Decimal.Format := ⟨-4, 16, ".0", "1e309"⟩

/-- Imaginary numbers are written likewise, but whole ones without a point. -/
def imaginaryFormat : Decimal.Format := { realFormat with wholeEnd := "" }

/-- A whole number as text. -/
def wholeNumber (n : Nat) : Except WriteError String :=
  if n < Nat.pow 10 digitLimit then .ok (Decimal.wholeText n) else .error .digits

/-- Octets as text; only printed characters of ASCII stand as they are. -/
def octetsText (values : List Nat) : String :=
  let quote := Text.preferredQuote values
  let inner := values.flatMap fun v =>
    if v < 128 then Text.shownPoint quote v else Text.pointEscape v
  String.ofList ('b' :: quote :: (inner ++ [quote]))

/-- A literal as text. -/
def Constant.write (inField : Bool) : Constant → Except WriteError String
  | .none => .ok "None"
  | .truth true => .ok "True"
  | .truth false => .ok "False"
  | .ellipsis => .ok "..."
  | .whole n => wholeNumber n
  | .real x => .ok (realFormat.double x)
  | .imaginary x => .ok (imaginaryFormat.double x ++ "j")
  | .text points marked =>
    let text := if inField then (fitQuotes Quotes.all true points).text
      else String.ofList (Text.shownPoints points)
    .ok (if marked then "u" ++ text else text)
  | .octets values => .ok (octetsText values)

/-- Texts with commas between them. -/
def commaJoined (items : List String) : String := ", ".intercalate items

/-- Texts with commas between them, where a single one has a comma behind it. -/
def tupleJoined : List String → String
  | [item] => item ++ ","
  | items => commaJoined items

/-- Puts parentheses around a text if it binds looser than its place. -/
def parenthesized (own place : Tightness) (text : String) : String :=
  if own < place then "(" ++ text ++ ")" else text

/-- The parameters between commas; the last one that is reached by position only is followed by a
mark. -/
def parameterItems : List (Passing × String) → List String
  | [] => []
  | [(.position, text)] => [text, "/"]
  | (.position, text) :: (.position, other) :: rest =>
    text :: parameterItems ((.position, other) :: rest)
  | (.position, text) :: rest => text :: "/" :: parameterItems rest
  | (_, text) :: rest => text :: parameterItems rest

/-- Literal text of a formatted text, with its braces doubled. -/
def doubledBraces (points : List Nat) : List Nat :=
  points.flatMap fun point => if point = 123 ∨ point = 125 then [point, point] else [point]

/-- The code points of a text. -/
def stringPoints (text : String) : List Nat := text.toList.map Char.toNat

/-- A field of a formatted text around its parts. -/
def fieldText (value : String) (conversion : Option Char) (format : Option (List Nat)) :
    Except WriteError (List Nat) :=
  if value.toList.contains '\\' then .error .backslash
  else
    let front := if value.toList.head? == some '{' then "\x7b " else "\x7b"
    let behind := match conversion with
      | some c => "!" ++ String.singleton c
      | none => ""
    let format := match format with
      | some points => stringPoints ":" ++ points
      | none => []
    .ok (stringPoints (front ++ value ++ behind) ++ format ++ stringPoints "\x7d")

/-- A formatted text around its pieces, each with a mark whether it is literal. -/
def joinedText (inField : Bool) (pieces : List (List Nat × Bool)) : String :=
  "f" ++ (if inField then fitQuotes Quotes.all true (pieces.flatMap (·.1))
    else fitTogether (pieces.map fun piece => (piece.1, !piece.2))).text

/-- Whether a piece is literal. -/
def Piece.isText : Piece → Bool
  | .text _ => true
  | .value .. => false

/-- Whether an expression is a whole number or a truth value, behind which a point needs a blank. -/
def Expr.endsInNumber : Expr → Bool
  | .constant (.whole _) | .constant (.truth _) => true
  | _ => false

/-- The place in the brackets of a subscription, where a tuple needs no parentheses. -/
def Expr.indexPlace : Expr → Tightness
  | .tuple _ => .tuple
  | _ => .choice

mutual

/-- An expression as text at a place of the given tightness. -/
def Expr.write (inField : Bool) (place : Tightness) : Expr → Except WriteError String
  | .name id => .ok id
  | .constant c => c.write inField
  | .joined pieces => do
    let written ← writePieces pieces
    return joinedText inField written
  | .tuple items => do
    let text := tupleJoined (← writeAll inField .choice items)
    return if items.isEmpty then "()" else parenthesized .tuple place text
  | .list items => do return "[" ++ commaJoined (← writeAll inField .choice items) ++ "]"
  | .set items => do return "\x7b" ++ commaJoined (← writeAll inField .choice items) ++ "\x7d"
  | .dict entries => do return "\x7b" ++ commaJoined (← writeEntries inField entries) ++ "\x7d"
  | .comprehension collection element clauses => do
    let element ← element.write inField .choice
    let clauses ← writeClauses inField clauses
    return collection.brackets.1 ++ element ++ clauses ++ collection.brackets.2
  | .dictComprehension key value clauses => do
    let key ← key.write inField .choice
    let value ← value.write inField .choice
    return "\x7b" ++ key ++ ": " ++ value ++ (← writeClauses inField clauses) ++ "\x7d"
  | .member value attr => do
    let text ← value.write inField .atom
    return text ++ (if value.endsInNumber then " ." else ".") ++ attr
  | .subscript value index => do
    let value ← value.write inField .atom
    return value ++ "[" ++ (← index.write inField index.indexPlace) ++ "]"
  | .slice lower upper step => do
    let lower ← writeBound inField "" lower
    let upper ← writeBound inField "" upper
    return lower ++ ":" ++ upper ++ (← writeBound inField ":" step)
  | .call function arguments named => do
    let function ← function.write inField .atom
    let arguments ← writeAll inField .choice arguments
    let named ← writeNamed inField named
    return function ++ "(" ++ commaJoined (arguments ++ named) ++ ")"
  | .starred value => do return "*" ++ (← value.write inField .operand)
  | .unary op operand => do
    let operand ← operand.write inField op.tightness
    return parenthesized op.tightness place (op.symbol ++ operand)
  | .binary left op right => do
    let tight := op.tightness
    let left ← left.write inField (if op = .power then tight.next else tight)
    let right ← right.write inField (if op = .power then tight else tight.next)
    return parenthesized tight place (left ++ " " ++ op.symbol ++ " " ++ right)
  | .connected op operands => do
    let operands ← writeRising inField op.tightness.next operands
    return parenthesized op.tightness place ((" " ++ op.word ++ " ").intercalate operands)
  | .compare first others => do
    let first ← first.write inField .operand
    return parenthesized .comparison place (first ++ (← writeComparands inField others))
  | .choice test ifTrue ifFalse => do
    let ifTrue ← ifTrue.write inField .condition
    let test ← test.write inField .condition
    let ifFalse ← ifFalse.write inField .choice
    return parenthesized .choice place (ifTrue ++ " if " ++ test ++ " else " ++ ifFalse)
  | .lambda parameters body => do
    let items := parameterItems (← writeParameters inField parameters)
    let front := if items.isEmpty then "" else " " ++ commaJoined items
    let body ← body.write inField .choice
    return parenthesized .choice place ("lambda" ++ front ++ ": " ++ body)
  | .named target value => do
    let target ← target.write inField .atom
    let value ← value.write inField .atom
    return parenthesized .named place (target ++ " := " ++ value)
  | .await value => do
    return parenthesized .await place ("await " ++ (← value.write inField .atom))
  | .yield none => .ok (parenthesized .yield place "yield")
  | .yield (some value) => do
    return parenthesized .yield place ("yield " ++ (← value.write inField .atom))
  | .yieldFrom value => do
    return parenthesized .yield place ("yield from " ++ (← value.write inField .atom))

/-- Expressions at places of the same tightness. -/
def writeAll (inField : Bool) (place : Tightness) : List Expr → Except WriteError (List String)
  | [] => .ok []
  | e :: rest => do return (← e.write inField place) :: (← writeAll inField place rest)

/-- Expressions of which each stands at a tighter place than the one before. -/
def writeRising (inField : Bool) (place : Tightness) : List Expr → Except WriteError (List String)
  | [] => .ok []
  | e :: rest => do return (← e.write inField place) :: (← writeRising inField place.next rest)

/-- A bound of a slice behind a mark, if there is one. -/
def writeBound (inField : Bool) (mark : String) : Option Expr → Except WriteError String
  | none => .ok ""
  | some e => do return mark ++ (← e.write inField .choice)

/-- The entries of a dictionary display. -/
def writeEntries (inField : Bool) : List Entry → Except WriteError (List String)
  | [] => .ok []
  | .pair key value :: rest => do
    let key ← key.write inField .choice
    let value ← value.write inField .choice
    return (key ++ ": " ++ value) :: (← writeEntries inField rest)
  | .spread value :: rest => do
    let value ← value.write inField .operand
    return ("**" ++ value) :: (← writeEntries inField rest)

/-- The rounds of a comprehension. -/
def writeClauses (inField : Bool) : List ForClause → Except WriteError String
  | [] => .ok ""
  | .mk isAsync target source conditions :: rest => do
    let target ← target.write inField .tuple
    let source ← source.write inField .condition
    let conditions ← writeAll inField .condition conditions
    let text := (if isAsync then " async for " else " for ") ++ target ++ " in " ++ source ++
      String.join (conditions.map (" if " ++ ·))
    return text ++ (← writeClauses inField rest)

/-- The named arguments of a call. -/
def writeNamed (inField : Bool) : List NamedArgument → Except WriteError (List String)
  | [] => .ok []
  | .mk name value :: rest => do
    let value ← value.write inField .choice
    let front := match name with
      | some name => name ++ "="
      | none => "**"
    return (front ++ value) :: (← writeNamed inField rest)

/-- The further operands of a chain of comparisons. -/
def writeComparands (inField : Bool) : List Comparand → Except WriteError String
  | [] => .ok ""
  | .mk op operand :: rest => do
    let operand ← operand.write inField .operand
    return " " ++ op.symbol ++ " " ++ operand ++ (← writeComparands inField rest)

/-- The parameters of a function, each with the way in which it is reached. -/
def writeParameters (inField : Bool) :
    List Parameter → Except WriteError (List (Passing × String))
  | [] => .ok []
  | .mk passing name type default :: rest => do
    let front := match passing with
      | .restPositions => "*"
      | .restNames => "**"
      | _ => ""
    let type ← writeBound inField ": " type
    let default ← writeBound inField "=" default
    let text := front ++ name.getD "" ++ type ++ default
    return (passing, text) :: (← writeParameters inField rest)

/-- The pieces of a formatted text, each with a mark whether it is literal. -/
def writePieces : List Piece → Except WriteError (List (List Nat × Bool))
  | [] => .ok []
  | .text points :: rest => do return (doubledBraces points, true) :: (← writePieces rest)
  | .value e conversion format :: rest => do
    let value ← e.write true .condition
    let format ← writeFormat format
    let text ← fieldText value conversion format
    return (text, false) :: (← writePieces rest)

/-- The format of a field. -/
def writeFormat : Option (List Piece) → Except WriteError (Option (List Nat))
  | none => .ok none
  | some pieces => do
    let written ← writePieces pieces
    return some (written.flatMap (·.1))

end

/-- The normal form of an expression. -/
def Expr.text (e : Expr) : Except WriteError String := e.write false .choice

end KeyedAccess.Script
