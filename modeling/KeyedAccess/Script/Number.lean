import KeyedAccess.Script.Token
import KeyedAccess.Text.CharSet

/-!
# Numbers in class sources

Whole numbers to the bases two, eight, ten and sixteen, decimals, and imaginary numbers. Single
underscores may stand between digits. Directly behind a number no letter may follow, unless it
begins one of the few reserved words that can stand there.
-/

namespace KeyedAccess.Script

/-- A character of a word. -/
def isWordChar (c : Char) : Bool := c.isAlphanum || c == '_' || decide (128 ≤ c.toNat)

/-- Digits with single underscores between them, and the text behind them; nothing if an underscore
is not followed by a digit. -/
def digitRun (isDigit : Char → Bool) : List Char → Option (List Char × List Char)
  | [] => some ([], [])
  | c :: rest =>
    if isDigit c then (digitRun isDigit rest).map fun run => (c :: run.1, run.2)
    else if c = '_' then
      if rest.head?.any isDigit then digitRun isDigit rest else none
    else some ([], c :: rest)

/-- The words that may follow a number directly, by their beginnings. -/
def numberFollowers : List String := ["and", "else", "for", "if", "in", "is", "or", "not"]

/-- Whether a number may end before a text. -/
def endsNumber (text : List Char) : Bool :=
  !text.head?.any isWordChar || numberFollowers.any fun word => word.toList.isPrefixOf text

/-- The number that digits write to a base. -/
def numberOf (base : Nat) (digits : List Char) : Nat :=
  digits.foldl (fun n c => base * n + (Text.hexDigit? c).getD 0) 0

/-- A lexed number: its value, and the text behind it. -/
abbrev NumberLexeme := Option Constant × List Char

/-- A number to another base than ten, after the letter that names the base. -/
def basedNumber (base : Nat) (isDigit : Char → Bool) (text : List Char) : Option NumberLexeme :=
  match digitRun isDigit text with
  | some (digits, rest) =>
    if digits.isEmpty || !endsNumber rest then none
    else some (some (.whole (numberOf base digits)), rest)
  | none => none

/-- A digit of ten. -/
def isDecimalDigit (c : Char) : Bool := decide ('0' ≤ c) && decide (c ≤ '9')

/-- The parts of a decimal literal. -/
structure DecimalParts where
  /-- The digits before the point. -/
  whole : List Char
  /-- The digits behind the point, when there is a point. -/
  fraction : Option (List Char)
  /-- The exponent, when there is one. -/
  exponent : Option Int
deriving Repr

/-- The double nearest to a decimal literal. -/
def DecimalParts.double (p : DecimalParts) : Decimal.Double :=
  let fraction := p.fraction.getD []
  .ofDecimal (numberOf 10 (p.whole ++ fraction)) (p.exponent.getD 0 - (fraction.length : Int))

/-- The value of a decimal literal that is not imaginary; nothing if it has too many digits. -/
def DecimalParts.constant (p : DecimalParts) : Option Constant :=
  if p.fraction.isNone && p.exponent.isNone then
    let n := numberOf 10 p.whole
    if digitLimit < p.whole.length && n != 0 then none else some (.whole n)
  else some (.real p.double)

/-- The digits behind a point; a run that begins with an underscore is no fraction. -/
def fractionRun (text : List Char) : Option (List Char × List Char) :=
  if text.head?.any isDecimalDigit then digitRun isDecimalDigit text else some ([], text)

/-- The exponent at the front of a text: nothing if it is malformed, no value if there is none. -/
def exponentRun : List Char → Option (Option Int × List Char)
  | c :: rest =>
    if c = 'e' ∨ c = 'E' then
      let signed := rest.head?.any fun s => s == '+' || s == '-'
      let digits := if signed then rest.drop 1 else rest
      if digits.head?.any isDecimalDigit then
        (digitRun isDecimalDigit digits).map fun run =>
          let n : Int := numberOf 10 run.1
          (some (if rest.head? = some '-' then -n else n), run.2)
      else if signed then none
      else if endsNumber (c :: rest) then some (none, c :: rest)
      else none
    else some (none, c :: rest)
  | [] => some (none, [])

/-- The end of a decimal literal: the mark of an imaginary number, and what may follow. -/
def finishDecimal (p : DecimalParts) (rest : List Char) : Option NumberLexeme :=
  match rest with
  | c :: behind =>
    if c = 'j' ∨ c = 'J' then
      if endsNumber behind then some (some (.imaginary p.double), behind) else none
    else
      let zeroLed := p.fraction.isNone && p.exponent.isNone && p.whole.head? == some '0' &&
        p.whole.any (· != '0')
      if zeroLed || !endsNumber rest then none else some (p.constant, rest)
  | [] => some (p.constant, [])

/-- A decimal literal, whose digits before the point are given. -/
def decimalFrom (whole rest : List Char) : Option NumberLexeme :=
  match (match rest with
    | '.' :: behind => (fractionRun behind).map fun run => (some run.1, run.2)
    | _ => some (none, rest)) with
  | some (fraction, behind) =>
    match exponentRun behind with
    | some (exponent, behind) => finishDecimal ⟨whole, fraction, exponent⟩ behind
    | none => none
  | none => none

/-- The number at the front of a text that begins with a digit, or with a point and a digit. -/
def numberLexeme : List Char → Option NumberLexeme
  | '0' :: b :: rest =>
    if b = 'x' ∨ b = 'X' then basedNumber 16 (fun c => (Text.hexDigit? c).isSome) rest
    else if b = 'o' ∨ b = 'O' then
      basedNumber 8 (fun c => decide ('0' ≤ c) && decide (c ≤ '7')) rest
    else if b = 'b' ∨ b = 'B' then basedNumber 2 (fun c => c == '0' || c == '1') rest
    else
      match digitRun isDecimalDigit ('0' :: b :: rest) with
      | some (whole, behind) => decimalFrom whole behind
      | none => none
  | text =>
    match digitRun isDecimalDigit text with
    | some (whole, behind) => decimalFrom whole behind
    | none => none

end KeyedAccess.Script
