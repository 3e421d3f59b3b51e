/-!
# Shortest decimals

A decimal number is rounded to the nearest double, ties to the even significand, and a double is
written by the fewest decimal digits that round back to it, the nearest such decimal among those.
All arithmetic is exact, on natural numbers.
-/

namespace KeyedAccess.Decimal

/-- A double that is not negative: `significand · 2 ^ exponent`, or beyond all finite ones. -/
inductive Double where
  /-- A finite value, whose significand has 53 bits unless the exponent is the least one. -/
  | finite (significand : Nat) (exponent : Int)
  /-- Infinity. -/
  | infinite
deriving DecidableEq, Repr

/-- The least exponent of a double. -/
def leastExponent : Int := -1074

/-- The greatest exponent of a finite double. -/
def greatestExponent : Int := 971

/-- A quotient rounded to the nearest natural number, ties to the even one. -/
def roundQuotient (num den : Nat) : Nat :=
  let floor := num / den
  let twice := 2 * (num % den)
  if twice < den then floor
  else if den < twice then floor + 1
  else floor + floor % 2

/-- `num / den` divided by a power of two, as a quotient. -/
def scaleDown (num den : Nat) (exponent : Int) : Nat × Nat :=
  if 0 ≤ exponent then (num, den * Nat.pow 2 exponent.toNat)
  else (num * Nat.pow 2 (-exponent).toNat, den)

/-- The double nearest to a positive quotient. -/
def Double.ofQuotient (num den : Nat) : Double :=
  let guess : Int := (num.log2 : Int) - (den.log2 : Int) - 52
  let scaled := scaleDown num den guess
  let exact := if scaled.1 < Nat.pow 2 52 * scaled.2 then guess - 1 else guess
  let exponent := max exact leastExponent
  let final := scaleDown num den exponent
  let significand := roundQuotient final.1 final.2
  let result :=
    if significand = Nat.pow 2 53 then (Nat.pow 2 52, exponent + 1) else (significand, exponent)
  if greatestExponent < result.2 then .infinite else .finite result.1 result.2

/-- The number of decimal digits of a natural number; zero has one. -/
def digitCount (n : Nat) : Nat := (Nat.toDigits 10 n).length

/-- The double nearest to `number · 10 ^ exponent`. -/
def Double.ofDecimal (number : Nat) (exponent : Int) : Double :=
  let magnitude := (digitCount number : Int) + exponent
  if number = 0 ∨ magnitude < -330 then .finite 0 leastExponent
  else if 310 < magnitude then .infinite
  else if 0 ≤ exponent then .ofQuotient (number * Nat.pow 10 exponent.toNat) 1
  else .ofQuotient number (Nat.pow 10 (-exponent).toNat)

/-- A decimal `digits · 10 ^ exponent`. -/
structure Scientific where
  /-- The digits as a number. -/
  digits : Nat
  /-- The power of ten. -/
  exponent : Int
deriving DecidableEq, Repr

/-- The numbers that round to a double, as a range of numerators over a common denominator, with
the double itself between the bounds. -/
structure RoundingRange where
  /-- The least numerator. -/
  low : Nat
  /-- The numerator of the double. -/
  value : Nat
  /-- The greatest numerator. -/
  high : Nat
  /-- The common denominator. -/
  den : Nat
  /-- Whether the bounds themselves round to the double. -/
  closed : Bool
deriving Repr

/-- The range of numbers that round to a finite double. -/
def RoundingRange.ofDouble (significand : Nat) (exponent : Int) : RoundingRange :=
  let narrow := significand = Nat.pow 2 52 ∧ leastExponent < exponent
  let value := 4 * significand
  let low := if narrow then value - 1 else value - 2
  let num := Nat.pow 2 exponent.toNat
  let den := 4 * Nat.pow 2 (-exponent).toNat
  ⟨low * num, value * num, (value + 2) * num, den, significand % 2 == 0⟩

/-- The power of ten that begins the positive quotient `num / den`. -/
def magnitude (num den : Nat) : Int :=
  if den ≤ num then (digitCount (num / den) : Int) - 1 else -(digitCount ((den - 1) / num) : Int)

/-- Whether `digits · 10 ^ exponent` lies in a range. -/
def RoundingRange.holds (range : RoundingRange) (digits : Nat) (exponent : Int) : Bool :=
  let num := digits * range.den * Nat.pow 10 exponent.toNat
  let scale := Nat.pow 10 (-exponent).toNat
  if range.closed then decide (range.low * scale ≤ num) && decide (num ≤ range.high * scale)
  else decide (range.low * scale < num) && decide (num < range.high * scale)

/-- Of the two neighbours of the value on a decimal grid, the one that rounds to it; of both the
nearer, and of two equally near the even one. -/
def RoundingRange.onGrid (range : RoundingRange) (exponent : Int) : Option Scientific :=
  let num := range.value * Nat.pow 10 (-exponent).toNat
  let den := range.den * Nat.pow 10 exponent.toNat
  let below := num / den
  let twice := 2 * (num % den)
  let upper := decide (den < twice) || (twice == den && below % 2 == 1)
  match range.holds below exponent, range.holds (below + 1) exponent with
  | true, true => some ⟨if upper then below + 1 else below, exponent⟩
  | true, false => some ⟨below, exponent⟩
  | false, true => some ⟨below + 1, exponent⟩
  | false, false => none

/-- The first grid with a hit, from `count` digits on, for at most `more` further counts. -/
def RoundingRange.search (range : RoundingRange) (top : Int) : Nat → Nat → Scientific
  | _, 0 => ⟨range.value / range.den, 0⟩
  | count, more + 1 =>
    match range.onGrid (top - (count : Int) + 1) with
    | some found => found
    | none => range.search top (count + 1) more

/-- A decimal without zeros at the end of its digits; the limit bounds how many are dropped. -/
def Scientific.stripped : Nat → Scientific → Scientific
  | 0, s => s
  | limit + 1, s =>
    if s.digits ≠ 0 ∧ s.digits % 10 = 0 then
      Scientific.stripped limit ⟨s.digits / 10, s.exponent + 1⟩
    else s

/-- The shortest decimal of a finite double. -/
def shortest (significand : Nat) (exponent : Int) : Scientific :=
  if significand = 0 then ⟨0, 0⟩
  else
    let range := RoundingRange.ofDouble significand exponent
    (range.search (magnitude range.value range.den) 1 17).stripped 20

/-- The choices of a decimal format. -/
structure Format where
  /-- Positional notation is used while the point stands behind more than this place. -/
  least : Int
  /-- And not behind a greater place than this. -/
  greatest : Int
  /-- What follows a whole number in positional notation. -/
  wholeEnd : String
  /-- The text of infinity. -/
  infinity : String
deriving Repr

/-- A whole number as text. -/
def wholeText (n : Nat) : String := String.ofList (Nat.toDigits 10 n)

/-- Zeros as text. -/
def zeros (count : Nat) : String := String.ofList (List.replicate count '0')

/-- An exponent with its sign and at least two digits. -/
def exponentText (e : Int) : String :=
  let size := wholeText e.natAbs
  (if e < 0 then "-" else "+") ++ (if size.length < 2 then "0" ++ size else size)

/-- Writes a decimal whose digits have no zeros at the end. -/
def Format.decimal (format : Format) (s : Scientific) : String :=
  let text := wholeText s.digits
  let digits := text.toList
  let point := if s.digits = 0 then 1 else (digits.length : Int) + s.exponent
  if format.least < point ∧ point ≤ format.greatest then
    if point ≤ 0 then "0." ++ zeros (-point).toNat ++ text
    else if (digits.length : Int) ≤ point then
      text ++ zeros (point - digits.length).toNat ++ format.wholeEnd
    else
      String.ofList (digits.take point.toNat) ++ "." ++ String.ofList (digits.drop point.toNat)
  else
    let mantissa := match digits with
      | first :: second :: rest => String.ofList (first :: '.' :: second :: rest)
      | _ => text
    mantissa ++ "e" ++ exponentText (point - 1)

/-- Writes a double. -/
def Format.double (format : Format) : Double → String
  | .finite significand exponent => format.decimal (shortest significand exponent)
  | .infinite => format.infinity

end KeyedAccess.Decimal
