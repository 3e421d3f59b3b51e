import KeyedAccess.Text.CharSet
import KeyedAccess.Text.Line

/-!
# Whole numbers in arguments

A whole number may have a sign and single underscores between its digits, blanks stand around it,
and its digits may be those of any script that has ten of them in a row.
-/

namespace KeyedAccess.Text

/-- The zeros of all scripts with decimal digits, in hexadecimal; the other digits follow each. -/
def zeroDigits : List Nat := (fields ' ' (
  "30 660 6f0 7c0 966 9e6 a66 ae6 b66 be6 c66 ce6 d66 de6 e50 ed0 f20 1040 1090 17e0 1810 1946 " ++
  "19d0 1a80 1a90 1b50 1bb0 1c40 1c50 a620 a8d0 a900 a9d0 a9f0 aa50 abf0 ff10 104a0 10d30 11066 " ++
  "110f0 11136 111d0 112f0 11450 114d0 11650 116c0 11730 118e0 11950 11c50 11d50 11da0 16a60 " ++
  "16ac0 16b50 1d7ce 1d7d8 1d7e2 1d7ec 1d7f6 1e140 1e2f0 1e950 1fbf0").toList).map hexNumber

/-- The value of a decimal digit of any script. -/
def digitValue? (c : Char) : Option Nat :=
  (zeroDigits.find? fun first => decide (first ≤ c.toNat) && decide (c.toNat ≤ first + 9)).map
    (c.toNat - ·)

/-- The digits of a number with single underscores between them; nothing if a character is neither,
or an underscore does not stand between two digits. -/
def digitsOf : List Char → Option (List Nat)
  | [] => none
  | [c] => (digitValue? c).map ([·])
  | c :: '_' :: rest => do return (← digitValue? c) :: (← digitsOf rest)
  | c :: rest => do return (← digitValue? c) :: (← digitsOf rest)

/-- A text without the blanks around it. -/
def trimmed (text : List Char) : List Char :=
  ((text.dropWhile isBlank).reverse.dropWhile isBlank).reverse

/-- The most digits of a whole number. -/
def wholeDigits : Nat := 4300

/-- The number that digits write, if they are not too many. -/
def unsignedNumber? (text : List Char) : Option Nat := do
  let digits ← digitsOf text
  if wholeDigits < digits.length then none
  else some (digits.foldl (fun n digit => 10 * n + digit) 0)

/-- The whole number that a text writes. -/
def wholeNumber? (text : String) : Option Int :=
  match trimmed text.toList with
  | '+' :: rest => (unsignedNumber? rest).map Int.ofNat
  | '-' :: rest => (unsignedNumber? rest).map fun n => -(Int.ofNat n)
  | rest => (unsignedNumber? rest).map Int.ofNat

end KeyedAccess.Text
