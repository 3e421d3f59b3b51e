/-!
# Sets of code points

Character classes beyond ASCII are data of a standard. A table module writes such a class as text,
`first-last` for a range and one number for a single code point, in hexadecimal; this module reads
that text and answers membership.
-/

namespace KeyedAccess.Text

/-- The pieces of a text between the separators, the empty ones included. -/
def fields (separator : Char) : List Char → List (List Char)
  | [] => [[]]
  | c :: rest =>
    if c = separator then [] :: fields separator rest
    else match fields separator rest with
      | [] => [[c]]
      | field :: others => (c :: field) :: others

/-- The value of a hexadecimal digit of either case. -/
def hexDigit? (c : Char) : Option Nat :=
  if '0' ≤ c ∧ c ≤ '9' then some (c.toNat - '0'.toNat)
  else if 'a' ≤ c ∧ c ≤ 'f' then some (c.toNat - 'a'.toNat + 10)
  else if 'A' ≤ c ∧ c ≤ 'F' then some (c.toNat - 'A'.toNat + 10)
  else none

/-- The number that hexadecimal digits write, most significant digit first. -/
def hexNumber (digits : List Char) : Nat :=
  digits.foldl (fun n c => 16 * n + (hexDigit? c).getD 0) 0

/-- The range that `first-last` or a single number writes. -/
def hexRange (text : List Char) : Nat × Nat :=
  match fields '-' text with
  | [first, last] => (hexNumber first, hexNumber last)
  | _ => (hexNumber text, hexNumber text)

/-- A set of code points as inclusive ranges. -/
structure CharSet where
  /-- The ranges, in ascending order. -/
  ranges : List (Nat × Nat)
deriving Repr, DecidableEq

/-- The set that the lines of a table write. -/
def CharSet.ofText (lines : List String) : CharSet :=
  ⟨lines.flatMap fun line => (fields ' ' line.toList).map hexRange⟩

/-- Whether a code point lies in one of the ranges. -/
def CharSet.contains (s : CharSet) (point : Nat) : Bool :=
  s.ranges.any fun range => decide (range.1 ≤ point) && decide (point ≤ range.2)

end KeyedAccess.Text
