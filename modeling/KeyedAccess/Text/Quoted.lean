import KeyedAccess.Text.CharSet
import KeyedAccess.Text.PrintableTable

/-!
# Quoted texts

Two ways to write a text between quotes. The ASCII form stands between double quotes and writes
every code point beyond ASCII as one or two units of sixteen bits. The shown form prefers single
quotes and writes by an escape only what has no printed form.
-/

namespace KeyedAccess.Text

/-- The hexadecimal digit for a value below sixteen. -/
def hexChar (value : Nat) : Char := Nat.digitChar (value % 16)

/-- The lowest `count` hexadecimal digits of a number, in small letters. -/
def hexDigits (count value : Nat) : List Char :=
  match count with
  | 0 => []
  | rest + 1 => hexDigits rest (value / 16) ++ [hexChar value]

/-- A unit of sixteen bits as an escape. -/
def unitEscape (unit : Nat) : List Char := '\\' :: 'u' :: hexDigits 4 unit

/-- How one code point stands in the ASCII form. -/
def asciiEscape (c : Char) : List Char :=
  if c = '"' then ['\\', '"']
  else if c = '\\' then ['\\', '\\']
  else if c = '\n' then ['\\', 'n']
  else if c = '\r' then ['\\', 'r']
  else if c = '\t' then ['\\', 't']
  else if c.toNat = 8 then ['\\', 'b']
  else if c.toNat = 12 then ['\\', 'f']
  else if 32 ≤ c.toNat ∧ c.toNat < 127 then [c]
  else if c.toNat < 0x10000 then unitEscape c.toNat
  else
    let above := c.toNat - 0x10000
    unitEscape (0xd800 + above / 0x400) ++ unitEscape (0xdc00 + above % 0x400)

/-- The ASCII form of a text. -/
def asciiQuoted (text : String) : String :=
  String.ofList ('"' :: (text.toList.flatMap asciiEscape ++ ['"']))

/-- Whether a code point has a printed form; a surrogate has none. -/
def isPrintablePoint (point : Nat) : Bool :=
  if point < 128 then decide (32 ≤ point) && decide (point < 127)
  else !unprintable.contains point && !(decide (0xd800 ≤ point) && decide (point ≤ 0xdfff))

/-- A code point as the shortest numeric escape that holds it. -/
def pointEscape (point : Nat) : List Char :=
  if point < 0x100 then '\\' :: 'x' :: hexDigits 2 point
  else if point < 0x10000 then '\\' :: 'u' :: hexDigits 4 point
  else '\\' :: 'U' :: hexDigits 8 point

/-- How one code point stands in the shown form between the given quotes. -/
def shownPoint (quote : Char) (point : Nat) : List Char :=
  if point = quote.toNat ∨ point = 92 then ['\\', Char.ofNat point]
  else if point = 10 then ['\\', 'n']
  else if point = 13 then ['\\', 'r']
  else if point = 9 then ['\\', 't']
  else if isPrintablePoint point then [Char.ofNat point]
  else pointEscape point

/-- Single quotes, unless the text holds single quotes and no double ones. -/
def preferredQuote (points : List Nat) : Char :=
  if points.contains 39 && !points.contains 34 then '"' else '\''

/-- The shown form of a text given by its code points. -/
def shownPoints (points : List Nat) : List Char :=
  let quote := preferredQuote points
  quote :: (points.flatMap (shownPoint quote) ++ [quote])

/-- The shown form of a text. -/
def shown (text : String) : String :=
  String.ofList (shownPoints (text.toList.map Char.toNat))

end KeyedAccess.Text
