import KeyedAccess.Script.Token
import KeyedAccess.Text.CharSet
import KeyedAccess.Text.CharName

/-!
# Escapes in literal texts

What the body of a literal text stands for. A backslash begins an escape; one that begins none is
kept together with the character behind it.
-/

namespace KeyedAccess.Script

/-- Reads exactly `count` hexadecimal digits. -/
def hexPrefix (count : Nat) (text : List Char) : Option (Nat × List Char) :=
  let digits := text.take count
  if digits.length = count ∧ digits.all fun c => (Text.hexDigit? c).isSome then
    some (Text.hexNumber digits, text.drop count)
  else none

/-- A digit of eight. -/
def isOctalDigit (c : Char) : Bool := decide ('0' ≤ c) && decide (c ≤ '7')

/-- Reads up to three octal digits, which must begin the text. -/
def octalPrefix (text : List Char) : Nat × List Char :=
  let digits := (text.take 3).takeWhile isOctalDigit
  (digits.foldl (fun n c => 8 * n + (c.toNat - '0'.toNat)) 0, text.drop digits.length)

/-- The character of a letter behind a backslash, for the escapes of one letter. -/
def letterEscape (c : Char) : Option Nat :=
  match c with
  | '\\' => some 92
  | '\'' => some 39
  | '"' => some 34
  | 'a' => some 7
  | 'b' => some 8
  | 'f' => some 12
  | 'n' => some 10
  | 'r' => some 13
  | 't' => some 9
  | 'v' => some 11
  | _ => none

/-- A character named between braces. -/
def namedEscape : List Char → Option (Nat × List Char)
  | '{' :: rest =>
    let name := rest.takeWhile (· != '}')
    match rest.dropWhile (· != '}'), Text.pointOfName? (String.ofList name) with
    | _ :: behind, some point => some (point, behind)
    | _, _ => none
  | _ => none

/-- An escape behind its backslash: the code points that it stands for and the text behind it.
Without `wide` only octets can be written, and the escapes for other characters are none. -/
def escape (wide : Bool) : List Char → Option (List Nat × List Char)
  | [] => some ([92], [])
  | c :: rest =>
    match letterEscape c with
    | some point => some ([point], rest)
    | none =>
      if c = '\n' then some ([], rest)
      else if isOctalDigit c then
        let read := octalPrefix (c :: rest)
        some ([if wide then read.1 else read.1 % 256], read.2)
      else if c = 'x' then (hexPrefix 2 rest).map fun read => ([read.1], read.2)
      else if wide ∧ c = 'u' then (hexPrefix 4 rest).map fun read => ([read.1], read.2)
      else if wide ∧ c = 'U' then
        (hexPrefix 8 rest).bind fun read =>
          if read.1 ≤ 0x10ffff then some ([read.1], read.2) else none
      else if wide ∧ c = 'N' then (namedEscape rest).map fun read => ([read.1], read.2)
      else some ([92, c.toNat], rest)

/-- What a body stands for, with at most `limit` characters and escapes. -/
def unescapeWithin (wide : Bool) : Nat → List Char → Option (List Nat)
  | 0, _ => some []
  | _ + 1, [] => some []
  | limit + 1, c :: rest =>
    if c = '\\' then
      match escape wide rest with
      | some (points, behind) => (unescapeWithin wide limit behind).map (points ++ ·)
      | none => none
    else (unescapeWithin wide limit rest).map (c.toNat :: ·)

/-- What the body of a literal text stands for; nothing if an escape is malformed. -/
def unescape (wide : Bool) (body : List Char) : Option (List Nat) :=
  unescapeWithin wide body.length body

/-- The code points of a text. -/
def pointsOf (text : List Char) : List Nat := text.map Char.toNat

/-- Whether a letter, in either case, stands before the quotes. -/
def Quotation.has (q : Quotation) (letter : Char) : Bool :=
  q.letters.any fun c => c.toLower == letter

/-- What a literal text that is not formatted stands for. Octets are written in ASCII. -/
def Quotation.points (q : Quotation) : Option (List Nat) :=
  let octets := q.has 'b'
  if octets && q.body.any fun c => decide (128 ≤ c.toNat) then none
  else if q.has 'r' then some (pointsOf q.body)
  else unescape (!octets) q.body

end KeyedAccess.Script
