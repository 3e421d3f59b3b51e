/-!
# Lines and indentation

A text is cut into lines at every line boundary of Unicode, a carriage return followed by a line
feed counting as one boundary. Indenting puts the same text before every line that holds more than
white space, and changes nothing else.
-/

namespace KeyedAccess.Text

/-- White space in the sense of Unicode: the separators and the controls that act as such. -/
def isBlank (c : Char) : Bool :=
  let n := c.toNat
  (9 ≤ n && n ≤ 13) || (28 ≤ n && n ≤ 32) || n == 0x85 || n == 0xa0 || n == 0x1680 ||
    (0x2000 ≤ n && n ≤ 0x200a) || n == 0x2028 || n == 0x2029 || n == 0x202f || n == 0x205f ||
    n == 0x3000

/-- A character that ends a line. -/
def isLineBoundary (c : Char) : Bool :=
  let n := c.toNat
  (10 ≤ n && n ≤ 13) || (28 ≤ n && n ≤ 30) || n == 0x85 || n == 0x2028 || n == 0x2029

/-- The lines of a text, each with the boundary that ends it. -/
def lines : List Char → List (List Char)
  | [] => []
  | '\r' :: '\n' :: rest => ['\r', '\n'] :: lines rest
  | c :: rest =>
    if isLineBoundary c then [c] :: lines rest
    else match lines rest with
      | [] => [[c]]
      | line :: others => (c :: line) :: others

/-- Puts `margin` before each line that is not only white space. -/
def indentChars (margin text : List Char) : List Char :=
  (lines text).flatMap fun line => if line.all isBlank then line else margin ++ line

/-- `indentChars` on strings. -/
def indent (margin text : String) : String :=
  String.ofList (indentChars margin.toList text.toList)

end KeyedAccess.Text
