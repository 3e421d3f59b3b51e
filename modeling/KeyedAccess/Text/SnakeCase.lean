import KeyedAccess.Text.Lowercase

/-!
# Snake case

A capital letter of ASCII begins a new word after a small letter or a digit, and, when a small
letter follows it, also after another capital. Words are joined by underscores and lowered.
-/

namespace KeyedAccess.Text

/-- A capital letter of ASCII. -/
def isAsciiUpper (c : Char) : Bool := decide ('A' ≤ c) && decide (c ≤ 'Z')

/-- A small letter of ASCII. -/
def isAsciiLower (c : Char) : Bool := decide ('a' ≤ c) && decide (c ≤ 'z')

/-- A digit of ASCII. -/
def isAsciiDigit (c : Char) : Bool := decide ('0' ≤ c) && decide (c ≤ '9')

/-- Whether a word begins at `c`, between the character before it and the one after it. -/
def beginsWord (before c : Char) (after : Option Char) : Bool :=
  isAsciiUpper c &&
    (isAsciiLower before || isAsciiDigit before ||
      (isAsciiUpper before && after.any isAsciiLower))

/-- Puts an underscore before each word that begins after the character `before`. -/
def separateAfter (before : Char) : List Char → List Char
  | [] => []
  | c :: rest =>
    if beginsWord before c rest.head? then '_' :: c :: separateAfter c rest
    else c :: separateAfter c rest

/-- Puts an underscore before each word but the first. -/
def separateWords : List Char → List Char
  | [] => []
  | c :: rest => c :: separateAfter c rest

/-- The snake-case form of a name. -/
def snakeCase (name : String) : String :=
  String.ofList (lower (separateWords name.toList))

end KeyedAccess.Text
