import KeyedAccess.Text.IdentifierTable
import KeyedAccess.Text.Normal

/-!
# Identifiers of the Unicode standard

An identifier begins with an underscore or a code point with the property `XID_Start` and goes on
with code points with the property `XID_Continue`. Two identifiers are the same name when their
compatibility forms agree.
-/

namespace KeyedAccess.Text

/-- A letter of ASCII or the underscore. -/
def isAsciiNameStart (c : Char) : Bool := c.isAlpha || c == '_'

/-- A letter or digit of ASCII or the underscore. -/
def isAsciiNameChar (c : Char) : Bool := c.isAlphanum || c == '_'

/-- A character that may begin an identifier. -/
def isIdentifierStart (c : Char) : Bool :=
  if c.toNat < 128 then isAsciiNameStart c else identifierStart.contains c.toNat

/-- A character that may continue an identifier. -/
def isIdentifierChar (c : Char) : Bool :=
  if c.toNat < 128 then isAsciiNameChar c else identifierContinue.contains c.toNat

/-- Whether a text is an identifier. -/
def isIdentifier : List Char → Bool
  | [] => false
  | c :: rest => isIdentifierStart c && rest.all isIdentifierChar

end KeyedAccess.Text
