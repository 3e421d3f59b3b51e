import KeyedAccess.Text.Quoted

/-!
# The choice of quotes

A formatted text, and a text within one, is written with as few escapes as possible: the first pair
of quotes that does not occur in the text is taken, and tripled ones where a line ends in it.
-/

namespace KeyedAccess.Script

/-- Quotes around a text, which are the same on both sides. -/
structure Quotes where
  /-- The character. -/
  mark : Char
  /-- Whether it is written three times. -/
  tripled : Bool
deriving DecidableEq, Repr

/-- The characters of the quotes. -/
def Quotes.chars (q : Quotes) : List Char :=
  if q.tripled then [q.mark, q.mark, q.mark] else [q.mark]

/-- All quotes, in the order of preference. -/
def Quotes.all : List Quotes := [⟨'\'', false⟩, ⟨'"', false⟩, ⟨'"', true⟩, ⟨'\'', true⟩]

/-- Whether a text occurs in another one. -/
def occursIn (part : List Char) : List Char → Bool
  | [] => part.isEmpty
  | c :: rest => part.isPrefixOf (c :: rest) || occursIn part rest

/-- How a code point stands between quotes that do not occur in the text. Tabs and the ends of
lines may be kept. -/
def bareEscape (keepBlanks : Bool) (point : Nat) : List Char :=
  if keepBlanks ∧ (point = 9 ∨ point = 10) then [Char.ofNat point]
  else Text.shownPoint '\\' point

/-- A text as it stands between quotes, and the quotes that fit around it. -/
structure Quotable where
  /-- The text. -/
  inner : List Char
  /-- The quotes, the preferred ones first. -/
  quotes : List Quotes
deriving Repr

/-- A text whose last character is that of the quotes needs a backslash there. -/
def guardEnd (inner : List Char) (quotes : List Quotes) : Quotable :=
  match inner.getLast?, quotes with
  | some last, first :: _ =>
    if first.mark = last then ⟨inner.dropLast ++ ['\\', last], quotes⟩ else ⟨inner, quotes⟩
  | _, _ => ⟨inner, quotes⟩

/-- Quotes that differ from the last character of the text come first. -/
def differingFirst (inner : List Char) (quotes : List Quotes) : List Quotes :=
  let same (q : Quotes) : Bool := inner.getLast? == some q.mark
  quotes.filter (fun q => !same q) ++ quotes.filter same

/-- Fits some of the given quotes around a text. If none of them does, the text is escaped as
between plain quotes. -/
def fitQuotes (offered : List Quotes) (keepBlanks : Bool) (points : List Nat) : Quotable :=
  let inner := points.flatMap (bareEscape keepBlanks)
  let open' := if inner.contains '\n' then offered.filter (·.tripled) else offered
  match open'.filter fun q => !occursIn q.chars inner with
  | [] =>
    let mark := Text.preferredQuote points
    let quotes := (offered.find? (·.mark == mark)).getD ⟨mark, false⟩
    ⟨points.flatMap (Text.shownPoint mark), [quotes]⟩
  | fitting => guardEnd inner (differingFirst inner fitting)

/-- A text between the preferred of its quotes. -/
def Quotable.text (q : Quotable) : String :=
  let quotes := ((q.quotes.head?).getD ⟨'\'', false⟩).chars
  String.ofList (quotes ++ q.inner ++ quotes)

/-- Texts that stand one behind the other between the same quotes, each with a mark whether tabs and
the ends of lines are kept in it. Every text narrows the choice of quotes for the next ones. -/
def fitTogether (parts : List (List Nat × Bool)) : Quotable :=
  parts.foldl
    (fun soFar part =>
      let next := fitQuotes soFar.quotes part.2 part.1
      ⟨soFar.inner ++ next.inner, next.quotes⟩)
    ⟨[], Quotes.all⟩

end KeyedAccess.Script
