import KeyedAccess.Text.WidthTable

/-!
# Widths on a terminal

How many cells a text fills on a terminal line, and how it is padded to a column.
-/

namespace KeyedAccess.Text

/-- The cells that one character fills. -/
def charWidth (c : Char) : Nat :=
  if 32 ≤ c.toNat && c.toNat < 127 then 1
  else if doubleCell.contains c.toNat then 2
  else if zeroCell.contains c.toNat then 0
  else 1

/-- The cells that a text fills. -/
def width (text : String) : Nat :=
  (text.toList.map charWidth).foldl Nat.add 0

/-- A text of `count` spaces. -/
def spaces (count : Nat) : String := String.ofList (List.replicate count ' ')

/-- Fills a text up to `columns` cells on the right. -/
def padRight (columns : Nat) (text : String) : String :=
  text ++ spaces (columns - width text)

/-- Centres a text in `columns` cells; an odd remaining cell goes to the right. -/
def padBoth (columns : Nat) (text : String) : String :=
  let free := columns - width text
  spaces (free / 2) ++ text ++ spaces (free - free / 2)

end KeyedAccess.Text
