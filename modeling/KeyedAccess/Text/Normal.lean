import KeyedAccess.Text.CharSet
import KeyedAccess.Text.CompatibilityTable
import Std.Data.HashMap

/-!
# Compatibility composition

Normalization form KC of Unicode: every code point is replaced by its full compatibility
decomposition, runs of combining marks are put in canonical order, and what can be composed is
composed again. Hangul syllables follow the arithmetic rule instead of the table.
-/

namespace KeyedAccess.Text

/-- Code points written in hexadecimal between plus signs. -/
def hexSequence (text : List Char) : List Nat := (fields '+' text).map hexNumber

/-- The table entries `key>value` of some lines, both sides as code points. -/
def sequenceEntries (lines : List String) : List (List Nat × List Nat) :=
  lines.flatMap fun line => (fields ' ' line.toList).map fun entry =>
    match fields '>' entry with
    | [key, value] => (hexSequence key, hexSequence value)
    | _ => ([], [])

/-- Full compatibility decompositions by code point. -/
def decompositions : Std.HashMap (List Nat) (List Nat) :=
  Std.HashMap.ofList (sequenceEntries decompositionEntries)

/-- Primary composites by the pair that they compose. -/
def compositions : Std.HashMap (List Nat) (List Nat) :=
  Std.HashMap.ofList (sequenceEntries compositionEntries)

/-- Ranges of code points with a combining class that is not zero. -/
def combiningClasses : List ((Nat × Nat) × Nat) :=
  combiningClassEntries.flatMap fun line => (fields ' ' line.toList).map fun entry =>
    match fields '=' entry with
    | [range, mark] => (hexRange range, hexNumber mark)
    | _ => ((0, 0), 0)

/-- The canonical combining class of a code point. -/
def combiningClass (point : Nat) : Nat :=
  match combiningClasses.find? fun entry =>
      decide (entry.1.1 ≤ point) && decide (point ≤ entry.1.2) with
  | some entry => entry.2
  | none => 0

/-- The full compatibility decomposition of one code point. -/
def decomposePoint (point : Nat) : List Nat :=
  if 0xac00 ≤ point && point ≤ 0xd7a3 then
    let index := point - 0xac00
    let trail := index % 28
    [0x1100 + index / 588, 0x1161 + (index % 588) / 28] ++
      (if trail = 0 then [] else [0x11a7 + trail])
  else (decompositions[[point]]?).getD [point]

/-- Inserts a mark behind the marks of no higher class; a starter stops the search. -/
def insertMark (point mark : Nat) : List (Nat × Nat) → List (Nat × Nat)
  | [] => [(point, mark)]
  | next :: rest =>
    if next.2 = 0 || mark < next.2 then (point, mark) :: next :: rest
    else next :: insertMark point mark rest

/-- Sorts each run of combining marks by class, keeping the order of equal classes. -/
def canonicalOrder (points : List Nat) : List (Nat × Nat) :=
  let marked := points.map fun point => (point, combiningClass point)
  (marked.foldl
    (fun (done : List (Nat × Nat) × List (Nat × Nat)) next =>
      if next.2 = 0 then (done.1 ++ done.2 ++ [next], [])
      else (done.1, insertMark next.1 next.2 done.2))
    ([], [])) |> fun done => done.1 ++ done.2

/-- The composite of two code points, when there is one. -/
def composePair (first second : Nat) : Option Nat :=
  if 0x1100 ≤ first && first < 0x1113 && 0x1161 ≤ second && second < 0x1176 then
    some (0xac00 + ((first - 0x1100) * 21 + (second - 0x1161)) * 28)
  else if 0xac00 ≤ first && first ≤ 0xd7a3 && (first - 0xac00) % 28 == 0 &&
      0x11a8 ≤ second && second < 0x11c3 then
    some (first + (second - 0x11a7))
  else (compositions[[first, second]]?).bind List.head?

/-- A starter with the marks behind it that stay apart, and the class of the last of these. -/
structure Composing where
  /-- What is finished. -/
  done : List Nat
  /-- The starter that later marks may still join. -/
  starter : Option Nat
  /-- The marks that stay behind the starter. -/
  marks : List Nat
  /-- The class of the last mark that stays, or zero. -/
  lastClass : Nat
deriving Repr

/-- All code points of the text so far. -/
def Composing.points (s : Composing) : List Nat := s.done ++ s.starter.toList ++ s.marks

/-- Joins the next code point to the starter, or keeps it behind or as the new starter. -/
def Composing.push (s : Composing) (next : Nat × Nat) : Composing :=
  let reachable := s.marks.isEmpty || (s.lastClass < next.2)
  match s.starter.bind fun starter => if reachable then composePair starter next.1 else none with
  | some composite => { s with starter := some composite }
  | none =>
    if next.2 = 0 then ⟨s.points, some next.1, [], 0⟩
    else { s with marks := s.marks ++ [next.1], lastClass := next.2 }

/-- Normalization form KC of a text; a text in ASCII is its own form. -/
def compatibilityForm (text : List Char) : List Char :=
  if text.all fun c => decide (c.toNat < 128) then text
  else
    let ordered := canonicalOrder (text.flatMap fun c => decomposePoint c.toNat)
    (ordered.foldl Composing.push ⟨[], none, [], 0⟩).points.map Char.ofNat

end KeyedAccess.Text
