import KeyedAccess.Text.CaseTable

/-!
# Lower-casing

The full lower-case mapping of Unicode on texts. It follows the simple mapping code point by code
point, with two exceptions: a capital I with a dot above becomes two code points, and a capital
sigma becomes the final form where a cased letter stands before it and none after it.
-/

namespace KeyedAccess.Text

/-- The code points from `first` to `last` by `step`, mapped to those from `image` on. -/
structure CaseRun where
  /-- The first code point that is mapped. -/
  first : Nat
  /-- The last code point that is mapped. -/
  last : Nat
  /-- The distance of two neighbours of the run. -/
  step : Nat
  /-- What the first code point maps to. -/
  image : Nat
deriving Repr, DecidableEq

/-- Reads a run from its table entry. -/
def CaseRun.ofText (text : List Char) : CaseRun :=
  match fields '>' text with
  | [source, image] =>
    match fields '/' source with
    | [range, step] =>
      let bounds := hexRange range
      ⟨bounds.1, bounds.2, hexNumber step, hexNumber image⟩
    | _ => ⟨0, 0, 1, 0⟩
  | _ => ⟨0, 0, 1, 0⟩

/-- The runs of the simple lower-case mapping above ASCII. -/
def caseRuns : List CaseRun :=
  lowerCaseRuns.flatMap fun line => (fields ' ' line.toList).map CaseRun.ofText

/-- The simple lower-case mapping. -/
def lowerChar (c : Char) : Char :=
  if c.toNat < 128 then c.toLower
  else
    match caseRuns.find? fun run =>
        decide (run.first ≤ c.toNat) && decide (c.toNat ≤ run.last) &&
          (c.toNat - run.first) % run.step == 0 with
    | some run => Char.ofNat (run.image + (c.toNat - run.first))
    | none => c

/-- A letter with case, of those that are not looked through. -/
def isCased (c : Char) : Bool :=
  if c.toNat < 128 then c.isAlpha else casedBeyondAscii.contains c.toNat

/-- Whether the nearest character that is not looked through is a cased letter. -/
def meetsCased : List Char → Bool
  | [] => false
  | c :: rest => if caseIgnorable.contains c.toNat then meetsCased rest else isCased c

/-- The capital sigma, whose small form depends on its place in the word. -/
def capitalSigma : Char := 'Σ'

/-- Lowers one character between the reversed text before it and the text after it. -/
def lowerAt (before : List Char) (c : Char) (after : List Char) : List Char :=
  if c = capitalSigma then
    [if meetsCased before && !meetsCased after then 'ς' else 'σ']
  else if c = 'İ' then ['i', Char.ofNat 0x307]
  else [lowerChar c]

/-- Lowers a text whose reversed left context is given. -/
def lowerFrom (before : List Char) : List Char → List Char
  | [] => []
  | c :: after => lowerAt before c after ++ lowerFrom (c :: before) after

/-- The full lower-case form of a text. -/
def lower (text : List Char) : List Char := lowerFrom [] text

end KeyedAccess.Text
