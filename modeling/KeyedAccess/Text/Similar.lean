/-!
# Similar words

How alike two words are: the longest text that occurs in both is found, then likewise on its left
and on its right, and the shared characters are counted. Words are offered for a mistyped one if
they share enough with it.
-/

namespace KeyedAccess.Text

/-- A text that two words share, by its place in both and its length. -/
structure SharedBlock where
  /-- Where it begins in the first word. -/
  first : Nat
  /-- Where it begins in the second word. -/
  second : Nat
  /-- Its length. -/
  size : Nat
deriving DecidableEq, Repr

/-- The length of the longest common beginning. -/
def commonStart : List Char → List Char → Nat
  | a :: as, b :: bs => if a = b then commonStart as bs + 1 else 0
  | _, _ => 0

/-- The longest shared text; of several the first in the first word, then in the second. -/
def longestShared (a b : List Char) : SharedBlock :=
  let places := (List.range a.length).flatMap fun i => (List.range b.length).map fun j => (i, j)
  places.foldl
    (fun best place =>
      let size := commonStart (a.drop place.1) (b.drop place.2)
      if best.size < size then ⟨place.1, place.2, size⟩ else best)
    ⟨0, 0, 0⟩

/-- The number of shared characters, with at most `depth` divisions. -/
def sharedWithin : Nat → List Char → List Char → Nat
  | 0, _, _ => 0
  | depth + 1, a, b =>
    let block := longestShared a b
    if block.size = 0 then 0
    else
      sharedWithin depth (a.take block.first) (b.take block.second) + block.size +
        sharedWithin depth (a.drop (block.first + block.size)) (b.drop (block.second + block.size))

/-- The number of shared characters. -/
def sharedCount (a b : List Char) : Nat := sharedWithin (a.length + 1) a b

/-- A candidate with the share of its characters, as twice a count over a sum of lengths. -/
structure Likeness where
  /-- The candidate. -/
  word : String
  /-- Twice the number of shared characters. -/
  shared : Nat
  /-- The number of characters of both words together. -/
  total : Nat
deriving Repr

/-- How alike a candidate is to a word. -/
def likeness (word candidate : String) : Likeness :=
  let a := candidate.toList
  let b := word.toList
  ⟨candidate, 2 * sharedCount a b, a.length + b.length⟩

/-- Whether a candidate comes before another one: it is more alike, or as alike and greater. -/
def Likeness.before (x y : Likeness) : Bool :=
  let left := x.shared * y.total
  let right := y.shared * x.total
  decide (right < left) || (left == right && decide (y.word ≤ x.word))

/-- The words among the candidates, at most three, that share at least three fifths with a word. -/
def similarWords (word : String) (candidates : List String) : List String :=
  let near := (candidates.map (likeness word)).filter fun l => decide (3 * l.total ≤ 5 * l.shared)
  ((near.mergeSort Likeness.before).take 3).map (·.word)

end KeyedAccess.Text
