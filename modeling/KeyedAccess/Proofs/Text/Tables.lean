import KeyedAccess.Text.Lowercase
import KeyedAccess.Text.Normal
import KeyedAccess.Text.IdentifierTable
import KeyedAccess.Text.PrintableTable

/-!
# What the tables rule out

The properties of characters are data. The proofs use little of them: some code points are in no
set, no decomposition leads to a character with a meaning of its own, and no lower-case mapping
leads back to a capital. Each of these facts is a check of the lines of a table, one by one.

Main statement: the tables pass all of these checks.
-/

namespace KeyedAccess.Text

/-! ## Lines -/

/-- The lines of a table are checked one after the other, each as its characters. -/
theorem checked_cons {check : List Char → Bool} {chars : List Char} {lines : List String}
    (h : check chars = true) (hl : ∀ line ∈ lines, check line.toList = true) :
    ∀ line ∈ String.ofList chars :: lines, check line.toList = true := by
  refine List.forall_mem_cons.mpr ⟨?_, hl⟩
  rwa [String.toList_ofList]

/-! ## Sets -/

/-- A set that holds none of the given code points. -/
def CharSet.Excludes (s : CharSet) (points : List Nat) : Prop :=
  ∀ point ∈ points, s.contains point = false

/-- A line of a table of code points holds none of the given ones. -/
def excludes (points : List Nat) (line : List Char) : Bool :=
  ((fields ' ' line).map hexRange).all fun range =>
    points.all fun point => !(decide (range.1 ≤ point) && decide (point ≤ range.2))

/-- A table whose lines hold none of the given code points is a set without them. -/
theorem excludes_ofText {points : List Nat} {lines : List String}
    (h : ∀ line ∈ lines, excludes points line.toList = true) :
    (CharSet.ofText lines).Excludes points := by
  intro point hp
  rw [CharSet.contains, List.any_eq_false]
  intro range hr
  obtain ⟨line, hl, hm⟩ := List.mem_flatMap.mp hr
  have hx := List.all_eq_true.mp (List.all_eq_true.mp (h line hl) range hm) point hp
  rw [Bool.not_eq_true'] at hx
  exact Bool.eq_false_iff.mp hx

/-- A code point in a range of some line is in the set. -/
theorem contains_ofText_of_getElem? {lines : List String} {index : Nat} {chars : List Char}
    (hl : lines[index]? = some (String.ofList chars)) {point : Nat}
    (h : ((fields ' ' chars).map hexRange).any
      (fun range => decide (range.1 ≤ point) && decide (point ≤ range.2)) = true) :
    (CharSet.ofText lines).contains point = true := by
  obtain ⟨range, hr, hp⟩ := List.any_eq_true.mp h
  refine List.any_eq_true.mpr ⟨range, List.mem_flatMap.mpr ⟨_, List.mem_of_getElem? hl, ?_⟩, hp⟩
  rwa [String.toList_ofList]

/-- The code points beyond ASCII that end lines. -/
def wideBoundaries : List Nat := [0x85, 0x2028, 0x2029]

/-- The code points whose compatibility forms hold a slash. -/
def slashed : List Nat := [0x2100, 0x2101, 0x2105, 0x2106, 0xff0f]

/-- The code points whose compatibility form is a number sign. -/
def numberSigns : List Nat := [0xfe5f, 0xff03]

/-- The code points beyond ASCII that stand in no identifier. -/
def foreignPoints : List Nat := wideBoundaries ++ slashed ++ numberSigns

/-- The code points of the letters and digits of ASCII. -/
def letterOrDigitPoints : List Nat := List.range' 48 10 ++ List.range' 65 26 ++ List.range' 97 26

/-- They are three ranges. -/
theorem mem_letterOrDigitPoints {point : Nat} : point ∈ letterOrDigitPoints ↔
    48 ≤ point ∧ point ≤ 57 ∨ 65 ≤ point ∧ point ≤ 90 ∨ 97 ≤ point ∧ point ≤ 122 := by
  simp only [letterOrDigitPoints, List.mem_append, List.mem_range'_1]
  omega

/-- Two code points beyond ASCII that are printed as they are, the second one in two units. -/
def printedPoints : List Nat := [0xe9, 0x20bb7]

/-! ## Normal forms -/

/-- Whether a number is the code point of a character that can stand in the name of a file. -/
def isNamePoint (point : Nat) : Bool :=
  point != 0 && point != 0x2f &&
    (decide (point < 0xd800) || decide (0xdfff < point) && decide (point < 0x110000))

/-- It is any valid code point but two. -/
theorem isNamePoint_iff {point : Nat} :
    isNamePoint point = true ↔ point ≠ 0 ∧ point ≠ 0x2f ∧ point.isValidChar := by
  simp only [isNamePoint, Nat.isValidChar, Bool.and_eq_true, Bool.or_eq_true, bne_iff_ne,
    decide_eq_true_eq, and_assoc]

/-- The code points whose compatibility form is an underscore. -/
def lowLines : List Nat := [0xfe33, 0xfe34, 0xfe4d, 0xfe4e, 0xfe4f, 0xff3f]

/-- Whether a number is such a code point that is left as it is by normalization, where it is no
number sign. -/
def isFormPoint (point : Nat) : Bool :=
  isNamePoint point && point != 0x23 && !lowLines.contains point

/-- Such a number is a code point of a name, no number sign, and none that is normalized to an
underscore. -/
theorem isFormPoint_iff {point : Nat} :
    isFormPoint point = true ↔ isNamePoint point = true ∧ point ≠ 0x23 ∧ point ∉ lowLines := by
  simp only [isFormPoint, Bool.and_eq_true, bne_iff_ne, Bool.not_eq_true',
    List.contains_eq_mem, decide_eq_false_iff_not, and_assoc]

/-- The code point of the underscore. -/
def underscorePoint : Nat := 0x5f

/-- A code point of normal forms that is no underscore. Most of them are in one range, which is
tried first. -/
def isPlainPoint (point : Nat) : Bool :=
  Nat.blt underscorePoint point && Nat.blt point 0xd800 ||
    isFormPoint point && point != underscorePoint

/-- The range makes no difference. -/
theorem isPlainPoint_iff {point : Nat} :
    isPlainPoint point = true ↔ isFormPoint point = true ∧ point ≠ underscorePoint := by
  simp only [isPlainPoint, isFormPoint_iff, isNamePoint_iff, Nat.isValidChar, underscorePoint,
    lowLines, Bool.or_eq_true, Bool.and_eq_true, Nat.blt_eq, bne_iff_ne, List.mem_cons,
    List.not_mem_nil, or_false]
  omega

/-- The entry that a part of a table line writes. -/
def sequenceEntry (entry : List Char) : List Nat × List Nat :=
  match fields '>' entry with
  | [key, value] => (hexSequence key, hexSequence value)
  | _ => ([], [])

/-- An entry leads to code points of normal forms other than the underscore, or from one of the low
lines to the underscore, or, without one, from a code point that stands in no identifier. -/
def isFormEntry (entry : List Nat × List Nat) : Bool :=
  !entry.2.isEmpty && (entry.2.all isPlainPoint ||
    (lowLines.map ([·])).contains entry.1 && entry.2 == [underscorePoint] ||
    (foreignPoints.map ([·])).contains entry.1 && !entry.2.contains underscorePoint)

/-- All entries of a line do so. -/
def leadsToForms (line : List Char) : Bool :=
  ((fields ' ' line).map sequenceEntry).all isFormEntry

/-- The range of code points that a part of a line gives a class, and the class. -/
def classEntry (entry : List Char) : (Nat × Nat) × Nat :=
  match fields '=' entry with
  | [range, mark] => (hexRange range, hexNumber mark)
  | _ => ((0, 0), 0)

/-- No range of a line gives the underscore a class. -/
def leavesUnderscore (line : List Char) : Bool :=
  ((fields ' ' line).map classEntry).all fun entry =>
    !(decide (entry.1.1 ≤ underscorePoint) && decide (underscorePoint ≤ entry.1.2))

/-! ## Lower case -/

/-- Whether a run maps a code point. -/
def CaseRun.takes (run : CaseRun) (point : Nat) : Bool :=
  decide (run.first ≤ point) && decide (point ≤ run.last) && (point - run.first) % run.step == 0

/-- It does so step by step from the first to the last. -/
theorem CaseRun.takes_iff {run : CaseRun} {point : Nat} : run.takes point = true ↔
    run.first ≤ point ∧ point ≤ run.last ∧ (point - run.first) % run.step = 0 := by
  rw [CaseRun.takes, Bool.and_eq_true, Bool.and_eq_true, decide_eq_true_eq, decide_eq_true_eq,
    beq_iff_eq, and_assoc]

/-- What a run maps a code point to. -/
def CaseRun.imageOf (run : CaseRun) (point : Nat) : Nat := run.image + (point - run.first)

/-- The code points of the two capitals that are lowered in a way of their own. -/
def specialCapitals : List Nat := [0x130, 0x3a3]

/-- The code points beyond ASCII that these two are lowered to. -/
def specialSmalls : List Nat := [0x307, 0x3c2, 0x3c3]

/-- A run leads to valid code points, to nothing before the small letters of ASCII and to none of
the two capitals, and what these are lowered to it does not take. -/
def CaseRun.isOrdinary (run : CaseRun) : Bool :=
  decide (0x60 ≤ run.image) &&
    (decide (run.imageOf run.last < 0xd800) ||
      decide (0xdfff < run.image) && decide (run.imageOf run.last < 0x110000)) &&
    (specialCapitals.all fun point =>
      decide (run.imageOf run.last < point) || decide (point < run.image)) &&
    specialSmalls.all fun point => !run.takes point

/-- An image of such a run is a valid code point, none of the two capitals, and none of the
characters of ASCII before the small letters. -/
theorem CaseRun.imageOf_of_isOrdinary {run : CaseRun} (h : run.isOrdinary = true) {point : Nat}
    (hp : run.takes point = true) : 0x60 ≤ run.imageOf point ∧
      (run.imageOf point).isValidChar ∧ run.imageOf point ∉ specialCapitals := by
  obtain ⟨hfirst, hlast, -⟩ := CaseRun.takes_iff.mp hp
  have hle : run.image ≤ run.imageOf point := Nat.le_add_right _ _
  have hge : run.imageOf point ≤ run.imageOf run.last :=
    Nat.add_le_add_left (Nat.sub_le_sub_right hlast _) _
  simp only [CaseRun.isOrdinary, specialCapitals, List.all_cons, List.all_nil, Bool.and_true,
    Bool.and_eq_true, Bool.or_eq_true, decide_eq_true_eq] at h
  obtain ⟨⟨⟨hsmall, hvalid⟩, hspecial⟩, -⟩ := h
  simp only [Nat.isValidChar, specialCapitals, List.mem_cons, List.not_mem_nil, or_false]
  omega

/-- All runs of a line are such runs. -/
def lowersOrdinarily (line : List Char) : Bool :=
  ((fields ' ' line).map CaseRun.ofText).all CaseRun.isOrdinary

/-! ## All tables -/

/-- What is checked of the sets. -/
structure CheckedSets : Prop where
  /-- No identifier begins with a code point that ends a line or turns into a sign. -/
  start : identifierStart.Excludes foreignPoints
  /-- None goes on with one. -/
  rest : identifierContinue.Excludes foreignPoints
  /-- A letter or digit is not looked through when the neighbours of a capital sigma are sought. -/
  caseIgnorable : caseIgnorable.Excludes letterOrDigitPoints
  /-- The two code points are printed. -/
  unprintable : unprintable.Excludes printedPoints

/-- What is checked of the other tables. -/
structure CheckedEntries : Prop where
  /-- Decompositions lead to normal forms. -/
  decomposition : ∀ line ∈ decompositionEntries, leadsToForms line.toList = true
  /-- So do compositions. -/
  composition : ∀ line ∈ compositionEntries, leadsToForms line.toList = true
  /-- The underscore is no mark. -/
  combining : ∀ line ∈ combiningClassEntries, leavesUnderscore line.toList = true
  /-- The lower-case mapping leads to small characters. -/
  lower : ∀ line ∈ lowerCaseRuns, lowersOrdinarily line.toList = true

-- The lines are matched reducibly: the characters of a line are then read off its text, where
-- otherwise two encodings would be compared.
/-- The sets pass their checks. -/
theorem checkedSets : CheckedSets := by
  refine ⟨excludes_ofText ?_, excludes_ofText ?_, excludes_ofText ?_, excludes_ofText ?_⟩
  all_goals
    dsimp only
    repeat with_reducible refine checked_cons (by decide +kernel) ?_
    exact List.forall_mem_nil _

/-- So do the other tables. -/
theorem checkedEntries : CheckedEntries := by
  constructor
  all_goals
    dsimp only [decompositionEntries, compositionEntries, combiningClassEntries, lowerCaseRuns]
    repeat with_reducible refine checked_cons (by decide +kernel) ?_
    exact List.forall_mem_nil _

end KeyedAccess.Text
