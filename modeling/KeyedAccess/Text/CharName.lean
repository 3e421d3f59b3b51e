import KeyedAccess.Text.CharSet
import KeyedAccess.Text.NameTable.Aliases
import KeyedAccess.Text.NameTable.Alphabets
import KeyedAccess.Text.NameTable.Ancient
import KeyedAccess.Text.NameTable.EastAsian
import KeyedAccess.Text.NameTable.Symbols

/-!
# Names of characters

The code point that a name of Unicode 14 denotes. A table of names is a list of lines with entries
between commas, in the order of their code points. An entry begins with its code point and a colon
unless this is the one after the entry before it; then a letter tells how many words of the name
before are kept, `a` for none, and the further words follow. Ideographs are named by their code
points and Hangul syllables by their sounds, so that these need no table.
-/

namespace KeyedAccess.Text

/-- A code point and the words of a name for it. -/
structure NamedPoint where
  /-- The code point. -/
  point : Nat
  /-- The words of the name. -/
  words : List (List Char)
deriving DecidableEq, Repr

/-- The entry of a table that stands behind a given one. -/
def NamedPoint.next (before : NamedPoint) (entry : List Char) : NamedPoint :=
  let extend (point : Nat) : List Char → NamedPoint
    | [] => ⟨point, []⟩
    | kept :: rest => ⟨point, before.words.take (kept.toNat - 'a'.toNat) ++ fields ' ' rest⟩
  match fields ':' entry with
  | [point, rest] => extend (hexNumber point) rest
  | _ => extend (before.point + 1) entry

/-- The code point of a name among the entries behind a given one. -/
def pointAmong (words : List (List Char)) (before : NamedPoint) : List (List Char) → Option Nat
  | [] => none
  | entry :: rest =>
    let named := before.next entry
    if named.words = words then some named.point else pointAmong words named rest

/-- The code point of a name in a table. -/
def pointInTable (words : List (List Char)) (lines : List String) : Option Nat :=
  pointAmong words ⟨0, []⟩ (lines.flatMap fun line => fields ',' line.toList)

/-- The tables of names. -/
def nameTables : List (List String) := [
  europeanNames, hebrewToTibetanNames, myanmarToVedicNames, extendedLatinNames, punctuationNames,
  drawingNames, kanaNames, yiNames, presentationFormNames, linearNames, brahmicNames,
  hieroglyphNames, bamumNames, musicNames, mathematicalLetterNames, pictographNames, aliasNames]

/-- The unified ideographs. -/
def unifiedIdeographs : CharSet := ⟨[
  (0x3400, 0x4dbf), (0x4e00, 0x9fff), (0x20000, 0x2a6df), (0x2a700, 0x2b738), (0x2b740, 0x2b81d),
  (0x2b820, 0x2cea1), (0x2ceb0, 0x2ebe0), (0x30000, 0x3134a)]⟩

/-- Characters that are named by a word in front of their code point. -/
def numberedCharacters : List (String × CharSet) := [
  ("CJK COMPATIBILITY IDEOGRAPH-", ⟨[(0xf900, 0xfa6d), (0xfa70, 0xfad9), (0x2f800, 0x2fa1d)]⟩),
  ("KHITAN SMALL SCRIPT CHARACTER-", ⟨[(0x18b00, 0x18cd5)]⟩),
  ("NUSHU CHARACTER-", ⟨[(0x1b170, 0x1b2fb)]⟩)]

/-- What stands behind a beginning of a text. -/
def behind? (beginning : String) (text : List Char) : Option (List Char) :=
  if beginning.toList.isPrefixOf text then some (text.drop beginning.length) else none

/-- The code point of a set that some digits write in capitals. -/
def pointOfDigits? (set : CharSet) (digits : List Char) : Option Nat :=
  let point := hexNumber digits
  if digits.all (fun c => (hexDigit? c).isSome && !c.isLower) && set.contains point then some point
  else none

/-- The names of the leading consonants. -/
def hangulLeads : List String :=
  ["G", "GG", "N", "D", "DD", "R", "M", "B", "BB", "S", "SS", "", "J", "JJ", "C", "K", "T", "P",
    "H"]

/-- The names of the vowels. -/
def hangulVowels : List String :=
  ["A", "AE", "YA", "YAE", "EO", "E", "YEO", "YE", "O", "WA", "WAE", "OE", "YO", "U", "WEO", "WE",
    "WI", "YU", "EU", "YI", "I"]

/-- The names of the trailing consonants. -/
def hangulTrails : List String :=
  ["", "G", "GG", "GS", "N", "NJ", "NH", "D", "L", "LG", "LM", "LB", "LS", "LT", "LP", "LH", "M",
    "B", "BS", "S", "SS", "NG", "J", "C", "K", "T", "P", "H"]

/-- The sound of a Hangul syllable, which is numbered by its lead, its vowel and its trail. -/
def hangulSound (index : Nat) : String :=
  hangulLeads.getD (index / 588) "" ++ hangulVowels.getD (index % 588 / 28) "" ++
    hangulTrails.getD (index % 28) ""

/-- The Hangul syllable of a sound. -/
def hangulPoint? (sound : String) : Option Nat :=
  ((List.range 11172).find? fun index => hangulSound index == sound).map (0xac00 + ·)

/-- The code point of a character that is named by its number, after its word in capitals. -/
def numberedPoint? (name : List Char) : Option Nat :=
  numberedCharacters.findSome? fun kind => do
    let digits ← behind? kind.1 name
    if digits.head? = some '0' then none else pointOfDigits? kind.2 digits

/-- The code point of a name. Case counts only in the words of ideographs and of syllables. -/
def pointOfName? (name : String) : Option Nat :=
  match behind? "HANGUL SYLLABLE " name.toList, behind? "CJK UNIFIED IDEOGRAPH-" name.toList with
  | some sound, _ => hangulPoint? (String.ofList sound)
  | none, some digits =>
    if digits.length = 4 ∨ digits.length = 5 then pointOfDigits? unifiedIdeographs digits else none
  | none, none =>
    let capitals := name.toList.map Char.toUpper
    match numberedPoint? capitals with
    | some point => some point
    | none => nameTables.findSome? (pointInTable (fields ' ' capitals))

end KeyedAccess.Text
