import KeyedAccess.Console.Listing
import KeyedAccess.Proofs.Script.Literal
import KeyedAccess.Proofs.Text.Identifier
import Mathlib.Data.List.Forall2

/-!
# Listings are read back

A reader of JSON without numbers, which no listing holds. A text is split into signs, and the signs
are followed with a stack of the values that are still open, so that nothing but one whole value is
accepted. The text of a value is split into the signs of the value, whatever its margin, and these
lead to the value.
-/

namespace KeyedAccess.Console

open Text (asciiEscape asciiQuoted hexDigit? hexDigits hexNumber unitEscape units)

/-! ## Quoted texts -/

/-- The unit that a letter stands for behind a backslash. -/
def letterUnit? : Char → Option Nat
  | '"' => some 0x22
  | '\\' => some 0x5c
  | '/' => some 0x2f
  | 'b' => some 0x08
  | 'f' => some 0x0c
  | 'n' => some 0x0a
  | 'r' => some 0x0d
  | 't' => some 0x09
  | _ => none

/-- Four hexadecimal digits as a unit. -/
def digitsUnit? (digits : List Char) : Option Nat :=
  if digits.all fun c => (hexDigit? c).isSome then some (hexNumber digits) else none

/-- What is read, behind further units. -/
def behindUnits (front : List Nat) (read : List Nat × List Char) : List Nat × List Char :=
  (front ++ read.1, read.2)

/-- The units of sixteen bits of a text up to the quote that closes it, and what is behind it. -/
def readUnits : List Char → Option (List Nat × List Char)
  | [] => none
  | '"' :: rest => some ([], rest)
  | '\\' :: 'u' :: a :: b :: c :: d :: rest =>
    (digitsUnit? [a, b, c, d]).bind fun unit => (readUnits rest).map (behindUnits [unit])
  | '\\' :: letter :: rest =>
    (letterUnit? letter).bind fun unit => (readUnits rest).map (behindUnits [unit])
  | c :: rest => if c.toNat < 32 then none else (readUnits rest).map (behindUnits (units c))

/-- The characters of units: two halves of a surrogate pair give one character, and a half alone
gives none. -/
def joinUnits : List Nat → Option (List Char)
  | [] => some []
  | [unit] => if unit < 0xd800 ∨ 0xdfff < unit then some [Char.ofNat unit] else none
  | unit :: low :: rest =>
    if unit < 0xd800 ∨ 0xdfff < unit then (joinUnits (low :: rest)).map (Char.ofNat unit :: ·)
    else if unit < 0xdc00 ∧ 0xdc00 ≤ low ∧ low ≤ 0xdfff then
      (joinUnits rest).map
        (Char.ofNat (0x10000 + (unit - 0xd800) * 0x400 + (low - 0xdc00)) :: ·)
    else none

private theorem joinUnits_cons {unit : Nat} (h : unit < 0xd800 ∨ 0xdfff < unit) (rest : List Nat) :
    joinUnits (unit :: rest) = (joinUnits rest).map (Char.ofNat unit :: ·) := by
  cases rest with
  | nil =>
    rw [joinUnits.eq_2, if_pos h]
    rfl
  | cons low rest => rw [joinUnits, if_pos h]

/-- The units of a character give the character. -/
theorem joinUnits_units (c : Char) (rest : List Nat) :
    joinUnits (units c ++ rest) = (joinUnits rest).map (c :: ·) := by
  have hc := Text.not_surrogate c
  rw [units]
  by_cases hnarrow : c.toNat < 0x10000
  · rw [if_pos hnarrow, List.singleton_append, joinUnits_cons hc, Char.ofNat_toNat]
  · have hlt := Text.toNat_lt c
    have hsum : 0x10000 + (0xd800 + (c.toNat - 0x10000) / 0x400 - 0xd800) * 0x400 +
        (0xdc00 + (c.toNat - 0x10000) % 0x400 - 0xdc00) = c.toNat := by omega
    rw [if_neg hnarrow, List.cons_append, List.singleton_append, joinUnits, if_neg (by omega),
      if_pos (by omega), hsum, Char.ofNat_toNat]

/-- The units of a text give the text. -/
theorem joinUnits_flatMap_units (text : List Char) :
    joinUnits (text.flatMap units) = some text := by
  induction text with
  | nil => rfl
  | cons c text ih => rw [List.flatMap_cons, joinUnits_units, ih, Option.map_some]

/-- A part of a quoted text is read as these units, whatever stands behind it. -/
def Spells (part : List Char) (spelled : List Nat) : Prop :=
  ∀ rest, readUnits (part ++ rest) = (readUnits rest).map (behindUnits spelled)

/-- Two parts are read one after the other. -/
theorem Spells.append {first second : List Char} {p q : List Nat} (h : Spells first p)
    (hs : Spells second q) : Spells (first ++ second) (p ++ q) := by
  intro rest
  rw [List.append_assoc, h, hs, Option.map_map]
  refine congrArg (Option.map · _) (funext fun read => ?_)
  exact Prod.ext (List.append_assoc p q read.1).symm rfl

private theorem spells_unitEscape {unit : Nat} (h : unit < 0x10000) :
    Spells (unitEscape unit) [unit] := by
  intro rest
  have hlen := Text.length_hexDigits 4 unit
  have hnumber : hexNumber (hexDigits 4 unit) = unit := by
    rw [Text.hexNumber_hexDigits]
    exact Nat.mod_eq_of_lt h
  have hunit : digitsUnit? (hexDigits 4 unit) = some unit := by
    rw [digitsUnit?, if_pos (Text.all_hexDigits 4 unit), hnumber]
  rw [unitEscape]
  generalize hexDigits 4 unit = digits at hlen hunit
  obtain ⟨a, b, c, d, rfl⟩ : ∃ a b c d, digits = [a, b, c, d] := by
    match digits, hlen with
    | [a, b, c, d], _ => exact ⟨a, b, c, d, rfl⟩
  change (digitsUnit? [a, b, c, d]).bind _ = _
  rw [hunit]
  rfl

private theorem spells_plain {c : Char} (hprinted : Text.IsPlain c) (hquote : c ≠ '"')
    (hslash : c ≠ '\\') :
    Spells [c] [c.toNat] := by
  have hunits : units c = [c.toNat] :=
    Text.units_eq_singleton_iff.mpr (Nat.lt_trans hprinted.2 (by decide))
  rw [← hunits]
  intro rest
  rw [List.singleton_append, readUnits, if_neg (Nat.not_lt.mpr hprinted.1)]
  · exact hquote
  · intro _ _ _ _ _ hc
    exact absurd hc hslash
  · intro _ _ hc
    exact absurd hc hslash

private theorem spells_letter {letter : Char} {unit : Nat} (h : letterUnit? letter = some unit) :
    Spells ['\\', letter] [unit] := by
  have hu : letter ≠ 'u' := by
    rintro rfl
    cases h
  intro rest
  rw [List.cons_append, List.singleton_append, readUnits, h]
  · rfl
  · intro _ _ _ _ _ he
    exact absurd he hu

/-- The ASCII form of a character is read as the units of the character. -/
theorem spells_asciiEscape (c : Char) : Spells (asciiEscape c) (units c) := by
  -- a listing and a script agree on the letters that are written
  have hletters : ∀ letter ∈ Script.escapeLetters,
      letterUnit? letter = Script.letterEscape letter := by decide
  have hlt := Text.toNat_lt c
  have hform := Script.escapedAs_asciiEscape c
  generalize asciiEscape c = form at hform
  cases hform with
  | letter hnarrow hletter hstands =>
    rw [Text.units_eq_singleton_iff.mpr hnarrow]
    exact spells_letter ((hletters _ hletter).trans hstands)
  | plain hprinted hquote hslash =>
    rw [Text.units_eq_singleton_iff.mpr (Nat.lt_trans hprinted.2 (by decide))]
    exact spells_plain hprinted hquote hslash
  | unit hnarrow =>
    rw [Text.units_eq_singleton_iff.mpr hnarrow]
    exact spells_unitEscape hnarrow
  | pair hwide =>
    rw [units, if_neg hwide]
    exact (spells_unitEscape (by omega)).append (spells_unitEscape (by omega))

/-- The ASCII form of a text is read as the units of the text. -/
theorem spells_flatMap_asciiEscape (text : List Char) :
    Spells (text.flatMap asciiEscape) (text.flatMap units) := by
  induction text with
  | nil =>
    intro rest
    exact Option.map_id'.symm
  | cons c text ih =>
    rw [List.flatMap_cons, List.flatMap_cons]
    exact (spells_asciiEscape c).append ih

/-! ## Signs -/

/-- A sign of a text: a mark, or a value without parts. -/
inductive Sign where
  /-- A bracket, a comma or a colon. -/
  | mark (c : Char)
  /-- A text or a word for a value. -/
  | atom (value : Datum)

/-- A character that may stand between signs. -/
def isGap (c : Char) : Bool := c == ' ' || c == '\n' || c == '\r' || c == '\t'

/-- A character that is a sign by itself. -/
def isMark (c : Char) : Bool := ['[', ']', '\x7b', '\x7d', ',', ':'].contains c

/-- A value without parts at the beginning of a text, and what is behind it. -/
def readAtom : List Char → Option (Datum × List Char)
  | '"' :: rest => (readUnits rest).bind fun read =>
    (joinUnits read.1).map fun text => (.text (String.ofList text), read.2)
  | 'n' :: 'u' :: 'l' :: 'l' :: rest => some (.nothing, rest)
  | 't' :: 'r' :: 'u' :: 'e' :: rest => some (.truth true, rest)
  | 'f' :: 'a' :: 'l' :: 's' :: 'e' :: rest => some (.truth false, rest)
  | _ => none

/-- Reading units consumes the closing quote at least. -/
theorem length_readUnits {text : List Char} {read : List Nat × List Char}
    (h : readUnits text = some read) : read.2.length < text.length := by
  fun_induction readUnits text generalizing read with
  | case1 => cases h
  | case2 rest =>
    cases h
    exact Nat.lt_succ_self _
  | case3 a b c d rest ih =>
    obtain ⟨unit, -, h⟩ := Option.bind_eq_some_iff.mp h
    obtain ⟨other, hother, rfl⟩ := Option.map_eq_some_iff.mp h
    have hlt := ih hother
    simp only [behindUnits, List.length_cons]
    omega
  | case4 letter rest _ ih =>
    obtain ⟨unit, -, h⟩ := Option.bind_eq_some_iff.mp h
    obtain ⟨other, hother, rfl⟩ := Option.map_eq_some_iff.mp h
    have hlt := ih hother
    simp only [behindUnits, List.length_cons]
    omega
  | case5 => cases h
  | case6 c rest _ _ _ _ ih =>
    obtain ⟨other, hother, rfl⟩ := Option.map_eq_some_iff.mp h
    have hlt := ih hother
    exact Nat.lt_succ_of_lt hlt

/-- Reading a value without parts consumes something. -/
theorem length_readAtom {text : List Char} {read : Datum × List Char}
    (h : readAtom text = some read) : read.2.length < text.length := by
  rw [readAtom.eq_def] at h
  split at h
  · obtain ⟨units, hunits, h⟩ := Option.bind_eq_some_iff.mp h
    obtain ⟨chars, -, rfl⟩ := Option.map_eq_some_iff.mp h
    exact Nat.lt_succ_of_lt (length_readUnits hunits)
  · cases h
    simp only [List.length_cons]
    omega
  · cases h
    simp only [List.length_cons]
    omega
  · cases h
    simp only [List.length_cons]
    omega
  · cases h

/-- The signs of a text. -/
def signs : List Char → Option (List Sign)
  | [] => some []
  | c :: rest =>
    if isGap c then signs rest
    else if isMark c then (signs rest).map (.mark c :: ·)
    else match h : readAtom (c :: rest) with
      | some read =>
        have := length_readAtom h
        (signs read.2).map (.atom read.1 :: ·)
      | none => none
termination_by text => text.length
decreasing_by
  · exact Nat.lt_succ_self _
  · exact Nat.lt_succ_self _
  · exact this

/-- A text is split into these signs, whatever stands behind it. -/
def Lexes (text : List Char) (found : List Sign) : Prop :=
  ∀ rest, signs (text ++ rest) = (signs rest).map (found ++ ·)

private theorem lexes_nil : Lexes [] [] := by
  intro rest
  exact Option.map_id'.symm

/-- Two texts are split one after the other. -/
theorem Lexes.append {text other : List Char} {found others : List Sign} (h : Lexes text found)
    (ho : Lexes other others) : Lexes (text ++ other) (found ++ others) := by
  intro rest
  rw [List.append_assoc, h, ho, Option.map_map]
  refine congrArg (Option.map · _) (funext fun behind => ?_)
  exact (List.append_assoc found others behind).symm

private theorem lexes_gap {text : List Char} (h : ∀ c ∈ text, isGap c = true) : Lexes text [] := by
  induction text with
  | nil => exact lexes_nil
  | cons c text ih =>
    obtain ⟨hc, htext⟩ := List.forall_mem_cons.mp h
    intro rest
    rw [List.cons_append, signs, if_pos hc]
    exact ih htext rest

private theorem lexes_mark {c : Char} (h : isMark c = true) (hg : isGap c = false) :
    Lexes [c] [.mark c] := by
  intro rest
  rw [List.singleton_append, signs, if_neg (Bool.eq_false_iff.mp hg), if_pos h]
  rfl

private theorem lexes_atom {c : Char} {text : List Char} {value : Datum} (hm : isMark c = false)
    (hg : isGap c = false) (h : ∀ rest, readAtom (c :: (text ++ rest)) = some (value, rest)) :
    Lexes (c :: text) [.atom value] := by
  intro rest
  rw [List.cons_append, signs, if_neg (Bool.eq_false_iff.mp hg), if_neg (Bool.eq_false_iff.mp hm)]
  split
  · next read hread =>
    rw [h rest] at hread
    cases hread
    rfl
  · next hread =>
    rw [h rest] at hread
    cases hread

/-- The ASCII form of a text is a sign. -/
theorem lexes_asciiQuoted (text : String) :
    Lexes (asciiQuoted text).toList [.atom (.text text)] := by
  rw [asciiQuoted, String.toList_ofList]
  refine lexes_atom (by decide) (by decide) fun rest => ?_
  have hread : readUnits (text.toList.flatMap asciiEscape ++ ['"'] ++ rest) =
      some (text.toList.flatMap units, rest) := by
    rw [List.append_assoc, spells_flatMap_asciiEscape, List.singleton_append, readUnits,
      Option.map_some, behindUnits, List.append_nil]
  rw [readAtom, hread, Option.bind_some, joinUnits_flatMap_units, Option.map_some,
    String.ofList_toList]

/-! ## Signs of values -/

/-- The signs of parts between two brackets. -/
def bracketSigns (opening closing : Char) (parts : List (List Sign)) : List Sign :=
  .mark opening :: ([.mark ','].intercalate parts ++ [.mark closing])

mutual

/-- The signs of a value. -/
def Datum.signs : Datum → List Sign
  | .items values => bracketSigns '[' ']' (itemSigns values)
  | .fields values => bracketSigns '\x7b' '\x7d' (fieldSigns values)
  | .nothing => [.atom .nothing]
  | .truth b => [.atom (.truth b)]
  | .text s => [.atom (.text s)]

/-- The signs of values in order. -/
def itemSigns : List Datum → List (List Sign)
  | [] => []
  | value :: rest => value.signs :: itemSigns rest

/-- The signs of named values in order. -/
def fieldSigns : List (String × Datum) → List (List Sign)
  | [] => []
  | (name, value) :: rest =>
    (.atom (.text name) :: .mark ':' :: value.signs) :: fieldSigns rest

end

private theorem lexes_intercalate {separator : List Char} {between : List Sign}
    (hs : Lexes separator between) {texts : List (List Char)} {parts : List (List Sign)}
    (h : List.Forall₂ Lexes texts parts) :
    Lexes (separator.intercalate texts) (between.intercalate parts) := by
  induction h with
  | nil => exact lexes_nil
  | @cons text part texts parts hpart hparts ih =>
    cases hparts with
    | nil =>
      rw [List.intercalate_singleton, List.intercalate_singleton]
      exact hpart
    | cons hnext hothers =>
      rw [List.intercalate_cons_cons, List.intercalate_cons_cons]
      exact (hpart.append hs).append ih

private theorem isGap_of_mem_inner {margin : String} (h : ∀ c ∈ margin.toList, isGap c = true) :
    ∀ c ∈ (margin ++ "  ").toList, isGap c = true := by
  rw [String.toList_append]
  exact List.forall_mem_append.mpr ⟨h, by decide⟩

private theorem lexes_bracketed {opening closing margin : String} {first last : Char}
    {entries : List String} {parts : List (List Sign)}
    (hopening : opening.toList = [first] ∧ isMark first = true ∧ isGap first = false)
    (hclosing : closing.toList = [last] ∧ isMark last = true ∧ isGap last = false)
    (hmargin : ∀ c ∈ margin.toList, isGap c = true)
    (h : List.Forall₂ (fun entry part => Lexes entry.toList part) entries parts) :
    Lexes (bracketed opening closing margin entries).toList (bracketSigns first last parts) := by
  have hfirst := lexes_mark hopening.2.1 hopening.2.2
  have hlast := lexes_mark hclosing.2.1 hclosing.2.2
  have hline : Lexes "\n".toList [] := lexes_gap (by decide)
  have hinner : Lexes (margin ++ "  ").toList [] := lexes_gap (isGap_of_mem_inner hmargin)
  rw [bracketed]
  by_cases hempty : entries = []
  · subst hempty
    cases h
    rw [if_pos List.isEmpty_nil, String.toList_append, hopening.1, hclosing.1]
    exact hfirst.append hlast
  · have hcomma : Lexes (",\n" ++ (margin ++ "  ")).toList [.mark ','] := by
      have hmark : Lexes ",\n".toList [.mark ','] := by
        have htext : ",\n".toList = [','] ++ "\n".toList := by decide
        rw [htext]
        exact (lexes_mark (by decide) (by decide)).append hline
      rw [String.toList_append]
      exact hmark.append hinner
    have hentries := lexes_intercalate hcomma (List.forall₂_map_left_iff.mpr h)
    have hfront := ((hfirst.append hline).append hinner).append hentries
    have hwhole := ((hfront.append hline).append (lexes_gap hmargin)).append hlast
    rw [if_neg (by simpa using hempty)]
    simp only [String.toList_append, String.toList_intercalate, hopening.1, hclosing.1,
      List.append_nil, List.append_assoc] at hwhole ⊢
    exact hwhole

mutual

/-- The text of a value is split into its signs, whatever blank margin it has. -/
theorem Datum.lexes_write (value : Datum) {margin : String}
    (h : ∀ c ∈ margin.toList, isGap c = true) : Lexes (value.write margin).toList value.signs := by
  match value with
  | .nothing =>
    have htext : "null".toList = ['n', 'u', 'l', 'l'] := by decide
    rw [Datum.write, htext]
    exact lexes_atom (by decide) (by decide) fun _ => rfl
  | .truth true =>
    have htext : "true".toList = ['t', 'r', 'u', 'e'] := by decide
    rw [Datum.write, htext]
    exact lexes_atom (by decide) (by decide) fun _ => rfl
  | .truth false =>
    have htext : "false".toList = ['f', 'a', 'l', 's', 'e'] := by decide
    rw [Datum.write, htext]
    exact lexes_atom (by decide) (by decide) fun _ => rfl
  | .text s => exact lexes_asciiQuoted s
  | .items values =>
    rw [Datum.write, Datum.signs]
    exact lexes_bracketed (by decide) (by decide) h (lexes_writeItems values h)
  | .fields values =>
    rw [Datum.write, Datum.signs]
    exact lexes_bracketed (by decide) (by decide) h (lexes_writeFields values h)

/-- So are the texts of values in order. -/
theorem lexes_writeItems (values : List Datum) {margin : String}
    (h : ∀ c ∈ margin.toList, isGap c = true) :
    List.Forall₂ (fun entry part => Lexes entry.toList part) (writeItems (margin ++ "  ") values)
      (itemSigns values) := by
  match values with
  | [] =>
    rw [writeItems, itemSigns]
    exact .nil
  | value :: rest =>
    rw [writeItems, itemSigns]
    exact .cons (value.lexes_write (isGap_of_mem_inner h)) (lexes_writeItems rest h)

/-- And the texts of named values. -/
theorem lexes_writeFields (values : List (String × Datum)) {margin : String}
    (h : ∀ c ∈ margin.toList, isGap c = true) :
    List.Forall₂ (fun entry part => Lexes entry.toList part) (writeFields (margin ++ "  ") values)
      (fieldSigns values) := by
  match values with
  | [] =>
    rw [writeFields, fieldSigns]
    exact .nil
  | (name, value) :: rest =>
    rw [writeFields, fieldSigns]
    refine .cons ?_ (lexes_writeFields rest h)
    have hcolon : Lexes ": ".toList [.mark ':'] := by
      have htext : ": ".toList = [':'] ++ " ".toList := by decide
      rw [htext]
      exact (lexes_mark (by decide) (by decide)).append (lexes_gap (by decide))
    rw [String.toList_append, String.toList_append]
    exact ((lexes_asciiQuoted name).append hcolon).append (value.lexes_write (isGap_of_mem_inner h))

end

/-! ## Following signs -/

/-- A value that is still open, with what is known of it. -/
inductive Open where
  /-- A list with its values so far. -/
  | items (before : List Datum)
  /-- Named values so far, and the name of the next one. -/
  | fields (before : List (String × Datum)) (name : String)

/-- What is expected next, within the open values. -/
inductive Stage where
  /-- A value, or the end of a list that has just been opened. -/
  | value (stack : List Open)
  /-- The name of a value, or the end if there are no named values yet. -/
  | name (before : List (String × Datum)) (stack : List Open)
  /-- The colon behind a name. -/
  | colon (before : List (String × Datum)) (name : String) (stack : List Open)
  /-- What may stand behind a whole value. -/
  | behind (value : Datum) (stack : List Open)

/-- What a sign leads to. -/
def Stage.step : Stage → Sign → Option Stage
  | .value stack, .atom whole => some (.behind whole stack)
  | .value stack, .mark '[' => some (.value (.items [] :: stack))
  | .value stack, .mark '\x7b' => some (.name [] stack)
  | .value (.items [] :: stack), .mark ']' => some (.behind (.items []) stack)
  | .name before stack, .atom (.text key) => some (.colon before key stack)
  | .name [] stack, .mark '\x7d' => some (.behind (.fields []) stack)
  | .colon before key stack, .mark ':' => some (.value (.fields before key :: stack))
  | .behind whole (.items before :: stack), .mark ',' =>
    some (.value (.items (before ++ [whole]) :: stack))
  | .behind whole (.items before :: stack), .mark ']' =>
    some (.behind (.items (before ++ [whole])) stack)
  | .behind whole (.fields before key :: stack), .mark ',' =>
    some (.name (before ++ [(key, whole)]) stack)
  | .behind whole (.fields before key :: stack), .mark '\x7d' =>
    some (.behind (.fields (before ++ [(key, whole)])) stack)
  | _, _ => none

/-- The value that signs have led to, if nothing is open any more. -/
def Stage.result? : Stage → Option Datum
  | .behind whole [] => some whole
  | _ => none

/-- The value that a text stands for. -/
def decode (text : String) : Option Datum :=
  (signs text.toList).bind fun found =>
    (found.foldlM Stage.step (.value [])).bind Stage.result?

/-- Signs that lead from one stage to another. -/
def Leads (stage : Stage) (found : List Sign) (next : Stage) : Prop :=
  found.foldlM Stage.step stage = some next

/-- Signs lead on from where others have led. -/
theorem Leads.append {stage between next : Stage} {found others : List Sign}
    (h : Leads stage found between) (ho : Leads between others next) :
    Leads stage (found ++ others) next := by
  rw [Leads, List.foldlM_append, h]
  exact ho

mutual

/-- The signs of a value lead behind it. -/
theorem Datum.leads_signs (value : Datum) (stack : List Open) :
    Leads (.value stack) value.signs (.behind value stack) := by
  match value with
  | .nothing => rfl
  | .truth b => rfl
  | .text s => rfl
  | .items values =>
    have hopen : Leads (.value stack) [.mark '['] (.value (.items [] :: stack)) := rfl
    rw [Datum.signs]
    exact hopen.append (leads_items values [] stack fun _ => rfl)
  | .fields values =>
    have hopen : Leads (.value stack) [.mark '\x7b'] (.name [] stack) := rfl
    rw [Datum.signs]
    exact hopen.append (leads_fields values [] stack fun _ => rfl)

/-- The signs of the values that are left in a list lead behind the list; it can be left without
any more of them if there have been none. -/
theorem leads_items (values before : List Datum) (stack : List Open)
    (h : values = [] → before = []) :
    Leads (.value (.items before :: stack))
      ([Sign.mark ','].intercalate (itemSigns values) ++ [Sign.mark ']'])
      (.behind (.items (before ++ values)) stack) := by
  match values with
  | [] =>
    rw [h rfl]
    rfl
  | [value] =>
    have hclose : Leads (.behind value (.items before :: stack)) [.mark ']']
      (.behind (.items (before ++ [value])) stack) := rfl
    rw [itemSigns, itemSigns, List.intercalate_singleton]
    exact (value.leads_signs (.items before :: stack)).append hclose
  | value :: next :: rest =>
    have hcomma : Leads (.behind value (.items before :: stack)) [.mark ',']
      (.value (.items (before ++ [value]) :: stack)) := rfl
    have hfirst := (value.leads_signs (.items before :: stack)).append hcomma
    have hrest := leads_items (next :: rest) (before ++ [value]) stack nofun
    rw [List.append_assoc, List.singleton_append] at hrest
    rw [itemSigns, itemSigns, List.intercalate_cons_cons, List.append_assoc]
    exact hfirst.append hrest

/-- So do the signs of the named values that are left. -/
theorem leads_fields (values before : List (String × Datum)) (stack : List Open)
    (h : values = [] → before = []) :
    Leads (.name before stack)
      ([Sign.mark ','].intercalate (fieldSigns values) ++ [Sign.mark '\x7d'])
      (.behind (.fields (before ++ values)) stack) := by
  match values with
  | [] =>
    rw [h rfl]
    rfl
  | [(name, value)] =>
    have hname : Leads (.name before stack) [.atom (.text name), .mark ':']
      (.value (.fields before name :: stack)) := rfl
    have hclose : Leads (.behind value (.fields before name :: stack)) [.mark '\x7d']
      (.behind (.fields (before ++ [(name, value)])) stack) := rfl
    rw [fieldSigns, fieldSigns, List.intercalate_singleton]
    exact (hname.append (value.leads_signs (.fields before name :: stack))).append hclose
  | (name, value) :: next :: rest =>
    have hname : Leads (.name before stack) [.atom (.text name), .mark ':']
      (.value (.fields before name :: stack)) := rfl
    have hcomma : Leads (.behind value (.fields before name :: stack)) [.mark ',']
      (.name (before ++ [(name, value)]) stack) := rfl
    have hfirst := hname.append ((value.leads_signs (.fields before name :: stack)).append hcomma)
    have hrest := leads_fields (next :: rest) (before ++ [(name, value)]) stack nofun
    rw [List.append_assoc, List.singleton_append] at hrest
    rw [fieldSigns, fieldSigns, List.intercalate_cons_cons, List.append_assoc]
    exact hfirst.append hrest

end

/-- The text of a value, with a blank margin and blanks behind it, is read as the value. -/
theorem decode_write (value : Datum) {margin behind : String}
    (hm : ∀ c ∈ margin.toList, isGap c = true) (hb : ∀ c ∈ behind.toList, isGap c = true) :
    decode (value.write margin ++ behind) = some value := by
  have hsigns : signs (value.write margin ++ behind).toList = some value.signs := by
    have hlexed := ((value.lexes_write hm).append (lexes_gap hb)) []
    rw [List.append_nil, ← String.toList_append, List.append_nil] at hlexed
    rw [hlexed, signs, Option.map_some, List.append_nil]
  have hled : value.signs.foldlM Stage.step (.value []) = some (.behind value []) :=
    value.leads_signs []
  rw [decode, hsigns, Option.bind_some, hled]
  rfl

/-! ## Descriptors -/

/-- The value of a name. -/
def Datum.field? (name : String) : Datum → Option Datum
  | .fields values => values.lookup name
  | _ => none

/-- A text. -/
def Datum.text? : Datum → Option String
  | .text s => some s
  | _ => none

/-- A text, or none where there is no value. -/
def Datum.optionalText? : Datum → Option (Option String)
  | .text s => some (some s)
  | .nothing => some none
  | _ => none

/-- A truth value. -/
def Datum.truth? : Datum → Option Bool
  | .truth b => some b
  | _ => none

/-- The values of a list. -/
def Datum.items? : Datum → Option (List Datum)
  | .items values => some values
  | _ => none

/-- The property that a value describes. -/
def propertyOf? (entry : Datum) : Option Property := do
  let name ← (entry.field? "name").bind Datum.text?
  let type ← (entry.field? "type").bind Datum.text?
  let readable ← (entry.field? "readable").bind Datum.truth?
  let writable ← (entry.field? "writable").bind Datum.truth?
  return ⟨name, type, readable, writable⟩

/-- The descriptor that a value describes. -/
def descriptorOf? (entry : Datum) : Option Descriptor := do
  let identifier ← (entry.field? "identifier").bind Datum.text?
  let header ← (entry.field? "declaration_header").bind Datum.text?
  let scope ← (entry.field? "namespace").bind Datum.optionalText?
  let members ← (entry.field? "members").bind Datum.items?
  let properties ← members.mapM propertyOf?
  return { identifier, header, scope, properties }

private theorem mapM_map_of_forall {α β : Type} {write : α → β} {read : β → Option α}
    (h : ∀ x, read (write x) = some x) (list : List α) :
    (list.map write).mapM read = some list := by
  induction list with
  | nil => rfl
  | cons x list ih =>
    rw [List.map_cons, List.mapM_cons, h, ih]
    rfl

/-- A property is read back. -/
theorem propertyOf?_propertyDatum (p : Property) : propertyOf? (propertyDatum p) = some p := rfl

/-- So is a descriptor. -/
theorem descriptorOf?_descriptorDatum (t : Descriptor) :
    descriptorOf? (descriptorDatum t) = some t := by
  have hscope : (optionalDatum t.scope).optionalText? = some t.scope := by
    cases t.scope <;> rfl
  have hproperties := mapM_map_of_forall propertyOf?_propertyDatum t.properties
  -- the fields are found by their names
  change ((optionalDatum t.scope).optionalText?).bind (fun scope =>
    ((t.properties.map propertyDatum).mapM propertyOf?).bind fun properties =>
      some { identifier := t.identifier, header := t.header, scope, properties }) = some t
  rw [hscope, hproperties]
  rfl

end KeyedAccess.Console
