import KeyedAccess.Script.Lexeme
import KeyedAccess.Script.Literal
import KeyedAccess.Text.Quoted
import Mathlib.Algebra.Group.Nat.Defs

/-!
# Quoted texts as literals

The ASCII form of a text stands between double quotes, so it can be read as a literal. What it
stands for is found character by character: every character up to U+FFFF is itself again, and every
one beyond is two units of sixteen bits instead.
-/

namespace KeyedAccess.Text

/-- The value of a hexadecimal digit is found again. -/
theorem hexDigit?_hexChar {value : Nat} (h : value < 16) :
    hexDigit? (hexChar value) = some value := by
  have hall : ∀ value < 16, hexDigit? (hexChar value) = some value := by decide
  exact hall value h

private theorem hexChar_mod (value : Nat) : hexChar (value % 16) = hexChar value := by
  rw [hexChar, hexChar, Nat.mod_mod]

/-- There are as many digits as were asked for. -/
@[simp] theorem length_hexDigits (count value : Nat) : (hexDigits count value).length = count := by
  induction count generalizing value with
  | zero => rfl
  | succ count ih => rw [hexDigits, List.length_append, ih, List.length_singleton]

/-- Every digit is one of the sixteen. -/
theorem exists_of_mem_hexDigits {count value : Nat} {c : Char} (h : c ∈ hexDigits count value) :
    ∃ digit < 16, c = hexChar digit := by
  induction count generalizing value with
  | zero => cases h
  | succ count ih =>
    rcases List.mem_append.mp h with h | h
    · exact ih h
    · exact ⟨value % 16, Nat.mod_lt _ (by decide), by
        rw [hexChar_mod]
        exact List.mem_singleton.mp h⟩

/-- So each of them is read as a digit. -/
theorem all_hexDigits (count value : Nat) :
    (hexDigits count value).all (fun c => (hexDigit? c).isSome) = true := by
  rw [List.all_eq_true]
  intro c hc
  obtain ⟨digit, hd, rfl⟩ := exists_of_mem_hexDigits hc
  rw [hexDigit?_hexChar hd]
  rfl

private theorem hexNumber_append (digits : List Char) (c : Char) :
    hexNumber (digits ++ [c]) = 16 * hexNumber digits + (hexDigit? c).getD 0 := by
  rw [hexNumber, hexNumber, List.foldl_append, List.foldl_cons, List.foldl_nil]

/-- The lowest digits of a number stand for its remainder. -/
theorem hexNumber_hexDigits (count value : Nat) :
    hexNumber (hexDigits count value) = value % 16 ^ count := by
  induction count generalizing value with
  | zero => rw [Nat.pow_zero, Nat.mod_one]; rfl
  | succ count ih =>
    rw [hexDigits, hexNumber_append, ih, ← hexChar_mod,
      hexDigit?_hexChar (Nat.mod_lt value (by decide)), Option.getD_some, Nat.pow_succ',
      Nat.mod_mul, Nat.add_comm]

/-- The units of sixteen bits that stand for a character. -/
def units (c : Char) : List Nat :=
  if c.toNat < 0x10000 then [c.toNat]
  else [0xd800 + (c.toNat - 0x10000) / 0x400, 0xdc00 + (c.toNat - 0x10000) % 0x400]

/-- Exactly the characters up to U+FFFF are a unit of themselves. -/
theorem units_eq_singleton_iff {c : Char} : units c = [c.toNat] ↔ c.toNat < 0x10000 := by
  rw [units]
  split
  · next h => exact iff_of_true rfl h
  · next h => exact iff_of_false (by simp) h

/-- A text is its own units exactly if no character lies beyond U+FFFF. -/
theorem flatMap_units_eq_iff {text : List Char} :
    text.flatMap units = text.map Char.toNat ↔ ∀ c ∈ text, c.toNat < 0x10000 := by
  have hle : ∀ text : List Char, text.length ≤ (text.flatMap units).length := by
    intro text
    induction text with
    | nil => exact Nat.le_refl 0
    | cons c text ih =>
      have hc : 1 ≤ (units c).length := by rw [units]; split <;> simp
      rw [List.flatMap_cons, List.length_append, List.length_cons]
      omega
  induction text with
  | nil => simp
  | cons c text ih =>
    rw [List.flatMap_cons, List.map_cons, List.forall_mem_cons]
    by_cases hc : c.toNat < 0x10000
    · rw [units_eq_singleton_iff.mpr hc, List.singleton_append, List.cons_inj_right]
      exact ih.trans (and_iff_right hc).symm
    · refine iff_of_false (fun h => ?_) fun h => hc h.1
      have hlen := congrArg List.length h
      have htwo : (units c).length = 2 := by rw [units, if_neg hc]; rfl
      have := hle text
      rw [List.length_append, htwo, List.length_cons, List.length_map] at hlen
      omega

/-- No character is half of a surrogate pair. -/
theorem not_surrogate (c : Char) : c.toNat < 0xd800 ∨ 0xdfff < c.toNat := by
  have hv := c.valid
  simp only [UInt32.isValidChar, Nat.isValidChar] at hv
  simp only [Char.toNat]
  omega

/-- Characters are below U+110000. -/
theorem toNat_lt (c : Char) : c.toNat < 0x110000 := by
  have hv := c.valid
  simp only [UInt32.isValidChar, Nat.isValidChar] at hv
  simp only [Char.toNat]
  omega

/-- The units of a text are the code points of exactly one text, or of none: of the text itself if
no character lies beyond U+FFFF. -/
theorem map_toNat_eq_flatMap_units_iff {key text : List Char} :
    key.map Char.toNat = text.flatMap units ↔ key = text ∧ ∀ c ∈ text, c.toNat < 0x10000 := by
  constructor
  · intro h
    have hnarrow : ∀ c ∈ text, c.toNat < 0x10000 := by
      intro c hc
      by_cases hlt : c.toNat < 0x10000
      · exact hlt
      · have hvalid := toNat_lt c
        -- the first unit of such a character is no code point of a text
        have hmem : 0xd800 + (c.toNat - 0x10000) / 0x400 ∈ key.map Char.toNat := by
          rw [h]
          exact List.mem_flatMap.mpr ⟨c, hc, by rw [units, if_neg hlt]; exact List.mem_cons_self⟩
        obtain ⟨d, -, hd⟩ := List.mem_map.mp hmem
        have hd' := not_surrogate d
        omega
    rw [flatMap_units_eq_iff.mpr hnarrow] at h
    exact ⟨(List.map_inj_right fun _ _ => Char.toNat_inj.mp).mp h, hnarrow⟩
  · rintro ⟨rfl, hnarrow⟩
    exact (flatMap_units_eq_iff.mpr hnarrow).symm

/-- The units determine their text: the first of two units is no character. -/
theorem flatMap_units_inj {text other : List Char} (h : text.flatMap units = other.flatMap units) :
    text = other := by
  have hcons : ∀ c rest, ∃ first more, (c :: rest : List Char).flatMap units = first :: more := by
    intro c rest
    rw [List.flatMap_cons, units]
    split <;> exact ⟨_, _, rfl⟩
  induction text generalizing other with
  | nil =>
    cases other with
    | nil => rfl
    | cons d other =>
      obtain ⟨first, more, he⟩ := hcons d other
      rw [he] at h
      cases h
  | cons c text ih =>
    cases other with
    | nil =>
      obtain ⟨first, more, he⟩ := hcons c text
      rw [he] at h
      cases h
    | cons d other =>
      have hsame : c.toNat = d.toNat ∧ text.flatMap units = other.flatMap units := by
        have hc := not_surrogate c
        have hd := not_surrogate d
        have hcv := toNat_lt c
        have hdv := toNat_lt d
        rw [List.flatMap_cons, List.flatMap_cons, units, units] at h
        split at h <;> split at h <;>
          simp only [List.cons_append, List.nil_append, List.cons.injEq] at h
        · exact h
        · omega
        · omega
        · exact ⟨by omega, h.2.2⟩
      obtain rfl := Char.toNat_inj.mp hsame.1
      rw [ih hsame.2]

/-- A printed character of ASCII. -/
def IsPlain (c : Char) : Prop := 32 ≤ c.toNat ∧ c.toNat < 127

private theorem isPlain_hexChar {digit : Nat} (h : digit < 16) :
    IsPlain (hexChar digit) ∧ hexChar digit ≠ '"' ∧ hexChar digit ≠ '\\' := by
  have hall : ∀ digit < 16, (32 ≤ (hexChar digit).toNat ∧ (hexChar digit).toNat < 127) ∧
      hexChar digit ≠ '"' ∧ hexChar digit ≠ '\\' := by decide
  exact hall digit h

end KeyedAccess.Text

namespace KeyedAccess.Script

open Text

/-- A text that may stand between single quotes: a quote, a backslash and the end of a line stand
only behind a backslash. -/
inductive Enclosed (quote : Char) : List Char → Prop where
  /-- Nothing. -/
  | nil : Enclosed quote []
  /-- A character in front of more. -/
  | plain {c : Char} {rest : List Char} (hq : c ≠ quote) (hb : c ≠ '\\') (hn : c ≠ '\n')
    (h : Enclosed quote rest) : Enclosed quote (c :: rest)
  /-- A backslash with any character in front of more. -/
  | escaped (c : Char) {rest : List Char} (h : Enclosed quote rest) :
    Enclosed quote ('\\' :: c :: rest)

/-- Two such texts may stand one behind the other. -/
theorem Enclosed.append {quote : Char} {first second : List Char} (h : Enclosed quote first)
    (hs : Enclosed quote second) : Enclosed quote (first ++ second) := by
  induction h with
  | nil => exact hs
  | plain hq hb hn _ ih => exact .plain hq hb hn ih
  | escaped c _ ih => exact .escaped c ih

/-- A text of characters that need no backslash may stand between quotes. -/
theorem enclosed_of_forall {quote : Char} {text : List Char}
    (h : ∀ c ∈ text, c ≠ quote ∧ c ≠ '\\' ∧ c ≠ '\n') : Enclosed quote text := by
  induction text with
  | nil => exact .nil
  | cons c text ih =>
    obtain ⟨hq, hb, hn⟩ := h c List.mem_cons_self
    exact .plain hq hb hn (ih fun d hd => h d (List.mem_cons_of_mem _ hd))

private theorem ne_lineFeed_of_isPlain {c : Char} (h : IsPlain c) : c ≠ '\n' := by
  rintro rfl
  exact absurd h.1 (by decide)

/-- The escape of a unit may stand between double quotes. -/
theorem enclosed_unitEscape (unit : Nat) : Enclosed '"' (unitEscape unit) := by
  refine .escaped 'u' (enclosed_of_forall fun c hc => ?_)
  obtain ⟨digit, hd, rfl⟩ := exists_of_mem_hexDigits hc
  obtain ⟨hp, hq, hb⟩ := isPlain_hexChar hd
  exact ⟨hq, hb, ne_lineFeed_of_isPlain hp⟩

/-- The letters that stand behind a backslash in the ASCII form of a character. -/
def escapeLetters : List Char := ['"', '\\', 'n', 'r', 't', 'b', 'f']

private theorem isPlain_of_mem_escapeLetters : ∀ letter ∈ escapeLetters, IsPlain letter := by
  unfold IsPlain
  decide

/-- The parts that the ASCII form of a character can consist of. -/
inductive EscapedAs (c : Char) : List Char → Prop where
  /-- A letter behind a backslash. -/
  | letter {letter : Char} (hnarrow : c.toNat < 0x10000) (hletter : letter ∈ escapeLetters)
    (hstands : letterEscape letter = some c.toNat) : EscapedAs c ['\\', letter]
  /-- The character itself. -/
  | plain (hprinted : IsPlain c) (hquote : c ≠ '"') (hslash : c ≠ '\\') : EscapedAs c [c]
  /-- The escape of a unit. -/
  | unit (hnarrow : c.toNat < 0x10000) : EscapedAs c (unitEscape c.toNat)
  /-- The escapes of two units, for a character beyond U+FFFF. -/
  | pair (hwide : ¬ c.toNat < 0x10000) : EscapedAs c
    (unitEscape (0xd800 + (c.toNat - 0x10000) / 0x400) ++
      unitEscape (0xdc00 + (c.toNat - 0x10000) % 0x400))

/-- The ASCII form of a character consists of such parts. -/
theorem escapedAs_asciiEscape (c : Char) : EscapedAs c (asciiEscape c) := by
  have hletter : ∀ d letter : Char, d.toNat < 0x10000 ∧ letter ∈ escapeLetters →
      letterEscape letter = some d.toNat → c.toNat = d.toNat → EscapedAs c ['\\', letter] := by
    rintro d letter ⟨hnarrow, hmem⟩ hstands he
    obtain rfl := Char.toNat_inj.mp he
    exact .letter hnarrow hmem hstands
  rw [asciiEscape]
  refine iteInduction (fun h => hletter '"' _ (by decide) rfl (congrArg _ h)) fun hquote => ?_
  refine iteInduction (fun h => hletter '\\' _ (by decide) rfl (congrArg _ h)) fun hslash => ?_
  refine iteInduction (fun h => hletter '\n' _ (by decide) rfl (congrArg _ h)) fun _ => ?_
  refine iteInduction (fun h => hletter '\r' _ (by decide) rfl (congrArg _ h)) fun _ => ?_
  refine iteInduction (fun h => hletter '\t' _ (by decide) rfl (congrArg _ h)) fun _ => ?_
  refine iteInduction (fun h => hletter '\x08' _ (by decide) rfl h) fun _ => ?_
  refine iteInduction (fun h => hletter '\x0c' _ (by decide) rfl h) fun _ => ?_
  refine iteInduction (fun h => .plain h hquote hslash) fun _ => ?_
  exact iteInduction .unit .pair

/-- The ASCII form of a character may stand between double quotes. -/
theorem EscapedAs.enclosed {c : Char} {form : List Char} (h : EscapedAs c form) :
    Enclosed '"' form := by
  cases h with
  | letter => exact .escaped _ .nil
  | plain hprinted hquote hslash =>
    exact .plain hquote hslash (ne_lineFeed_of_isPlain hprinted) .nil
  | unit => exact enclosed_unitEscape _
  | pair => exact (enclosed_unitEscape _).append (enclosed_unitEscape _)

/-- The ASCII form of a text may stand between double quotes. -/
theorem enclosed_flatMap_asciiEscape (text : List Char) :
    Enclosed '"' (text.flatMap asciiEscape) := by
  induction text with
  | nil => exact .nil
  | cons c text ih => exact (escapedAs_asciiEscape c).enclosed.append ih

/-- A character other than the quote and the backslash is passed over. A line feed is one only
between three quotes. -/
theorem quotedBody_cons {quote c : Char} {triple : Bool} (hq : c ≠ quote) (hb : c ≠ '\\')
    (hn : c = '\n' → triple = true) (rest : List Char) : quotedBody quote triple (c :: rest) =
      (quotedBody quote triple rest).map fun found => (c :: found.1, found.2) := by
  have hline : ¬ (c = '\n' ∧ (!triple) = true) := by
    rintro ⟨hc, ht⟩
    rw [hn hc] at ht
    cases ht
  rw [quotedBody.eq_def]
  split
  · next he => cases he
  · next he => exact absurd (List.cons.inj he).1 hb
  · next he =>
    cases he
    rw [if_neg hq, if_neg hline]

/-- The lexer finds the quote that closes such a text. -/
theorem quotedBody_enclosed {quote : Char} (hquote : quote ≠ '\\') {body : List Char}
    (h : Enclosed quote body) (rest : List Char) :
    quotedBody quote false (body ++ quote :: rest) = some (body, rest) := by
  induction h with
  | nil =>
    rw [List.nil_append, quotedBody.eq_def]
    split
    · next he => cases he
    · next he => exact absurd (List.cons.inj he).1 hquote
    · next he =>
      cases he
      rw [if_pos rfl, if_neg Bool.false_ne_true]
  | plain hq hb hn _ ih =>
    rw [List.cons_append, quotedBody_cons hq hb fun hc => absurd hc hn, ih]
    rfl
  | escaped c _ ih =>
    rw [List.cons_append, List.cons_append, quotedBody, ih]
    rfl

private theorem escape_unit {unit : Nat} (h : unit < 0x10000) (rest : List Char) :
    escape true ('u' :: (hexDigits 4 unit ++ rest)) = some ([unit], rest) := by
  have hlen := length_hexDigits 4 unit
  have hprefix : hexPrefix 4 (hexDigits 4 unit ++ rest) = some (unit, rest) := by
    have htake : (hexDigits 4 unit ++ rest).take 4 = hexDigits 4 unit := by
      rw [List.take_append_of_le_length (Nat.le_of_eq hlen.symm),
        List.take_of_length_le (Nat.le_of_eq hlen)]
    have hdrop : (hexDigits 4 unit ++ rest).drop 4 = rest := by
      rw [List.drop_append_of_le_length (Nat.le_of_eq hlen.symm),
        List.drop_of_length_le (Nat.le_of_eq hlen), List.nil_append]
    simp only [hexPrefix, htake, hdrop]
    rw [if_pos ⟨hlen, all_hexDigits 4 unit⟩, hexNumber_hexDigits,
      (Nat.mod_eq_of_lt h : unit % 16 ^ 4 = unit)]
  have hletter : letterEscape 'u' = none := rfl
  have hline : ('u' : Char) ≠ '\n' := by decide
  have hx : ('u' : Char) ≠ 'x' := by decide
  have hoctal : isOctalDigit 'u' = false := by decide
  simp only [escape, hletter, if_neg hline, hoctal, Bool.false_eq_true, if_false, if_neg hx,
    and_self, if_true, hprefix, Option.map_some]

/-- A part of a body that is one character or one escape, and the code points that it stands for. -/
def Denotes (part : List Char) (points : List Nat) : Prop :=
  part ≠ [] ∧ ∀ limit rest, unescapeWithin true (limit + 1) (part ++ rest) =
    (unescapeWithin true limit rest).map (points ++ ·)

private theorem denotes_plain {c : Char} (h : c ≠ '\\') : Denotes [c] [c.toNat] := by
  refine ⟨List.cons_ne_nil _ _, fun limit rest => ?_⟩
  rw [List.singleton_append, unescapeWithin, if_neg h]
  rfl

/-- A backslash begins an escape. -/
theorem denotes_escape {text : List Char} {points : List Nat}
    (h : ∀ rest, escape true (text ++ rest) = some (points, rest)) :
    Denotes ('\\' :: text) points := by
  refine ⟨List.cons_ne_nil _ _, fun limit rest => ?_⟩
  rw [List.cons_append, unescapeWithin, if_pos rfl, h rest]

private theorem denotes_letter {c : Char} {point : Nat} (h : letterEscape c = some point) :
    Denotes ['\\', c] [point] :=
  denotes_escape fun rest => by rw [List.singleton_append, escape, h]

/-- The escape of a unit stands for the unit. -/
theorem denotes_unitEscape {unit : Nat} (h : unit < 0x10000) : Denotes (unitEscape unit) [unit] :=
  denotes_escape fun rest => escape_unit h rest

/-- The ASCII form of a character is one part, or two for a character beyond U+FFFF. -/
theorem EscapedAs.denotes {c : Char} {form : List Char} (h : EscapedAs c form) :
    Denotes form (units c) ∨
      ∃ first second p q, form = first ++ second ∧ units c = p ++ q ∧ Denotes first p ∧
        Denotes second q := by
  cases h with
  | letter hnarrow _ hstands =>
    rw [units, if_pos hnarrow]
    exact Or.inl (denotes_letter hstands)
  | plain hprinted _ hslash =>
    rw [units, if_pos (Nat.lt_trans hprinted.2 (by decide))]
    exact Or.inl (denotes_plain hslash)
  | unit hnarrow =>
    rw [units, if_pos hnarrow]
    exact Or.inl (denotes_unitEscape hnarrow)
  | pair hwide =>
    have hlt := toNat_lt c
    exact Or.inr ⟨_, _, [_], [_], rfl, by rw [units, if_neg hwide]; rfl,
      denotes_unitEscape (by omega), denotes_unitEscape (by omega)⟩

/-- The ASCII form of a text stands for the units of its characters. -/
theorem unescapeWithin_flatMap_asciiEscape (text : List Char) {limit : Nat}
    (h : (text.flatMap asciiEscape).length ≤ limit) :
    unescapeWithin true limit (text.flatMap asciiEscape) = some (text.flatMap units) := by
  induction text generalizing limit with
  | nil => cases limit <;> rfl
  | cons c text ih =>
    -- a part that is read takes one from the limit, and at least one character
    have hstep : ∀ {part rest : List Char} {points : List Nat} {limit : Nat},
        Denotes part points → (part ++ rest).length ≤ limit →
        ∃ left, rest.length ≤ left ∧ unescapeWithin true limit (part ++ rest) =
          (unescapeWithin true left rest).map (points ++ ·) := by
      intro part rest points limit hd hl
      have hpos := List.length_pos_iff.mpr hd.1
      rw [List.length_append] at hl
      obtain ⟨left, rfl⟩ : ∃ left, limit = left + 1 := ⟨limit - 1, by omega⟩
      exact ⟨left, by omega, hd.2 left rest⟩
    rw [List.flatMap_cons] at h ⊢
    rw [List.flatMap_cons]
    rcases (escapedAs_asciiEscape c).denotes with hd | ⟨first, second, p, q, hf, hu, hp, hq⟩
    · obtain ⟨left, hl, he⟩ := hstep hd h
      rw [he, ih hl, Option.map_some]
    · rw [hf, List.append_assoc] at h ⊢
      obtain ⟨left, hl, he⟩ := hstep hp h
      obtain ⟨left', hl', he'⟩ := hstep hq hl
      rw [he, he', ih hl', Option.map_some, Option.map_some, hu, List.append_assoc]

/-- A literal text without letters before its quotes, with the ASCII form of a text between them,
stands for the units of the text. -/
theorem points_asciiForm (text : List Char) :
    (⟨[], text.flatMap asciiEscape⟩ : Quotation).points = some (text.flatMap units) :=
  unescapeWithin_flatMap_asciiEscape text (Nat.le_refl _)

/-- The ASCII form determines its text. -/
theorem asciiQuoted_inj {text other : String} (h : asciiQuoted text = asciiQuoted other) :
    text = other := by
  have hchars := congrArg String.toList h
  rw [asciiQuoted, asciiQuoted, String.toList_ofList, String.toList_ofList] at hchars
  have hform := List.append_cancel_right (List.cons.inj hchars).2
  have hunits := (points_asciiForm text.toList).symm.trans (hform ▸ points_asciiForm other.toList)
  exact String.toList_inj.mp (flatMap_units_inj (Option.some.inj hunits))

/-- A literal text without escapes stands for its own characters. -/
theorem points_plain {text : List Char} (h : ∀ c ∈ text, c ≠ '\\') :
    (⟨[], text⟩ : Quotation).points = some (text.map Char.toNat) := by
  change unescapeWithin true text.length text = some (text.map Char.toNat)
  induction text with
  | nil => rfl
  | cons c text ih =>
    have hstep := (denotes_plain (h c List.mem_cons_self)).2 text.length text
    rw [List.singleton_append] at hstep
    rw [List.length_cons, hstep, ih fun d hd => h d (List.mem_cons_of_mem _ hd)]
    rfl

/-- The ASCII form of a text holds printed characters only. -/
theorem isPlain_of_mem_asciiEscape {c d : Char} (h : d ∈ asciiEscape c) : IsPlain d := by
  have hslash : IsPlain '\\' := ⟨by decide, by decide⟩
  have hunit : ∀ unit, ∀ d ∈ unitEscape unit, IsPlain d := by
    intro unit
    refine List.forall_mem_cons.mpr ⟨hslash, List.forall_mem_cons.mpr
      ⟨⟨by decide, by decide⟩, fun d hd => ?_⟩⟩
    obtain ⟨digit, hlt, rfl⟩ := exists_of_mem_hexDigits hd
    exact (isPlain_hexChar hlt).1
  have hform := escapedAs_asciiEscape c
  generalize asciiEscape c = form at h hform
  cases hform with
  | letter _ hletter _ =>
    rcases List.mem_cons.mp h with rfl | h
    · exact hslash
    · exact List.mem_singleton.mp h ▸ isPlain_of_mem_escapeLetters _ hletter
  | plain hprinted => exact List.mem_singleton.mp h ▸ hprinted
  | unit => exact hunit _ d h
  | pair => exact (List.mem_append.mp h).elim (hunit _ d) (hunit _ d)

end KeyedAccess.Script
