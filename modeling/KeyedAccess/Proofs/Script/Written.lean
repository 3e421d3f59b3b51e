import KeyedAccess.Proofs.Script.Literal
import KeyedAccess.Proofs.Text.Identifier
import KeyedAccess.Text.Width

/-!
# Written lines

A line of a class source is written by its lexemes, with a blank or nothing between them, behind an
indentation by blanks. Where no lexeme runs into the next one, the lexer cuts the line into the
same lexemes again; the indentation opens and closes blocks as it stands to the open ones.
-/

namespace KeyedAccess.Script

open Text

/-- What a token is written as. -/
inductive Lexeme where
  /-- An identifier. -/
  | name (text : List Char)
  /-- A reserved word. -/
  | word (text : String)
  /-- An operator or a bracket. -/
  | op (text : String)
  /-- A literal text between double quotes. -/
  | quotation (body : List Char)
  /-- A literal text between tripled double quotes. -/
  | remark (body : List Char)

/-- How a lexeme is written. -/
def Lexeme.chars : Lexeme → List Char
  | .name text => text
  | .word text | .op text => text.toList
  | .quotation body => '"' :: (body ++ ['"'])
  | .remark body => '"' :: '"' :: '"' :: (body ++ ['"', '"', '"'])

@[simp] theorem Lexeme.chars_name (text : List Char) : (Lexeme.name text).chars = text := rfl

@[simp] theorem Lexeme.chars_word (text : String) : (Lexeme.word text).chars = text.toList := rfl

@[simp] theorem Lexeme.chars_op (text : String) : (Lexeme.op text).chars = text.toList := rfl

@[simp] theorem Lexeme.chars_quotation (body : List Char) :
    (Lexeme.quotation body).chars = '"' :: (body ++ ['"']) := rfl

@[simp] theorem Lexeme.chars_remark (body : List Char) :
    (Lexeme.remark body).chars = '"' :: '"' :: '"' :: (body ++ ['"', '"', '"']) := rfl

/-- The token of a lexeme. -/
def Lexeme.token : Lexeme → Token
  | .name text => .name text
  | .word text => .word text
  | .op text => .op text
  | .quotation body | .remark body => .quotation ⟨[], body⟩

/-- A character that stands for itself in every text: no NUL, and no carriage return, which line
ends in one form do not keep. -/
def IsKept (c : Char) : Prop := c.toNat ≠ 0 ∧ c ≠ '\r'

instance (c : Char) : Decidable (IsKept c) := by
  unfold IsKept
  infer_instance

/-- A lexeme that is what it says. -/
def Lexeme.Sound : Lexeme → Prop
  | .name text => isIdentifier text = true ∧ String.ofList text ∉ reservedWords
  | .word text => text ∈ reservedWords
  | .op text => text ∈ operators
  | .quotation body => Enclosed '"' body ∧ ∀ c ∈ body, IsKept c
  | .remark body => ∀ c ∈ body, c ≠ '"' ∧ c ≠ '\\' ∧ IsKept c

/-- The characters that go on with some operator. -/
def operatorTails : List Char := operators.flatMap fun op => op.toList.tail

/-- A lexeme ends where another character follows: no longer one begins with it and that
character. -/
def Lexeme.EndsBefore : Lexeme → Char → Prop
  | .name _, next | .word _, next => isWordChar next = false ∧ isQuote next = false
  | .op _, next => next ∉ operatorTails ∧ isDecimalDigit next = false
  | .quotation _, next => next ≠ '"'
  | .remark _, _ => True

instance (l : Lexeme) (next : Char) : Decidable (l.EndsBefore next) := by
  cases l <;> unfold Lexeme.EndsBefore <;> infer_instance

/-- The brackets that are open behind a lexeme. -/
def Lexeme.brackets (opened : List Char) : Lexeme → Option (List Char)
  | .op text => bracketsAfter opened text
  | _ => some opened

/-- A lexeme with a blank in front of it, or without one. -/
structure Part where
  /-- Whether a blank stands in front of it. -/
  apart : Bool
  /-- The lexeme. -/
  lexeme : Lexeme

/-- How a part is written. -/
def Part.chars (p : Part) : List Char := (if p.apart then [' '] else []) ++ p.lexeme.chars

/-- How the parts of a line are written. -/
def spell (parts : List Part) : List Char := parts.flatMap Part.chars

/-- The first character of the parts of a line and of its end. -/
def headOf (parts : List Part) : Char := (spell parts).headD '\n'

/-- Every part of a line ends before the next one. -/
def Fits : List Part → Prop
  | [] => True
  | p :: rest => p.lexeme.Sound ∧ p.lexeme.EndsBefore (headOf rest) ∧ Fits rest

/-- Whether the parts of a line without literal texts end before one another. -/
def fitsCheck : List Part → Bool
  | [] => true
  | p :: rest =>
    (match p.lexeme with
      | .name text => isIdentifier text && !reservedWords.contains (String.ofList text)
      | .word text => reservedWords.contains text
      | .op text => operators.contains text
      | .quotation _ | .remark _ => false) &&
      decide (p.lexeme.EndsBefore (headOf rest)) && fitsCheck rest

/-- The check of a line is right. -/
theorem fits_of_check {parts : List Part} (h : fitsCheck parts = true) : Fits parts := by
  induction parts with
  | nil => trivial
  | cons p parts ih =>
    rw [fitsCheck, Bool.and_eq_true, Bool.and_eq_true] at h
    obtain ⟨⟨hs, he⟩, hr⟩ := h
    refine ⟨?_, of_decide_eq_true he, ih hr⟩
    obtain ⟨apart, l⟩ := p
    cases l with
    | name text => simpa [Lexeme.Sound] using hs
    | word text => exact List.contains_iff_mem.mp hs
    | op text => exact List.contains_iff_mem.mp hs
    | quotation body => cases hs
    | remark body => cases hs

/-- The brackets that are open behind the parts of a line. -/
def bracketsThrough (opened : List Char) : List Part → Option (List Char)
  | [] => some opened
  | p :: rest => (p.lexeme.brackets opened).bind fun next => bracketsThrough next rest

/-- A token that is cut off within a line leads on. -/
theorem tokensFrom_of_scanToken {blocks : List (Nat × Nat)} {brackets : List Char} {next : Layout}
    {text rest : List Char} {tokens : List Token}
    (h : scanToken ⟨blocks, brackets, false⟩ text = .go tokens next rest)
    (hlt : rest.length < text.length) :
    tokensFrom ⟨blocks, brackets, false⟩ text = tokens ++ tokensFrom next rest := by
  rw [tokensFrom, if_neg Bool.false_ne_true, h]
  exact dif_pos (Or.inl hlt)

/-- The beginning of a line leads on. -/
theorem tokensFrom_of_scanLineStart {blocks : List (Nat × Nat)} {brackets : List Char}
    {next : Layout} {text rest : List Char} {tokens : List Token}
    (h : scanLineStart ⟨blocks, brackets, true⟩ text = .go tokens next rest)
    (hlt : rest.length < text.length ∨ rest.length = text.length ∧ next.atLineStart = false) :
    tokensFrom ⟨blocks, brackets, true⟩ text = tokens ++ tokensFrom next rest := by
  rw [tokensFrom, if_pos rfl, h]
  exact dif_pos (hlt.imp_right fun hle => ⟨hle.1, rfl, hle.2⟩)

/-- What begins a lexeme neither is a blank nor begins a comment or ends or joins lines. -/
def BeginsLexeme (c : Char) : Prop := isLineBlank c = false ∧ c ≠ '#' ∧ c ≠ '\n' ∧ c ≠ '\\'

instance (c : Char) : Decidable (BeginsLexeme c) := by
  unfold BeginsLexeme
  infer_instance

/-- A character of a word begins a lexeme. -/
theorem beginsLexeme_of_isWordChar {c : Char} (h : isWordChar c = true) : BeginsLexeme c := by
  refine ⟨Bool.eq_false_iff.mpr fun hb => ?_, ?_, ?_, ?_⟩
  · simp only [isLineBlank, Bool.or_eq_true, beq_iff_eq] at hb
    rcases hb with (rfl | rfl) | hb
    · exact absurd h (by decide)
    · exact absurd h (by decide)
    · obtain rfl : c = '\x0c' := Char.ext (UInt32.toNat_inj.mp hb)
      exact absurd h (by decide)
  · rintro rfl
    exact absurd h (by decide)
  · rintro rfl
    exact absurd h (by decide)
  · rintro rfl
    exact absurd h (by decide)

/-- An identifier begins with a character of a word that is no digit. -/
theorem exists_of_isIdentifier {text : List Char} (h : isIdentifier text = true) :
    ∃ c rest, text = c :: rest ∧ isWordChar c = true ∧ isDecimalDigit c = false ∧
      isQuote c = false := by
  cases text with
  | nil => cases h
  | cons c rest =>
    have hc : isWordChar c = true :=
      isWordChar_of_isIdentifierChar (isIdentifierChar_of_mem h List.mem_cons_self)
    refine ⟨c, rest, rfl, hc, ?_, ?_⟩
    · rw [isIdentifier, Bool.and_eq_true, isIdentifierStart] at h
      refine Bool.eq_false_iff.mpr fun hd => ?_
      simp only [isDecimalDigit, Bool.and_eq_true, decide_eq_true_eq] at hd
      have hlow : 48 ≤ c.toNat := UInt32.le_iff_toNat_le.mp hd.1
      have hhigh : c.toNat ≤ 57 := UInt32.le_iff_toNat_le.mp hd.2
      rw [if_pos (by omega)] at h
      simp only [isAsciiNameStart, Bool.or_eq_true, isAlpha_iff, beq_iff_eq] at h
      rcases h.1 with hletter | rfl
      · omega
      · exact absurd hhigh (by decide)
    · refine Bool.eq_false_iff.mpr fun hq => ?_
      simp only [isQuote, Bool.or_eq_true, beq_iff_eq] at hq
      rcases hq with rfl | rfl
      · exact absurd hc (by decide)
      · exact absurd hc (by decide)

/-- A reserved word is written like an identifier. -/
theorem isIdentifier_of_reserved {text : String} (h : text ∈ reservedWords) :
    isIdentifier text.toList = true := by
  have hall : ∀ word ∈ reservedWords, isIdentifier word.toList = true := by decide
  exact hall text h

/-- The first sign of an operator begins no other lexeme, and no digit stands behind it. -/
theorem exists_of_mem_operators {op : String} (h : op ∈ operators) :
    ∃ c rest, op.toList = c :: rest ∧ BeginsLexeme c ∧ isDecimalDigit c = false ∧
      isQuote c = false ∧ isWordChar c = false ∧ rest.head?.any isDecimalDigit = false := by
  have hall : ∀ op ∈ operators, op.toList ≠ [] ∧ (∀ c ∈ op.toList.head?, BeginsLexeme c ∧
      isDecimalDigit c = false ∧ isQuote c = false ∧ isWordChar c = false) ∧
      op.toList.tail.head?.any isDecimalDigit = false := by decide
  obtain ⟨hne, hhead, htail⟩ := hall op h
  obtain ⟨c, rest, he⟩ := List.exists_cons_of_ne_nil hne
  rw [he] at hhead htail
  obtain ⟨hc, hdigit, hquote, hword⟩ := hhead c rfl
  exact ⟨c, rest, he, hc, hdigit, hquote, hword, htail⟩

/-- A sound lexeme begins with what begins one. -/
theorem Lexeme.Sound.head {l : Lexeme} (h : l.Sound) :
    ∃ c rest, l.chars = c :: rest ∧ BeginsLexeme c := by
  have hword : ∀ text, isIdentifier text = true →
      ∃ c rest, text = c :: rest ∧ BeginsLexeme c := by
    intro text ht
    obtain ⟨c, rest, he, hc, -⟩ := exists_of_isIdentifier ht
    exact ⟨c, rest, he, beginsLexeme_of_isWordChar hc⟩
  cases l with
  | name text => exact hword text h.1
  | word text => exact hword text.toList (isIdentifier_of_reserved h)
  | op text =>
    obtain ⟨c, rest, he, hc, -⟩ := exists_of_mem_operators h
    exact ⟨c, rest, he, hc⟩
  | quotation body => exact ⟨'"', _, rfl, by decide⟩
  | remark body => exact ⟨'"', _, rfl, by decide⟩

/-- The lexeme that is written like an identifier. -/
def Lexeme.ofName (name : String) : Lexeme :=
  if name ∈ reservedWords then .word name else .name name.toList

/-- An identifier that is not reserved is a name. -/
theorem Lexeme.ofName_of_not_mem {name : String} (h : name ∉ reservedWords) :
    ofName name = .name name.toList := if_neg h

/-- It is a reserved word or a name. -/
theorem Lexeme.ofName_eq (name : String) :
    ofName name = .word name ∨ ofName name = .name name.toList := by
  rw [ofName]
  split
  · exact Or.inl rfl
  · exact Or.inr rfl

/-- It is written as the identifier. -/
@[simp] theorem Lexeme.chars_ofName (name : String) : (ofName name).chars = name.toList := by
  rw [ofName]
  split <;> rfl

/-- An identifier is a sound lexeme. -/
theorem Lexeme.sound_ofName {name : String} (h : isIdentifier name.toList = true) :
    (ofName name).Sound := by
  rw [ofName]
  split
  · next hr => exact hr
  · next hr => exact ⟨h, by rw [String.ofList_toList]; exact hr⟩

/-- An identifier ends before what goes on with no word. -/
theorem Lexeme.endsBefore_ofName (name : String) {next : Char}
    (h : isWordChar next = false ∧ isQuote next = false) : (ofName name).EndsBefore next := by
  rw [ofName]
  split
  · exact h
  · exact h

/-- An operator ends before an identifier. -/
theorem endsBefore_name (op : String) {l : Lexeme} (hl : isIdentifier l.chars = true)
    (parts : List Part) : (Lexeme.op op).EndsBefore (headOf (⟨false, l⟩ :: parts)) := by
  obtain ⟨c, rest, he, hc, hd, -⟩ := exists_of_isIdentifier hl
  have hhead : headOf (⟨false, l⟩ :: parts) = c := by
    rw [headOf, spell, List.flatMap_cons, Part.chars, he]
    rfl
  rw [hhead]
  have hall : ∀ d ∈ operatorTails, isWordChar d = false := by decide
  refine ⟨fun hm => ?_, hd⟩
  have hw : isWordChar c = false := hall c hm
  rw [hc] at hw
  cases hw

private theorem dropWhile_gap {gap : List Char} (hg : ∀ c ∈ gap, isLineBlank c = true) {c : Char}
    (hc : BeginsLexeme c) (behind : List Char) :
    (gap ++ c :: behind).dropWhile isLineBlank = c :: behind := by
  rw [List.dropWhile_append_of_pos hg, List.dropWhile_cons_of_neg (by simp [hc.1])]

private theorem scanToken_of_head {s : Layout} {text rest : List Char} {c : Char}
    (h : text.dropWhile isLineBlank = c :: rest) (hc : BeginsLexeme c) :
    scanToken s text =
      if isDecimalDigit c || (c == '.' && rest.head?.any isDecimalDigit) then
        match numberLexeme (c :: rest) with
        | some (value, behind) => .go [.number value] s behind
        | none => .stop [.fault .characters]
      else if isQuote c then scanQuotation s [] (c :: rest)
      else if isWordChar c then scanWord s (c :: rest)
      else scanOperator s (c :: rest) := by
  obtain ⟨-, hhash, hline, hslash⟩ := hc
  rw [scanToken, h]
  split
  · next he => cases he
  · next he => exact absurd (List.cons.inj he).1 hhash
  · next he => exact absurd (List.cons.inj he).1 hline
  · next he => exact absurd (List.cons.inj he).1 hslash
  · next he => exact absurd (List.cons.inj he).1 hslash
  · next he =>
    cases he
    rfl

private theorem scanWord_eq {s : Layout} {text : List Char} (ht : isIdentifier text = true)
    {next : Char} (hn : isWordChar next = false ∧ isQuote next = false) (rest : List Char) :
    scanWord s (text ++ next :: rest) =
      if reservedWords.contains (String.ofList text) then
        .go [.word (String.ofList text)] s (next :: rest)
      else .go [.name text] s (next :: rest) := by
  have hall : ∀ c ∈ text, isWordChar c = true := fun c hc =>
    isWordChar_of_isIdentifierChar (isIdentifierChar_of_mem ht hc)
  have htake : (text ++ next :: rest).takeWhile isWordChar = text := by
    rw [List.takeWhile_append_of_pos hall, List.takeWhile_cons_of_neg (by simp [hn.1]),
      List.append_nil]
  have hdrop : (text ++ next :: rest).dropWhile isWordChar = next :: rest := by
    rw [List.dropWhile_append_of_pos hall, List.dropWhile_cons_of_neg (by simp [hn.1])]
  simp only [scanWord, htake, hdrop, List.head?_cons, Option.any_some, hn.2, Bool.false_and,
    Bool.false_eq_true, if_false, ht, if_true]

/-- A word begins neither a number nor a literal text. -/
theorem scanToken_word {s : Layout} {gap text : List Char} (hg : ∀ c ∈ gap, isLineBlank c = true)
    (ht : isIdentifier text = true) (behind : List Char) :
    scanToken s (gap ++ (text ++ behind)) = scanWord s (text ++ behind) := by
  obtain ⟨c, rest, rfl, hc, hd, hq⟩ := exists_of_isIdentifier ht
  have hb := beginsLexeme_of_isWordChar hc
  have hdot : (c == '.') = false := by
    rw [beq_eq_false_iff_ne]
    rintro rfl
    exact absurd hc (by decide)
  rw [List.cons_append, scanToken_of_head (dropWhile_gap hg hb _) hb, hd, hdot, Bool.false_or,
    Bool.false_and, if_neg Bool.false_ne_true, hq, if_neg Bool.false_ne_true, if_pos hc]

private theorem isPrefixOf_append_cons {op text : List Char} {next : Char} (hn : next ∉ op.tail)
    (ht : text ≠ []) (rest : List Char) :
    op.isPrefixOf (text ++ next :: rest) = op.isPrefixOf text := by
  have hgo : ∀ (op text : List Char), next ∉ op →
      op.isPrefixOf (text ++ next :: rest) = op.isPrefixOf text := by
    intro op
    induction op with
    | nil => exact fun text _ => by simp
    | cons o op ih =>
      intro text ho
      cases text with
      | nil =>
        have hne : (o == next) = false :=
          beq_eq_false_iff_ne.mpr fun he => ho (he ▸ List.mem_cons_self)
        rw [List.nil_append, List.isPrefixOf_cons_cons, hne, Bool.false_and]
        rfl
      | cons c text =>
        rw [List.cons_append, List.isPrefixOf_cons_cons, List.isPrefixOf_cons_cons,
          ih text fun hm => ho (List.mem_cons_of_mem _ hm)]
  obtain ⟨c, text, rfl⟩ := List.exists_cons_of_ne_nil ht
  cases op with
  | nil => simp
  | cons o op =>
    rw [List.cons_append, List.isPrefixOf_cons_cons, List.isPrefixOf_cons_cons, hgo op text hn]

private theorem find?_operators {op : String} (ho : op ∈ operators) {next : Char}
    (hn : next ∉ operatorTails) (rest : List Char) :
    operators.find? (fun o => o.toList.isPrefixOf (op.toList ++ next :: rest)) = some op := by
  have hfind : ∀ op ∈ operators, op.toList ≠ [] ∧
      operators.find? (fun o => o.toList.isPrefixOf op.toList) = some op := by decide
  obtain ⟨hne, hf⟩ := hfind op ho
  rw [← hf]
  have hcongr : ∀ l : List String, (∀ o ∈ l, next ∉ o.toList.tail) →
      l.find? (fun o => o.toList.isPrefixOf (op.toList ++ next :: rest)) =
        l.find? (fun o => o.toList.isPrefixOf op.toList) := by
    intro l
    induction l with
    | nil => exact fun _ => rfl
    | cons o l ih =>
      intro hl
      rw [List.find?_cons, List.find?_cons,
        isPrefixOf_append_cons (hl o List.mem_cons_self) hne,
        ih fun o ho => hl o (List.mem_cons_of_mem _ ho)]
  exact hcongr operators fun o ho hm => hn (List.mem_flatMap.mpr ⟨o, ho, hm⟩)

private theorem quotedBody_tripled {body : List Char}
    (h : ∀ c ∈ body, c ≠ '"' ∧ c ≠ '\\' ∧ IsKept c)
    (rest : List Char) :
    quotedBody '"' true (body ++ '"' :: '"' :: '"' :: rest) = some (body, rest) := by
  induction body with
  | nil => rfl
  | cons c body ih =>
    obtain ⟨hq, hb, -⟩ := h c List.mem_cons_self
    have hrest := ih fun d hd => h d (List.mem_cons_of_mem _ hd)
    rw [List.cons_append, quotedBody_cons hq hb fun _ => rfl, hrest]
    rfl

/-- An operator is cut off where no character behind it makes another one of it. -/
theorem scanToken_operator {s : Layout} {op : String} (ho : op ∈ operators) {next : Char}
    (hn : next ∉ operatorTails ∧ isDecimalDigit next = false) {brackets : List Char}
    (hb : bracketsAfter s.brackets op = some brackets) {gap : List Char}
    (hg : ∀ c ∈ gap, isLineBlank c = true) (rest : List Char) :
    scanToken s (gap ++ (op.toList ++ next :: rest)) =
      .go [.op op] { s with brackets := brackets } (next :: rest) := by
  obtain ⟨c, behind, he, hc, hdigit, hquote, hword, htail⟩ := exists_of_mem_operators ho
  have hnumber : (behind ++ next :: rest).head?.any isDecimalDigit = false := by
    cases behind with
    | nil => exact hn.2
    | cons d more => exact htail
  have hfind := find?_operators ho hn.1 rest
  have hlength : (op.toList ++ next :: rest).drop op.length = next :: rest := by
    rw [← String.length_toList, List.drop_left]
  rw [he, List.cons_append] at hfind hlength
  rw [he, List.cons_append, scanToken_of_head (dropWhile_gap hg hc _) hc, hdigit, hnumber,
    Bool.and_false, Bool.or_false, if_neg Bool.false_ne_true, hquote, if_neg Bool.false_ne_true,
    hword, if_neg Bool.false_ne_true]
  simp only [scanOperator, hfind, hb, hlength]

/-- A literal text is cut off at its last quote. -/
theorem scanToken_quotation {s : Layout} {body : List Char} (hbody : Enclosed '"' body)
    {next : Char} (hn : next ≠ '"') {gap : List Char} (hg : ∀ c ∈ gap, isLineBlank c = true)
    (rest : List Char) :
    scanToken s (gap ++ '"' :: (body ++ '"' :: next :: rest)) =
      .go [(Lexeme.quotation body).token] s (next :: rest) := by
  have htriple : ((body ++ '"' :: next :: rest).take 2 == ['"', '"']) = false := by
    cases hbody with
    | nil => simp [hn]
    | plain hq hb hn h => simp [hq]
    | escaped c h => simp
  rw [scanToken_of_head (dropWhile_gap hg (by decide) _) (by decide)]
  simp only [scanQuotation, htriple, Bool.false_eq_true, if_false,
    quotedBody_enclosed (by decide : ('"' : Char) ≠ '\\') hbody]
  rfl

/-- A remark is cut off at its last quote. -/
theorem scanToken_remark {s : Layout} {body : List Char}
    (hbody : ∀ c ∈ body, c ≠ '"' ∧ c ≠ '\\' ∧ IsKept c) {gap : List Char}
    (hg : ∀ c ∈ gap, isLineBlank c = true) (rest : List Char) :
    scanToken s (gap ++ '"' :: '"' :: '"' :: (body ++ '"' :: '"' :: '"' :: rest)) =
      .go [(Lexeme.remark body).token] s rest := by
  rw [scanToken_of_head (dropWhile_gap hg (by decide) _) (by decide)]
  simp only [scanQuotation, List.take_succ_cons, List.take_zero, BEq.rfl, if_true,
    List.drop_succ_cons, List.drop_zero, quotedBody_tripled hbody rest]
  rfl

/-- A lexeme is cut off behind blanks and in front of what does not go on with it. -/
theorem scanToken_lexeme {s : Layout} {l : Lexeme} (hl : l.Sound) {next : Char}
    (hn : l.EndsBefore next) {brackets : List Char} (hb : l.brackets s.brackets = some brackets)
    {gap : List Char} (hg : ∀ c ∈ gap, isLineBlank c = true) (rest : List Char) :
    scanToken s (gap ++ (l.chars ++ next :: rest)) =
      .go [l.token] { s with brackets := brackets } (next :: rest) := by
  cases l with
  | name text =>
    cases hb
    have hr : reservedWords.contains (String.ofList text) = false := by
      rw [List.contains_eq_mem, decide_eq_false_iff_not]
      exact hl.2
    rw [Lexeme.chars, scanToken_word hg hl.1, scanWord_eq hl.1 hn, hr, if_neg Bool.false_ne_true]
    rfl
  | word text =>
    cases hb
    have ht := isIdentifier_of_reserved hl
    have hr : reservedWords.contains text = true := List.contains_iff_mem.mpr hl
    rw [Lexeme.chars, scanToken_word hg ht, scanWord_eq ht hn, String.ofList_toList, hr,
      if_pos rfl]
    rfl
  | op text => exact scanToken_operator hl hn hb hg rest
  | quotation body =>
    cases hb
    have he : (Lexeme.quotation body).chars ++ next :: rest =
        '"' :: (body ++ '"' :: next :: rest) := by
      simp [Lexeme.chars]
    rw [he]
    exact scanToken_quotation hl.1 hn hg rest
  | remark body =>
    cases hb
    have he : (Lexeme.remark body).chars ++ next :: rest =
        '"' :: '"' :: '"' :: (body ++ '"' :: '"' :: '"' :: next :: rest) := by
      simp [Lexeme.chars]
    rw [he]
    exact scanToken_remark hl hg (next :: rest)

/-- The parts of a line are cut off one after the other, up to the end of the line. -/
theorem tokensFrom_spell {blocks : List (Nat × Nat)} {brackets after : List Char}
    {parts : List Part} (hf : Fits parts) (hb : bracketsThrough brackets parts = some after)
    (rest : List Char) :
    tokensFrom ⟨blocks, brackets, false⟩ (spell parts ++ '\n' :: rest) =
      parts.map (·.lexeme.token) ++ tokensFrom ⟨blocks, after, false⟩ ('\n' :: rest) := by
  induction parts generalizing brackets with
  | nil =>
    cases hb
    rfl
  | cons p parts ih =>
    obtain ⟨hs, he, hrest⟩ := hf
    obtain ⟨next, hp, hthrough⟩ := Option.bind_eq_some_iff.mp hb
    -- the text behind the part begins with the first character of the next part
    have hhead : ∃ behind, spell parts ++ '\n' :: rest = headOf parts :: behind := by
      rw [headOf]
      cases spell parts with
      | nil => exact ⟨rest, rfl⟩
      | cons c more => exact ⟨more ++ '\n' :: rest, rfl⟩
    obtain ⟨behind, hbehind⟩ := hhead
    have hgap : ∀ c ∈ (if p.apart then [' '] else []), isLineBlank c = true := by
      intro c hc
      split at hc
      · obtain rfl := List.mem_singleton.mp hc
        rfl
      · cases hc
    have htext : spell (p :: parts) ++ '\n' :: rest = (if p.apart then [' '] else []) ++
        (p.lexeme.chars ++ headOf parts :: behind) := by
      rw [spell, List.flatMap_cons, ← spell, Part.chars, List.append_assoc, List.append_assoc,
        hbehind]
    obtain ⟨c, more, hc, -⟩ := hs.head
    have hscan : scanToken ⟨blocks, brackets, false⟩ _ = .go [p.lexeme.token]
        ⟨blocks, next, false⟩ _ := scanToken_lexeme hs he hp hgap behind
    rw [htext, tokensFrom_of_scanToken hscan ?_, ← hbehind, ih hrest hthrough]
    · rfl
    · simp only [List.length_append, hc, List.length_cons]
      omega

/-- The blanks in front of a line are its columns. -/
theorem indentation_replicate (count : Nat) {c : Char} (hc : BeginsLexeme c) (rest : List Char)
    (columns : Nat) :
    indentation columns columns 0 (List.replicate count ' ' ++ c :: rest) =
      some ((columns + count, columns + count), c :: rest) := by
  induction count generalizing columns with
  | zero =>
    obtain ⟨hb, -, -, hs⟩ := hc
    simp only [isLineBlank, Bool.or_eq_false_iff, beq_eq_false_iff_ne] at hb
    obtain ⟨⟨hspace, htab⟩, hfeed⟩ := hb
    rw [List.replicate_zero, List.nil_append, indentation.eq_def]
    split
    · next he => exact absurd (List.cons.inj he).1 hspace
    · next he => exact absurd (List.cons.inj he).1 htab
    · next he =>
      rw [(List.cons.inj he).1] at hfeed
      exact absurd rfl hfeed
    · next he => exact absurd (List.cons.inj he).1 hs
    · next he => exact absurd (List.cons.inj he).1 hs
    · rfl
  | succ count ih =>
    rw [List.replicate_succ, List.cons_append, indentation, ih, Nat.add_right_comm, Nat.add_assoc]

/-- A line of a class source. -/
structure Line where
  /-- The number of blanks in front of it. -/
  indent : Nat
  /-- Its first lexeme. -/
  first : Lexeme
  /-- The other ones. -/
  others : List Part

/-- The parts of a line. -/
def Line.parts (l : Line) : List Part := ⟨false, l.first⟩ :: l.others

/-- How a line is written. -/
def Line.chars (l : Line) : List Char := List.replicate l.indent ' ' ++ spell l.parts ++ ['\n']

/-- The tokens of a line. -/
def Line.tokens (l : Line) : List Token := l.parts.map (·.lexeme.token) ++ [.newline]

/-- A line whose lexemes do not run into one another and whose brackets are closed. -/
structure Line.Sound (l : Line) : Prop where
  /-- The lexemes do not run into one another. -/
  fits : Fits l.parts
  /-- All brackets are closed. -/
  closed : bracketsThrough [] l.parts = some []

/-- A text of whole lines that is cut into tokens, from some open blocks to others. -/
structure CutInto (blocks : List (Nat × Nat)) (text : List Char) (tokens : List Token)
    (after : List (Nat × Nat)) : Prop where
  /-- The characters stand for themselves. -/
  kept : ∀ c ∈ text, IsKept c
  /-- The last line is complete. -/
  complete : text.getLast? = some '\n'
  /-- The tokens are cut off. -/
  cut : ∀ rest, tokensFrom ⟨blocks, [], true⟩ (text ++ rest) =
    tokens ++ tokensFrom ⟨after, [], true⟩ rest

/-- Texts that are cut into tokens are so one behind the other. -/
theorem CutInto.append {blocks between after : List (Nat × Nat)} {text more : List Char}
    {tokens others : List Token} (h : CutInto blocks text tokens between)
    (hm : CutInto between more others after) :
    CutInto blocks (text ++ more) (tokens ++ others) after where
  kept c hc := (List.mem_append.mp hc).elim (h.kept c) (hm.kept c)
  complete := by rw [List.getLast?_append, hm.complete, Option.some_or]
  cut rest := by rw [List.append_assoc, h.cut, hm.cut, List.append_assoc]

/-- The characters of identifiers stand for themselves. -/
theorem isKept_of_isIdentifierChar {c : Char} (h : IsIdentifierChar c) : IsKept c := by
  have hw := isWordChar_of_isIdentifierChar h
  refine ⟨fun hz => ?_, ?_⟩
  · obtain rfl : c = '\x00' := Char.ext (UInt32.toNat_inj.mp hz)
    exact absurd hw (by decide)
  · rintro rfl
    exact absurd hw (by decide)

/-- The characters of a sound lexeme stand for themselves. -/
theorem Lexeme.Sound.kept {l : Lexeme} (h : l.Sound) : ∀ c ∈ l.chars, IsKept c := by
  cases l with
  | name text => exact fun c hc => isKept_of_isIdentifierChar (isIdentifierChar_of_mem h.1 hc)
  | word text =>
    exact fun c hc =>
      isKept_of_isIdentifierChar (isIdentifierChar_of_mem (isIdentifier_of_reserved h) hc)
  | op text =>
    have hall : ∀ op ∈ operators, ∀ c ∈ op.toList, IsKept c := by decide
    exact hall text h
  | quotation body =>
    intro c hc
    simp only [Lexeme.chars, List.mem_cons, List.mem_append, List.not_mem_nil, or_false] at hc
    rcases hc with rfl | hc | rfl
    · decide
    · exact h.2 c hc
    · decide
  | remark body =>
    intro c hc
    simp only [Lexeme.chars, List.mem_cons, List.mem_append, List.not_mem_nil, or_false] at hc
    rcases hc with rfl | rfl | rfl | hc | rfl | rfl | rfl
    · decide
    · decide
    · decide
    · exact (h c hc).2.2
    · decide
    · decide
    · decide

/-- The characters of a line stand for themselves. -/
theorem Fits.kept {parts : List Part} (h : Fits parts) : ∀ c ∈ spell parts, IsKept c := by
  induction parts with
  | nil => exact fun c hc => absurd hc List.not_mem_nil
  | cons p parts ih =>
    intro c hc
    rcases List.mem_append.mp hc with hc | hc
    · rcases List.mem_append.mp hc with hc | hc
      · split at hc
        · obtain rfl := List.mem_singleton.mp hc
          decide
        · cases hc
      · exact h.1.kept c hc
    · exact ih h.2.2 c hc

/-- A line is cut into its tokens, behind those that its indentation opens and closes blocks by. -/
theorem Line.Sound.cutInto {l : Line} (h : l.Sound) {blocks after : List (Nat × Nat)}
    {opening : List Token} (hp : placeLine (l.indent, l.indent) blocks = .ok (opening, after)) :
    CutInto blocks l.chars (opening ++ l.tokens) after := by
  refine ⟨fun c hc => ?_, by rw [Line.chars, List.getLast?_append]; rfl, fun rest => ?_⟩
  · simp only [Line.chars, List.mem_append, List.mem_replicate, List.mem_singleton] at hc
    rcases hc with (hc | hc) | rfl
    · rw [hc.2]
      decide
    · exact h.fits.kept c hc
    · decide
  obtain ⟨c, more, hc, hb⟩ := h.fits.1.head
  have hspell : ∃ behind, spell l.parts ++ '\n' :: rest = c :: behind := by
    refine ⟨more ++ spell l.others ++ '\n' :: rest, ?_⟩
    rw [Line.parts, spell, List.flatMap_cons, ← spell, Part.chars, hc]
    rfl
  obtain ⟨behind, hs⟩ := hspell
  have htext : l.chars ++ rest = List.replicate l.indent ' ' ++ c :: behind := by
    rw [Line.chars, List.append_assoc, List.append_assoc, List.singleton_append, hs]
  have hi := indentation_replicate l.indent hb behind 0
  rw [Nat.zero_add] at hi
  have hscan : scanLineStart ⟨blocks, [], true⟩ (l.chars ++ rest) =
      .go opening ⟨after, [], false⟩ (c :: behind) := by
    have hhash : (c :: behind).head? ≠ some '#' := fun he => hb.2.1 (Option.some.inj he)
    rw [scanLineStart, htext, hi]
    simp only [if_neg hhash]
    split
    · next he => cases he
    · next he => exact absurd (List.cons.inj he).1 hb.2.2.1
    · rw [hp]
      rfl
  have hend : scanToken ⟨after, [], false⟩ ('\n' :: rest) =
      .go [.newline] ⟨after, [], true⟩ rest := rfl
  rw [tokensFrom_of_scanLineStart hscan ?_, ← hs, tokensFrom_spell h.fits h.closed,
    tokensFrom_of_scanToken hend (by simp), Line.tokens, List.append_assoc, List.append_assoc]
  · rw [htext, List.length_append, List.length_replicate]
    by_cases hz : l.indent = 0
    · exact Or.inr ⟨by rw [hz, Nat.zero_add], rfl⟩
    · exact Or.inl (by omega)

/-- A line without a token changes nothing. -/
theorem cutInto_emptyLine (blocks : List (Nat × Nat)) : CutInto blocks ['\n'] [] blocks := by
  refine ⟨by decide, rfl, fun rest => ?_⟩
  have hscan : scanLineStart ⟨blocks, [], true⟩ ('\n' :: rest) =
      .go [] ⟨blocks, [], true⟩ rest := rfl
  exact tokensFrom_of_scanLineStart hscan (Or.inl (by simp))

/-- A comment at the beginning of a line changes nothing. -/
theorem cutInto_comment (blocks : List (Nat × Nat)) {text : List Char}
    (h : ∀ c ∈ text, c ≠ '\n' ∧ IsKept c) :
    CutInto blocks ('#' :: (text ++ ['\n'])) [] blocks := by
  refine ⟨fun c hc => ?_, by rw [← List.cons_append, List.getLast?_append]; rfl, fun rest => ?_⟩
  · simp only [List.mem_cons, List.mem_append, List.not_mem_nil, or_false] at hc
    rcases hc with rfl | hc | rfl
    · decide
    · exact (h c hc).2
    · decide
  have hdrop : ('#' :: (text ++ '\n' :: rest)).dropWhile (· != '\n') = '\n' :: rest := by
    have hall : ∀ c ∈ '#' :: text, (c != '\n') = true := by
      intro c hc
      rw [bne_iff_ne]
      rintro rfl
      rcases List.mem_cons.mp hc with he | hc
      · exact absurd he (by decide)
      · exact (h _ hc).1 rfl
    rw [← List.cons_append, List.dropWhile_append_of_pos hall]
    rfl
  have hscan : scanLineStart ⟨blocks, [], true⟩ ('#' :: (text ++ '\n' :: rest)) =
      .go [] ⟨blocks, [], true⟩ rest := by
    have hi : indentation 0 0 0 ('#' :: (text ++ '\n' :: rest)) =
        some ((0, 0), '#' :: (text ++ '\n' :: rest)) := rfl
    rw [scanLineStart, hi]
    simp only [List.head?_cons, if_true, hdrop]
  have htext : '#' :: (text ++ ['\n']) ++ rest = '#' :: (text ++ '\n' :: rest) := by simp
  rw [htext]
  refine tokensFrom_of_scanLineStart hscan (Or.inl ?_)
  simp only [List.length_cons, List.length_append]
  omega

/-- A text of whole lines keeps its line ends. -/
theorem uniformLines_eq {text : List Char} (hk : ∀ c ∈ text, IsKept c)
    (hl : text.getLast? = some '\n') : uniformLines text = text := by
  induction text with
  | nil => cases hl
  | cons c text ih =>
    have hc : c ≠ '\r' := (hk c List.mem_cons_self).2
    have hrest : text ≠ [] → uniformLines text = text := fun hne =>
      ih (fun d hd => hk d (List.mem_cons_of_mem _ hd)) (by
        obtain ⟨d, more, rfl⟩ := List.exists_cons_of_ne_nil hne
        rwa [List.getLast?_cons_cons] at hl)
    rw [uniformLines.eq_def]
    split
    · next he => cases he
    · next he => exact absurd (List.cons.inj he).1 hc
    · next he => exact absurd (List.cons.inj he).1 hc
    · next he =>
      obtain ⟨rfl, rfl⟩ := List.cons.inj he
      by_cases hne : text = []
      · rw [hne]
        rfl
      · rw [if_neg (fun he => hne (List.isEmpty_iff.mp he)), hrest hne]
    · next hn he =>
      obtain ⟨rfl, rfl⟩ := List.cons.inj he
      have hne : text ≠ [] := by
        rintro rfl
        exact hn (by simpa using hl)
      rw [hrest hne]

/-- A text without line ends is one line. -/
theorem uniformLines_of_forall {text : List Char} (h : ∀ c ∈ text, c ≠ '\r' ∧ c ≠ '\n') :
    uniformLines text = text ++ ['\n'] := by
  induction text with
  | nil => rfl
  | cons c text ih =>
    obtain ⟨hr, hn⟩ := h c List.mem_cons_self
    rw [uniformLines.eq_def]
    split
    · next he => cases he
    · next he => exact absurd (List.cons.inj he).1 hr
    · next he => exact absurd (List.cons.inj he).1 hr
    · next he => exact absurd (List.cons.inj he).1 hn
    · next he =>
      obtain ⟨rfl, rfl⟩ := List.cons.inj he
      rw [ih fun d hd => h d (List.mem_cons_of_mem _ hd), List.cons_append]

/-- The tokens of a text of whole lines; behind it the open blocks are closed. -/
theorem CutInto.tokenize {text : List Char} {tokens : List Token} {after : List (Nat × Nat)}
    (h : CutInto [] text tokens after) :
    tokenize text = tokens ++ (after.map (fun _ => Token.dedent) ++ [Token.finish]) := by
  have hend : tokensFrom ⟨after, [], true⟩ [] =
      after.map (fun _ => Token.dedent) ++ [Token.finish] := by
    rw [tokensFrom]
    rfl
  have hall := h.cut []
  rw [List.append_nil, hend] at hall
  rw [Script.tokenize, uniformLines_eq h.kept h.complete]
  exact hall

end KeyedAccess.Script
