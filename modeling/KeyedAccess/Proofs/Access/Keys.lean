import KeyedAccess.Proofs.Access.Compiling

/-!
# Keys that reach their members

The key of a case is the text that the literal of the name stands for. A character beyond U+FFFF
stands in the literal as a surrogate pair, which is read as two code points, so no key at all
reaches the member then. Every other name is the key of its member.
-/

namespace KeyedAccess.Access

open Script Text Mixin

/-- A literal as a line of its own. -/
private def literalLine (text : String) : Line := ⟨0, literal text, []⟩

private theorem tokenize_asciiQuoted (text : String) :
    tokenize (asciiQuoted text).toList =
      [.quotation ⟨[], text.toList.flatMap asciiEscape⟩, .newline, .finish] := by
  have hchars : (literalLine text).chars = (asciiQuoted text).toList ++ ['\n'] := by
    rw [asciiQuoted, String.toList_ofList]
    simp [literalLine, Line.chars, Line.parts, spell, Part.chars, literal]
  have hends : ∀ c ∈ (asciiQuoted text).toList, c ≠ '\r' ∧ c ≠ '\n' := by
    intro c hc
    have hb := not_isLineBoundary_of_mem_asciiQuoted hc
    constructor
    · rintro rfl
      exact absurd hb (by decide)
    · rintro rfl
      exact absurd hb (by decide)
  have hsound : (literalLine text).Sound :=
    ⟨⟨sound_literal text, (by decide : '\n' ≠ '"'), trivial⟩, rfl⟩
  have hcut := hsound.cutInto (rfl : placeLine (0, 0) [] = .ok ([], []))
  rw [tokenize, uniformLines_of_forall hends, ← hchars,
    ← uniformLines_eq hcut.kept hcut.complete]
  exact hcut.tokenize

/-- A literal is read as the units of its text. -/
theorem readModule_asciiQuoted (text : String) :
    readModule (asciiQuoted text).toList =
      .ok [.expression (.constant (.text (text.toList.flatMap units) false))] := by
  have hnul : ((asciiQuoted text).toList.any fun c => c.toNat == 0) = false := by
    rw [List.any_eq_false]
    intro c hc hz
    have hlow := (isPlain_of_mem_asciiQuoted hc).1
    rw [beq_iff_eq] at hz
    omega
  have hlength : 2 ≤ (asciiQuoted text).toList.length := by
    rw [asciiQuoted, String.toList_ofList]
    simp
  obtain ⟨depth, hdepth⟩ := Nat.exists_eq_add_of_le' hlength
  have hend : nextLine (readersBelow (depth + 4) (depth + 4)) [.finish] = .ok (none, [.finish]) :=
    rfl
  have hbegins : BeginsLine
      [.quotation ⟨[], text.toList.flatMap asciiEscape⟩, .newline, .finish] :=
    ⟨_, _, rfl, by simp, by simp⟩
  have hline : (readersBelow (depth + 4) (depth + 4)).line
      [.quotation ⟨[], text.toList.flatMap asciiEscape⟩, .newline, .finish] =
      .ok ([.expression (.constant (.text (text.toList.flatMap units) false))], [.finish]) :=
    lineOf_quotation (points_asciiForm text.toList) [.finish]
  have hlines := Repeats.more (nextLine_of_ok hbegins hline) (by decide : 1 < 3) (.stop hend)
  have hread : linesOf (readersWithin (depth + 4)) _ = _ := linesOf_of_repeats hlines
  rw [readModule, hnul, if_neg Bool.false_ne_true, tokenize_asciiQuoted, hdepth, moduleOf,
    bind_of_ok hread]
  rfl

/-- A text without characters beyond U+FFFF. -/
def IsNarrow (text : String) : Prop := ∀ c ∈ text.toList, c.toNat < 0x10000

instance (text : String) : Decidable (IsNarrow text) := by
  unfold IsNarrow
  infer_instance

/-- The case for a name covers the name alone, or nothing. -/
theorem covers_caseFor {t : Descriptor} {name : String} {key : Key} :
    (caseFor t name).covers key = true ↔ key = .text name ∧ IsNarrow name := by
  cases key with
  | text key =>
    rw [Case.covers, caseFor, beq_iff_eq, map_toNat_eq_flatMap_units_iff, String.toList_inj,
      Key.text.injEq]
    rfl
  | number | truth | nothing => exact iff_of_false Bool.false_ne_true fun h => nomatch h.1

/-- The first case that covers a key is that of the member with this name, if its name is narrow. -/
theorem find?_caseFor (t : Descriptor) (properties : List Property) (key : String) :
    (properties.map fun p => caseFor t p.name).find? (·.covers (.text key)) =
      if key ∈ properties.map (·.name) ∧ IsNarrow key then some (caseFor t key) else none := by
  induction properties with
  | nil => simp
  | cons p properties ih =>
    rw [List.map_cons, List.map_cons, List.find?_cons]
    cases hc : (caseFor t p.name).covers (.text key) with
    | true =>
      obtain ⟨he, hn⟩ := covers_caseFor.mp hc
      obtain rfl := Key.text.inj he
      rw [if_pos ⟨List.mem_cons_self, hn⟩]
    | false =>
      have hne : ¬ (key = p.name ∧ IsNarrow key) := by
        rintro ⟨rfl, hn⟩
        rw [covers_caseFor.mpr ⟨rfl, hn⟩] at hc
        cases hc
      have hcongr : (key = p.name ∨ key ∈ properties.map (·.name)) ∧ IsNarrow key ↔
          key ∈ properties.map (·.name) ∧ IsNarrow key :=
        and_congr_left fun hn => or_iff_right fun he => hne ⟨he, hn⟩
      simp only [ih, List.mem_cons, hcongr]

/-- No case covers a key that is no text. -/
theorem find?_covers_eq_none (cases : List Case) {key : Key} (hk : ∀ name, key ≠ .text name) :
    cases.find? (·.covers key) = none := by
  rw [List.find?_eq_none]
  intro c _ hc
  cases key with
  | text name => exact hk name rfl
  | number | truth | nothing => cases hc

/-- A key leads to an attribute if the first case that covers it does nothing else than to use the
attribute. -/
def LeadsTo (cases : List Case) (key : Key) (attr : String) : Prop :=
  ∃ c, cases.find? (·.covers key) = some c ∧ c.target = attr ∧ c.direct = true

/-- The name of a member leads to its attribute exactly if it is narrow. -/
theorem leadsTo_caseFor_iff {t : Descriptor} {properties : List Property} {p : Property}
    (hp : p ∈ properties) :
    LeadsTo (properties.map fun p => caseFor t p.name) (.text p.name) (attributeFor t p.name) ↔
      IsNarrow p.name := by
  have hm : p.name ∈ properties.map (·.name) := List.mem_map_of_mem hp
  rw [LeadsTo, find?_caseFor]
  constructor
  · rintro ⟨c, hc, -, -⟩
    split at hc
    · next h => exact h.2
    · cases hc
  · intro hn
    refine ⟨caseFor t p.name, if_pos ⟨hm, hn⟩, ?_, rfl⟩
    rw [caseFor]

/-- Otherwise it leads nowhere. -/
theorem find?_caseFor_eq_none_iff {t : Descriptor} {properties : List Property} {p : Property}
    (hp : p ∈ properties) :
    (properties.map fun p => caseFor t p.name).find? (·.covers (.text p.name)) = none ↔
      ¬ IsNarrow p.name := by
  have hm : p.name ∈ properties.map (·.name) := List.mem_map_of_mem hp
  rw [find?_caseFor]
  constructor
  · intro h hn
    rw [if_pos ⟨hm, hn⟩] at h
    cases h
  · exact fun hn => if_neg fun h => hn h.2

/-- Reading is out of range exactly where no case covers the key. -/
theorem Dispatch.get_eq_outOfRange_iff {V : Type} (d : Dispatch) (attributes : Attributes V)
    (key : Key) :
    d.get attributes key = .outOfRange ⟨key⟩ ↔ d.reads.find? (·.covers key) = none := by
  rw [Dispatch.get]
  cases d.reads.find? (·.covers key) with
  | none => exact iff_of_true rfl rfl
  | some c =>
    refine iff_of_false (fun h => ?_) nofun
    cases hl : attributes.lookup c.target with
    | none => simp only [hl, reduceCtorEq] at h
    | some v =>
      simp only [hl] at h
      split at h <;> cases h

/-- So is assignment, which then changes nothing. -/
theorem Dispatch.set_eq_outOfRange_iff {V : Type} (d : Dispatch) (attributes : Attributes V)
    (key : Key) (v : V) :
    d.set attributes key v = (.outOfRange ⟨key⟩, attributes) ↔
      d.writes.find? (·.covers key) = none := by
  rw [Dispatch.set]
  cases d.writes.find? (·.covers key) with
  | none => exact iff_of_true rfl rfl
  | some c =>
    refine iff_of_false (fun h => ?_) nofun
    cases hd : c.direct with
    | true => simp [hd] at h
    | false =>
      cases hl : attributes.lookup c.target <;> simp [hd, hl] at h

/-- A literal denotes its text exactly if no character lies beyond U+FFFF, and then alone the name
of a member is a key that reaches it; otherwise it is out of range. -/
theorem literal_and_key_iff_isNarrow (text : String) :
    (∃ points,
      readModule (asciiQuoted text).toList = .ok [.expression (.constant (.text points false))] ∧
        (points = text.toList.map Char.toNat ↔ IsNarrow text)) ∧
    ∀ (t : Descriptor) (d : Dispatch), Named t → compile (render t triedSupport) = .ok d →
      (∀ p ∈ t.readable,
        (LeadsTo d.reads (.text p.name) (attributeFor t p.name) ↔ IsNarrow p.name) ∧
        ∀ (V : Type) (attributes : Attributes V),
          d.get attributes (.text p.name) = .outOfRange ⟨.text p.name⟩ ↔ ¬ IsNarrow p.name) ∧
      ∀ p ∈ t.writable,
        (LeadsTo d.writes (.text p.name) (attributeFor t p.name) ↔ IsNarrow p.name) ∧
        ∀ (V : Type) (attributes : Attributes V) (v : V),
          d.set attributes (.text p.name) v = (.outOfRange ⟨.text p.name⟩, attributes) ↔
            ¬ IsNarrow p.name := by
  refine ⟨⟨_, readModule_asciiQuoted text, flatMap_units_eq_iff⟩, ?_⟩
  intro t d ht h
  obtain ⟨-, -, rfl⟩ := (compile_render_eq_ok_iff ht).mp h
  refine ⟨fun p hp => ⟨leadsTo_caseFor_iff hp, fun V attributes => ?_⟩,
    fun p hp => ⟨leadsTo_caseFor_iff hp, fun V attributes v => ?_⟩⟩
  · rw [Dispatch.get_eq_outOfRange_iff]
    exact find?_caseFor_eq_none_iff hp
  · rw [Dispatch.set_eq_outOfRange_iff]
    exact find?_caseFor_eq_none_iff hp

/-- A member whose name can be read and written. -/
def owner : Property := ⟨"owner", "str", true, true⟩

/-- A member whose name lies beyond U+FFFF. -/
def yoshi : Property := ⟨"𠮷", "str", true, false⟩

/-- A type with both members. -/
def signboard : Descriptor :=
  { identifier := "Sign", header := "class Sign", properties := [owner, yoshi] }

private theorem isIdentifier_yoshi : isIdentifier yoshi.name.toList = true := by
  have hstart : identifierStart.contains 0x20bb7 = true :=
    contains_ofText_of_getElem? (rfl : _[67]? = _) (by decide +kernel)
  have hlist : yoshi.name.toList = [Char.ofNat 0x20bb7] := by decide
  rw [hlist, isIdentifier, isIdentifierStart, if_neg (by decide)]
  exact Bool.and_eq_true_iff.mpr ⟨hstart, rfl⟩

private theorem named_signboard : Named signboard where
  identifier := by decide
  scope _ hs := nomatch hs
  readable p hp := by
    have hp' : p ∈ [owner, yoshi] := hp
    rcases List.mem_cons.mp hp' with rfl | hp'
    · decide
    · obtain rfl := List.mem_singleton.mp hp'
      exact isIdentifier_yoshi
  writable p hp := by
    obtain rfl := List.mem_singleton.mp (hp : p ∈ [owner])
    decide

/-- The first member of this type is reached by its name, and the second one is not. -/
theorem signboard_keys :
    LeadsTo (dispatchFor signboard).writes (.text "owner") "owner" ∧
      ∀ (V : Type) (attributes : Attributes V),
        (dispatchFor signboard).get attributes (.text "𠮷") = .outOfRange ⟨.text "𠮷"⟩ := by
  have hcompile : compile (render signboard triedSupport) = .ok (dispatchFor signboard) := by
    refine (compile_render_eq_ok_iff named_signboard).mpr ⟨⟨?_, ?_⟩, ?_, rfl⟩
    · decide
    · decide
    · intro p hp
      obtain rfl := List.mem_singleton.mp (hp : p ∈ [owner])
      decide
  obtain ⟨hread, hwrite⟩ :=
    (literal_and_key_iff_isNarrow owner.name).2 signboard _ named_signboard hcompile
  refine ⟨(hwrite owner List.mem_cons_self).1.mpr (by decide), fun V attributes => ?_⟩
  exact ((hread yoshi (List.mem_cons_of_mem _ List.mem_cons_self)).2 V attributes).mpr (by decide)

end KeyedAccess.Access
