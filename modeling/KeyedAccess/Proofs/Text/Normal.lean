import KeyedAccess.Proofs.Text.Identifier

/-!
# Normal forms of identifiers

What the compatibility form of an identifier is made of, and how it begins. The characters of the
form are again such that normalization makes no underscore of them, and it holds no number sign. No
form begins with an underscore unless the text does, or begins with a low line.

The proofs follow the three stages of normalization: decomposing, putting marks in order, composing.
-/

namespace KeyedAccess.Text

/-! ## Characters -/

/-- Every character but two can stand in the name of a file. -/
theorem isNamePoint_toNat {c : Char} (h0 : c.toNat ≠ 0) (hs : c.toNat ≠ 0x2f) :
    isNamePoint c.toNat = true :=
  isNamePoint_iff.mpr ⟨h0, hs, c.valid⟩

/-- A valid code point is that of its character. -/
theorem toNat_ofNat {point : Nat} (h : point.isValidChar) : (Char.ofNat point).toNat = point := by
  rw [Char.ofNat, dif_pos h]
  rfl

/-- A code point of a name is that of its character. -/
theorem isNamePoint_ofNat {point : Nat} (h : isNamePoint point = true) :
    isNamePoint (Char.ofNat point).toNat = true := by
  rwa [toNat_ofNat (isNamePoint_iff.mp h).2.2]

private theorem eq_of_ofNat_eq_underscore {point : Nat} (h : Char.ofNat point = '_') :
    point = underscorePoint := by
  by_cases hvalid : point.isValidChar
  · rw [← toNat_ofNat hvalid, h]
    rfl
  · rw [Char.ofNat, dif_neg hvalid] at h
    cases h

/-- A character of an identifier is none of the signs in front of the digits. -/
theorem IsIdentifierChar.le_toNat {c : Char} (h : IsIdentifierChar c) : 48 ≤ c.toNat := by
  rcases h.cases with hc | hc
  · exact (range_of_isAsciiNameChar hc).1
  · exact Nat.le_trans (by decide) hc.1

/-- A character of an identifier can stand in the name of a file. -/
theorem IsIdentifierChar.isNamePoint {c : Char} (h : IsIdentifierChar c) :
    isNamePoint c.toNat = true := by
  have hlow := h.le_toNat
  exact isNamePoint_toNat (by omega) (by omega)

/-- It is one of the foreign code points only beyond them. -/
theorem IsIdentifierChar.not_mem_foreignPoints {c : Char} (h : IsIdentifierChar c) :
    c.toNat ∉ foreignPoints := by
  intro hforeign
  rcases h.cases with hc | hc
  · have hlt := (range_of_isAsciiNameChar hc).2
    simp only [foreignPoints, wideBoundaries, slashed, numberSigns, List.cons_append,
      List.nil_append, List.mem_cons, List.not_mem_nil, or_false] at hforeign
    omega
  · exact hc.2 hforeign

/-! ## Decompositions -/

/-- A map of entries gives nothing but what one of them says. -/
private theorem mem_of_getElem?_ofList {entries : List (List Nat × List Nat)}
    {key value : List Nat} (h : (Std.HashMap.ofList entries)[key]? = some value) :
    (key, value) ∈ entries := by
  rw [Std.HashMap.ofList_eq_insertMany_empty, Std.HashMap.getElem?_insertMany_list,
    Std.HashMap.getElem?_empty, Option.or_none, List.findSomeRev?_eq_findSome?_reverse] at h
  obtain ⟨⟨k, v⟩, he, hv⟩ := List.exists_of_findSome?_eq_some h
  rw [List.mem_reverse] at he
  simp only [beq_iff_eq] at hv
  split at hv
  · next hk =>
    cases hv
    exact hk ▸ he
  · cases hv

/-- What a table of such lines gives is an entry of that kind. -/
private theorem isFormEntry_of_getElem? {lines : List String}
    (hl : ∀ line ∈ lines, leadsToForms line.toList = true) {key value : List Nat}
    (h : (Std.HashMap.ofList (sequenceEntries lines))[key]? = some value) :
    isFormEntry (key, value) = true := by
  obtain ⟨line, hline, hentry⟩ := List.mem_flatMap.mp (mem_of_getElem?_ofList h)
  exact List.all_eq_true.mp (hl line hline) (key, value) hentry

/-- The entries of a single code point. -/
private theorem isFormEntry_iff {point : Nat} {value : List Nat} :
    isFormEntry ([point], value) = true ↔ value ≠ [] ∧
      ((∀ p ∈ value, isFormPoint p = true ∧ p ≠ underscorePoint) ∨
        point ∈ lowLines ∧ value = [underscorePoint] ∨
        point ∈ foreignPoints ∧ underscorePoint ∉ value) := by
  simp [isFormEntry, isPlainPoint_iff, or_assoc]

/-- An entry on some line of a table is one of the table. -/
private theorem mem_sequenceEntries {lines : List String} {index : Nat} {line : String}
    (hl : lines[index]? = some line) {entry : List Nat × List Nat}
    (h : entry ∈ (fields ' ' line.toList).map sequenceEntry) : entry ∈ sequenceEntries lines :=
  List.mem_flatMap.mpr ⟨_, List.mem_of_getElem? hl, h⟩

/-- The low lines are decomposed. -/
private theorem isSome_decompositions {point : Nat} (h : point ∈ lowLines) :
    (decompositions[[point]]?).isSome = true := by
  have hforms : decompositionEntries[496]? = some ("fe33>5f fe34>5f fe35>28 fe36>29 fe37>7b " ++
    "fe38>7d fe39>3014 fe3a>3015 fe3b>3010 fe3c>3011") := by decide +kernel
  have hlines : decompositionEntries[498]? = some ("fe48>5d fe49>20+305 fe4a>20+305 " ++
    "fe4b>20+305 fe4c>20+305 fe4d>5f fe4e>5f fe4f>5f fe50>2c") := by decide +kernel
  have hwide : decompositionEntries[522]? = some ("ff37>57 ff38>58 ff39>59 ff3a>5a ff3b>5b " ++
    "ff3c>5c ff3d>5d ff3e>5e ff3f>5f ff40>60 ff41>61") := by decide +kernel
  have hentry : ([point], [underscorePoint]) ∈ sequenceEntries decompositionEntries := by
    simp only [lowLines, List.mem_cons, List.not_mem_nil, or_false] at h
    rcases h with rfl | rfl | rfl | rfl | rfl | rfl
    · exact mem_sequenceEntries hforms (by decide +kernel)
    · exact mem_sequenceEntries hforms (by decide +kernel)
    · exact mem_sequenceEntries hlines (by decide +kernel)
    · exact mem_sequenceEntries hlines (by decide +kernel)
    · exact mem_sequenceEntries hlines (by decide +kernel)
    · exact mem_sequenceEntries hwide (by decide +kernel)
  rw [decompositions, ← Std.HashMap.contains_eq_isSome_getElem?, Std.HashMap.contains_ofList,
    List.contains_iff_mem]
  exact List.mem_map_of_mem hentry

/-- The parts of a syllable are code points of letters far beyond the underscore. -/
private theorem range_of_mem_syllable {syllable point : Nat}
    (hr : (decide (0xac00 ≤ syllable) && decide (syllable ≤ 0xd7a3)) = true)
    (hp : point ∈ [0x1100 + (syllable - 0xac00) / 588,
      0x1161 + ((syllable - 0xac00) % 588) / 28] ++
        if (syllable - 0xac00) % 28 = 0 then [] else [0x11a7 + (syllable - 0xac00) % 28]) :
    0x1100 ≤ point ∧ point < 0xd800 := by
  rw [Bool.and_eq_true, decide_eq_true_eq, decide_eq_true_eq] at hr
  rcases List.mem_append.mp hp with hp | hp
  · simp only [List.mem_cons, List.not_mem_nil, or_false] at hp
    omega
  · split at hp
    · cases hp
    · rw [List.mem_singleton] at hp
      omega

/-- A code point is decomposed to some code points, and to the underscore only if it is one or a low
line. -/
theorem decomposePoint_ne_nil (point : Nat) : decomposePoint point ≠ [] ∧
    (underscorePoint ∈ decomposePoint point → point = underscorePoint ∨ point ∈ lowLines) := by
  rw [decomposePoint]
  split
  · next hr =>
    refine ⟨List.cons_ne_nil _ _, fun hm => ?_⟩
    have hrange := range_of_mem_syllable hr hm
    rw [underscorePoint] at hrange
    omega
  · cases he : decompositions[[point]]? with
    | none => exact ⟨List.cons_ne_nil _ _, fun hm => Or.inl (List.mem_singleton.mp hm).symm⟩
    | some value =>
      have hentry := isFormEntry_of_getElem? checkedEntries.decomposition he
      obtain ⟨hne, hvalue⟩ := isFormEntry_iff.mp hentry
      refine ⟨hne, fun hm => ?_⟩
      rcases hvalue with hplain | ⟨hlow, -⟩ | ⟨-, hnot⟩
      · exact absurd rfl (hplain _ hm).2
      · exact Or.inr hlow
      · exact absurd hm hnot

/-- The decomposition of a character of an identifier consists of code points of normal forms. -/
theorem isFormPoint_of_mem_decomposePoint {c : Char} (h : IsIdentifierChar c) :
    ∀ point ∈ decomposePoint c.toNat, isFormPoint point = true := by
  intro point hp
  rw [decomposePoint] at hp
  split at hp
  · next hr =>
    have hrange := range_of_mem_syllable hr hp
    refine (isPlainPoint_iff.mp ?_).1
    simp only [isPlainPoint, underscorePoint, Bool.or_eq_true, Bool.and_eq_true, Nat.blt_eq]
    omega
  · cases he : decompositions[[c.toNat]]? with
    | none =>
      rw [he, Option.getD_none, List.mem_singleton] at hp
      have hlow := h.le_toNat
      refine hp ▸ isFormPoint_iff.mpr ⟨h.isNamePoint, by omega, fun hline => ?_⟩
      have hsome := isSome_decompositions hline
      rw [he] at hsome
      cases hsome
    | some value =>
      rw [he, Option.getD_some] at hp
      obtain ⟨-, hvalue⟩ := isFormEntry_iff.mp
        (isFormEntry_of_getElem? checkedEntries.decomposition he)
      rcases hvalue with hplain | ⟨-, rfl⟩ | ⟨hforeign, -⟩
      · exact (hplain point hp).1
      · rw [List.mem_singleton.mp hp]
        decide
      · exact absurd hforeign h.not_mem_foreignPoints

/-! ## Marks in order -/

/-- Inserting a mark adds nothing else. -/
private theorem mem_insertMark {point mark : Nat} {marks : List (Nat × Nat)} {entry : Nat × Nat}
    (h : entry ∈ insertMark point mark marks) : entry = (point, mark) ∨ entry ∈ marks := by
  induction marks with
  | nil => exact Or.inl (List.mem_singleton.mp h)
  | cons next rest ih =>
    rw [insertMark] at h
    split at h
    · exact List.mem_cons.mp h
    · rcases List.mem_cons.mp h with rfl | h
      · exact Or.inr List.mem_cons_self
      · exact (ih h).imp_right (List.mem_cons_of_mem next)

/-- What a mark is inserted into is not empty. -/
private theorem insertMark_ne_nil (point mark : Nat) (marks : List (Nat × Nat)) :
    insertMark point mark marks ≠ [] := by
  cases marks with
  | nil => exact List.cons_ne_nil _ _
  | cons next rest =>
    rw [insertMark]
    split <;> exact List.cons_ne_nil _ _

/-- One step of putting marks in order. -/
private def orderStep (done : List (Nat × Nat) × List (Nat × Nat)) (next : Nat × Nat) :
    List (Nat × Nat) × List (Nat × Nat) :=
  if next.2 = 0 then (done.1 ++ done.2 ++ [next], []) else (done.1, insertMark next.1 next.2 done.2)

private theorem mem_of_mem_orderStep {done : List (Nat × Nat) × List (Nat × Nat)}
    {next entry : Nat × Nat} (h : entry ∈ (orderStep done next).1 ++ (orderStep done next).2) :
    entry = next ∨ entry ∈ done.1 ++ done.2 := by
  rw [orderStep] at h
  split at h
  · rw [List.append_nil, List.mem_append] at h
    exact h.symm.imp_left List.mem_singleton.mp
  · rcases List.mem_append.mp h with h | h
    · exact .inr (List.mem_append_left _ h)
    · exact (mem_insertMark h).imp_right (List.mem_append_right _)

/-- Putting marks in order adds nothing. -/
theorem mem_of_mem_canonicalOrder {points : List Nat} {entry : Nat × Nat}
    (h : entry ∈ canonicalOrder points) : entry.1 ∈ points := by
  -- what is in order and what is being sorted are entries of the given code points
  refine List.foldlRecOn
    (motive := fun done : List (Nat × Nat) × List (Nat × Nat) =>
      ∀ e ∈ done.1 ++ done.2, e.1 ∈ points)
    (points.map fun point => (point, combiningClass point)) orderStep (fun _ he => by cases he) ?_
    entry h
  intro done hdone next hnext e he
  rcases mem_of_mem_orderStep he with rfl | he
  · obtain ⟨point, hp, rfl⟩ := List.mem_map.mp hnext
    exact hp
  · exact hdone e he

/-- A list whose first element is none of a kind; what is put behind it makes no difference. -/
def BeginsOtherwise (points : List Nat) : Prop := ∃ first ∈ points.head?, first ≠ underscorePoint

theorem BeginsOtherwise.append {points : List Nat} (h : BeginsOtherwise points)
    (others : List Nat) : BeginsOtherwise (points ++ others) := by
  obtain ⟨first, hfirst, hne⟩ := h
  exact ⟨first, by rw [List.head?_append, hfirst]; rfl, hne⟩

private theorem combiningClass_underscorePoint : combiningClass underscorePoint = 0 := by
  have hnone : combiningClasses.find? (fun entry =>
      decide (entry.1.1 ≤ underscorePoint) && decide (underscorePoint ≤ entry.1.2)) = none := by
    refine List.find?_eq_none.mpr fun entry hentry => ?_
    obtain ⟨line, hline, hm⟩ := List.mem_flatMap.mp hentry
    have hcheck := List.all_eq_true.mp (checkedEntries.combining line hline) entry hm
    rw [Bool.not_eq_true'] at hcheck
    exact Bool.eq_false_iff.mp hcheck
  rw [combiningClass, hnone]

/-- In the middle of putting marks in order, what is in order begins with no underscore, and none
waits among the marks. -/
private structure KeepsBeginning (done : List (Nat × Nat) × List (Nat × Nat)) : Prop where
  /-- The first code point so far is none. -/
  begins : BeginsOtherwise ((done.1 ++ done.2).map Prod.fst)
  /-- No mark is one. -/
  marks : ∀ e ∈ done.2, e.1 ≠ underscorePoint

private theorem keepsBeginning_first {first : Nat} (hne : first ≠ underscorePoint) :
    KeepsBeginning (orderStep ([], []) (first, combiningClass first)) := by
  rw [orderStep]
  split
  · exact ⟨⟨first, rfl, hne⟩, List.forall_mem_nil _⟩
  · exact ⟨⟨first, rfl, hne⟩, List.forall_mem_singleton.mpr hne⟩

private theorem KeepsBeginning.step {done : List (Nat × Nat) × List (Nat × Nat)}
    (h : KeepsBeginning done) (point : Nat) :
    KeepsBeginning (orderStep done (point, combiningClass point)) := by
  rw [orderStep]
  dsimp only
  split
  · refine ⟨?_, List.forall_mem_nil _⟩
    rw [List.append_nil, List.map_append]
    exact h.begins.append _
  · next hclass =>
    have hpoint : point ≠ underscorePoint := by
      rintro rfl
      exact hclass combiningClass_underscorePoint
    have hmarks : ∀ e ∈ insertMark point (combiningClass point) done.2, e.1 ≠ underscorePoint := by
      intro e he
      rcases mem_insertMark he with rfl | he
      · exact hpoint
      · exact h.marks e he
    refine ⟨?_, hmarks⟩
    cases hdone : done.1 with
    | nil =>
      -- nothing is in order yet, so the first of the marks comes first
      obtain ⟨e, others, hcons⟩ := List.exists_cons_of_ne_nil
        (insertMark_ne_nil point (combiningClass point) done.2)
      rw [List.nil_append, hcons]
      exact ⟨e.1, rfl, hmarks e (hcons ▸ List.mem_cons_self)⟩
    | cons e others =>
      have hbegins := h.begins
      rw [hdone] at hbegins
      exact hbegins

/-- What begins with no underscore does so with its marks in order. -/
theorem BeginsOtherwise.canonicalOrder {points : List Nat} (h : BeginsOtherwise points) :
    BeginsOtherwise ((canonicalOrder points).map Prod.fst) := by
  cases points with
  | nil =>
    obtain ⟨_, ⟨⟩, -⟩ := h
  | cons first rest =>
    obtain ⟨_, ⟨⟩, hne⟩ := h
    have horder : KeepsBeginning ((rest.map fun point => (point, combiningClass point)).foldl
        orderStep (orderStep ([], []) (first, combiningClass first))) := by
      refine List.foldlRecOn _ _ (keepsBeginning_first hne) fun done hdone next hnext => ?_
      obtain ⟨point, -, rfl⟩ := List.mem_map.mp hnext
      exact hdone.step point
    exact horder.begins

/-! ## Compositions -/

/-- Two code points are composed to one of normal forms, and to no underscore. -/
theorem isFormPoint_of_composePair {first second point : Nat}
    (h : composePair first second = some point) :
    isFormPoint point = true ∧ point ≠ underscorePoint := by
  refine isPlainPoint_iff.mp ?_
  rw [composePair] at h
  split at h
  · next hr =>
    simp only [Bool.and_eq_true, decide_eq_true_eq] at hr
    have hpoint := Option.some.inj h
    simp only [isPlainPoint, underscorePoint, Bool.or_eq_true, Bool.and_eq_true, Nat.blt_eq]
    omega
  · split at h
    · next hr =>
      simp only [Bool.and_eq_true, decide_eq_true_eq, beq_iff_eq] at hr
      have hpoint := Option.some.inj h
      simp only [isPlainPoint, underscorePoint, Bool.or_eq_true, Bool.and_eq_true, Nat.blt_eq]
      omega
    · obtain ⟨value, he, hv⟩ := Option.bind_eq_some_iff.mp h
      have hentry := isFormEntry_of_getElem? checkedEntries.composition he
      simp [isFormEntry] at hentry
      exact hentry.2 point (List.mem_of_mem_head? hv)

/-- What the next code point leads to: the starter is replaced by a composite, or the code point
stands behind the others. -/
theorem Composing.points_push (s : Composing) (next : Nat × Nat) :
    (s.push next).points = s.points ++ [next.1] ∨
      ∃ starter composite, s.starter = some starter ∧
        composePair starter next.1 = some composite ∧
        (s.push next).points = s.done ++ composite :: s.marks := by
  simp only [Composing.push]
  split
  · next composite hcomposite =>
    obtain ⟨starter, hstarter, hcomposed⟩ := Option.bind_eq_some_iff.mp hcomposite
    split at hcomposed
    · refine Or.inr ⟨starter, composite, hstarter, hcomposed, ?_⟩
      simp [Composing.points]
    · cases hcomposed
  · left
    split <;> simp [Composing.points]

/-- Joining a code point of normal forms keeps all code points such. -/
theorem Composing.isFormPoint_push {s : Composing} {next : Nat × Nat}
    (hs : ∀ point ∈ s.points, isFormPoint point = true) (hn : isFormPoint next.1 = true) :
    ∀ point ∈ (s.push next).points, isFormPoint point = true := by
  intro point hp
  rcases s.points_push next with hpush | ⟨starter, composite, -, hcomposed, hpush⟩
  · rw [hpush, List.mem_append, List.mem_singleton] at hp
    exact hp.elim (hs point) fun h => h ▸ hn
  · rw [hpush, List.mem_append, List.mem_cons] at hp
    rcases hp with hp | rfl | hp
    · exact hs point (List.mem_append_left _ (List.mem_append_left _ hp))
    · exact (isFormPoint_of_composePair hcomposed).1
    · exact hs point (List.mem_append_right _ hp)

/-- It makes no underscore of the first code point. -/
theorem Composing.beginsOtherwise_push {s : Composing} (hs : BeginsOtherwise s.points)
    (next : Nat × Nat) : BeginsOtherwise (s.push next).points := by
  rcases s.points_push next with hpush | ⟨starter, composite, hstarter, hcomposed, hpush⟩
  · exact hpush ▸ hs.append [next.1]
  · rw [hpush]
    cases hdone : s.done with
    | nil => exact ⟨composite, rfl, (isFormPoint_of_composePair hcomposed).2⟩
    | cons first rest =>
      obtain ⟨found, hfound, hne⟩ := hs
      rw [Composing.points, hdone] at hfound
      exact ⟨found, hfound, hne⟩

/-! ## Compatibility forms -/

/-- The characters of the compatibility form of an identifier are those of normal forms. -/
theorem isFormPoint_of_mem_compatibilityForm {text : List Char}
    (h : ∀ c ∈ text, IsIdentifierChar c) :
    ∀ c ∈ compatibilityForm text, isFormPoint c.toNat = true := by
  rw [compatibilityForm]
  split
  · next hascii =>
    intro c hc
    have hlow := (h c hc).le_toNat
    have hhigh := of_decide_eq_true (List.all_eq_true.mp hascii c hc)
    refine isFormPoint_iff.mpr ⟨(h c hc).isNamePoint, by omega, fun hline => ?_⟩
    simp only [lowLines, List.mem_cons, List.not_mem_nil, or_false] at hline
    omega
  · intro c hc
    obtain ⟨point, hp, rfl⟩ := List.mem_map.mp hc
    have hform : isFormPoint point = true := by
      refine List.foldlRecOn
        (motive := fun s : Composing => ∀ point ∈ s.points, isFormPoint point = true) _ _
        (fun _ hq => by cases hq) ?_ point hp
      intro s hs next hnext
      obtain ⟨d, hd, hm⟩ := List.mem_flatMap.mp (mem_of_mem_canonicalOrder hnext)
      exact Composing.isFormPoint_push hs (isFormPoint_of_mem_decomposePoint (h d hd) _ hm)
    rwa [toNat_ofNat (isNamePoint_iff.mp (isFormPoint_iff.mp hform).1).2.2]

/-- A compatibility form begins with an underscore only if the text begins with one or with a low
line. -/
theorem head?_compatibilityForm {c : Char} {rest : List Char} (hc : c ≠ '_')
    (hlow : c.toNat ∉ lowLines) : (compatibilityForm (c :: rest)).head? ≠ some '_' := by
  have hpoint : c.toNat ≠ underscorePoint := fun h => hc (Char.toNat_inj.mp h)
  rw [compatibilityForm]
  split
  · exact fun h => hc (Option.some.inj h)
  · have hdecomposed : BeginsOtherwise ((c :: rest).flatMap fun d => decomposePoint d.toNat) := by
      obtain ⟨hne, hunder⟩ := decomposePoint_ne_nil c.toNat
      obtain ⟨first, others, hfirst⟩ := List.exists_cons_of_ne_nil hne
      rw [List.flatMap_cons, hfirst]
      refine ⟨first, rfl, ?_⟩
      rintro rfl
      exact (hunder (hfirst ▸ List.mem_cons_self)).elim hpoint hlow
    have hordered := hdecomposed.canonicalOrder
    generalize canonicalOrder ((c :: rest).flatMap fun d => decomposePoint d.toNat) = ordered
      at hordered
    cases ordered with
    | nil => exact absurd hordered (by rintro ⟨_, ⟨⟩, -⟩)
    | cons next ordered =>
      obtain ⟨_, ⟨⟩, hne⟩ := hordered
      have hpushed : BeginsOtherwise
          (Composing.push ⟨[], none, [], 0⟩ next).points := by
        rcases Composing.points_push ⟨[], none, [], 0⟩ next with hpush | ⟨_, _, ⟨⟩, -⟩
        exact hpush ▸ ⟨next.1, rfl, hne⟩
      obtain ⟨first, hfirst, hfirstne⟩ := List.foldlRecOn
        (motive := fun s : Composing => BeginsOtherwise s.points) ordered Composing.push hpushed
        fun s hs next _ => Composing.beginsOtherwise_push hs next
      rw [List.head?_map, List.foldl_cons, hfirst]
      exact fun h => hfirstne (eq_of_ofNat_eq_underscore (Option.some.inj h))

end KeyedAccess.Text
