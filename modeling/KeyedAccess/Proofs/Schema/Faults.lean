import KeyedAccess.Proofs.Schema.Meaning

/-!
# Files without a meaning

Why a file has no meaning is stated without the functions that look for the reason: the first block
in source order that is not sound is at fault, and where all blocks are sound, the first declaration
whose name stands before it. The computed reason is the stated one, and every file has either a
meaning or exactly one such reason.
-/

namespace KeyedAccess.Schema

/-- What is wrong with an accessor block. A block that is wrong in several ways counts as empty
first, then as repeating an accessor, and then as giving a value in two ways. -/
inductive Faulty : List AccessorTree → MeaningError → Prop where
  /-- There is no accessor. -/
  | empty : Faulty [] .emptyBlock
  /-- An accessor is repeated. -/
  | repeated {block : List AccessorTree} (h : ¬ (accessorKinds block).Nodup) :
    Faulty block (.repeatedAccessor (accessorKinds block))
  /-- A value is given in two ways. -/
  | twoSetters {block : List AccessorTree} (h : (accessorKinds block).Nodup)
    (hs : .set ∈ accessorKinds block) (hi : .start ∈ accessorKinds block) :
    Faulty block .twoSetters

/-- Why a file has no meaning. -/
inductive File.Fails (f : File) : MeaningError → Prop where
  /-- The first block that is not sound is at fault. -/
  | block {before after : List (List AccessorTree)} {block : List AccessorTree} {e : MeaningError}
    (h : blocksOfFile f = before ++ block :: after) (hb : ∀ b ∈ before, SoundBlock b)
    (he : Faulty block e) : f.Fails e
  /-- All blocks are sound, and a declaration has the name of one before it. -/
  | redeclared {before after : List TypeDeclaration} {d : TypeDeclaration}
    (hblocks : ∀ b ∈ blocksOfFile f, SoundBlock b) (h : typesOf f = before ++ d :: after)
    (hb : (before.map (·.header.name)).Nodup) (hd : d.header.name ∈ before.map (·.header.name)) :
    f.Fails (.redeclared d.header.name)

/-- What is found in a block is what is wrong with it. -/
theorem blockFault_eq_some_iff {block : List AccessorTree} {e : MeaningError} :
    blockFault block = some e ↔ Faulty block e := by
  rw [blockFault_eq]
  constructor
  · intro h
    split at h
    next hempty =>
      cases h
      exact hempty ▸ .empty
    next =>
      split at h
      next hrepeated =>
        cases h
        exact .repeated hrepeated
      next hdistinct =>
        split at h
        next hboth =>
          cases h
          exact .twoSetters (Decidable.not_not.mp hdistinct) hboth.1 hboth.2
        next => cases h
  · intro h
    cases h with
    | empty => rfl
    | repeated hrepeated =>
      have hne : block ≠ [] := by
        rintro rfl
        exact hrepeated List.nodup_nil
      rw [if_neg hne, if_pos hrepeated]
    | twoSetters hdistinct hs hi =>
      have hne : block ≠ [] := by
        rintro rfl
        cases hs
      rw [if_neg hne, if_neg (not_not_intro hdistinct), if_pos ⟨hs, hi⟩]

/-- The fault that is found in some blocks is that of the first one that is not sound. -/
theorem findSome?_blockFault_eq_some_iff {blocks : List (List AccessorTree)} {e : MeaningError} :
    blocks.findSome? blockFault = some e ↔ ∃ before block after,
      blocks = before ++ block :: after ∧ Faulty block e ∧ ∀ b ∈ before, SoundBlock b := by
  simp only [List.findSome?_eq_some_iff, blockFault_eq_some_iff, blockFault_eq_none_iff]

/-- The name that is found again is the first one that stands before it or was seen. -/
theorem firstRepeated_eq_some_iff {seen names : List String} {name : String} :
    firstRepeated seen names = some name ↔ ∃ before after, names = before ++ name :: after ∧
      (name ∈ seen ∨ name ∈ before) ∧ firstRepeated seen before = none := by
  induction names generalizing seen with
  | nil =>
    refine iff_of_false (Option.some_ne_none name).symm ?_
    rintro ⟨before, after, h, -⟩
    exact List.append_ne_nil_of_right_ne_nil _ (List.cons_ne_nil _ _) h.symm
  | cons first rest ih =>
    by_cases hs : first ∈ seen
    · rw [firstRepeated_cons_of_mem hs, Option.some.injEq]
      constructor
      · rintro rfl
        exact ⟨[], rest, rfl, .inl hs, rfl⟩
      · rintro ⟨before, after, h, -, hn⟩
        cases before with
        | nil => exact (List.cons.inj h).1
        | cons other before =>
          obtain rfl := (List.cons.inj h).1
          rw [firstRepeated_cons_of_mem hs] at hn
          cases hn
    · have hfound : ∀ before : List String,
          name ∈ first :: seen ∨ name ∈ before ↔ name ∈ seen ∨ name ∈ first :: before := by
        intro before
        rw [List.mem_cons, List.mem_cons, or_assoc, or_left_comm]
      rw [firstRepeated_cons_of_not_mem hs, ih]
      constructor
      · rintro ⟨before, after, rfl, hm, hn⟩
        refine ⟨first :: before, after, rfl, (hfound before).mp hm, ?_⟩
        rw [firstRepeated_cons_of_not_mem hs, hn]
      · rintro ⟨before, after, h, hm, hn⟩
        cases before with
        | nil =>
          obtain rfl := (List.cons.inj h).1
          exact absurd (hm.resolve_right List.not_mem_nil) hs
        | cons other before =>
          obtain ⟨rfl, rfl⟩ := List.cons.inj h
          rw [firstRepeated_cons_of_not_mem hs] at hn
          exact ⟨before, after, rfl, (hfound before).mpr hm, hn⟩

/-- The declared name that is found again is that of the first declaration whose name stands before
it. -/
theorem firstRepeated_typesOf_eq_some_iff {types : List TypeDeclaration} {name : String} :
    firstRepeated [] (types.map (·.header.name)) = some name ↔
      ∃ (before : List TypeDeclaration) (d : TypeDeclaration) (after : List TypeDeclaration),
        types = before ++ d :: after ∧ (before.map (·.header.name)).Nodup ∧
          d.header.name ∈ before.map (·.header.name) ∧ d.header.name = name := by
  rw [firstRepeated_eq_some_iff]
  constructor
  · rintro ⟨before, after, hnames, hm, hnone⟩
    obtain ⟨ds, rest, rfl, rfl, hrest⟩ := List.map_eq_append_iff.mp hnames
    obtain ⟨d, others, rfl, rfl, -⟩ := List.map_eq_cons_iff.mp hrest
    exact ⟨ds, d, others, rfl, firstRepeated_nil_eq_none_iff.mp hnone,
      hm.resolve_left List.not_mem_nil, rfl⟩
  · rintro ⟨before, d, after, rfl, hdistinct, hd, rfl⟩
    exact ⟨_, _, List.map_append, .inr hd, firstRepeated_nil_eq_none_iff.mpr hdistinct⟩

/-- The reason that is computed is one. -/
theorem fails_of_meaning {f : File} {e : MeaningError} (h : meaning f = .error e) :
    f.Fails e := by
  simp only [meaning, map_identifier_declarationsFrom] at h
  split at h
  next fault hb =>
    cases h
    obtain ⟨before, block, after, hblocks, hfaulty, hsound⟩ :=
      findSome?_blockFault_eq_some_iff.mp hb
    exact .block hblocks hsound hfaulty
  next hb =>
    split at h
    next name hn =>
      cases h
      obtain ⟨before, d, after, htypes, hdistinct, hd, rfl⟩ :=
        firstRepeated_typesOf_eq_some_iff.mp hn
      exact .redeclared (findSome?_blockFault_eq_none_iff.mp hb) htypes hdistinct hd
    next => cases h

/-- A reason is computed. -/
theorem File.Fails.meaning_eq {f : File} {e : MeaningError} (h : f.Fails e) :
    meaning f = .error e := by
  simp only [meaning, map_identifier_declarationsFrom]
  cases h with
  | block hblocks hsound hfaulty =>
    rw [findSome?_blockFault_eq_some_iff.mpr ⟨_, _, _, hblocks, hfaulty, hsound⟩]
  | redeclared hsound htypes hdistinct hd =>
    rw [findSome?_blockFault_eq_none_iff.mpr hsound,
      firstRepeated_typesOf_eq_some_iff.mpr ⟨_, _, _, htypes, hdistinct, hd, rfl⟩]

/-- The computed reason why a file has no meaning is the stated one. -/
theorem meaning_eq_error_iff {f : File} {e : MeaningError} :
    meaning f = .error e ↔ f.Fails e :=
  ⟨fails_of_meaning, File.Fails.meaning_eq⟩

end KeyedAccess.Schema
