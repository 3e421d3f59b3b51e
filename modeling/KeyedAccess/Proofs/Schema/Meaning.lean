import KeyedAccess.Schema.Meaning
import Mathlib.Data.List.Forall2

/-!
# What a tree declares

The meaning of a declaration file is stated without the functions that compute it: what each member
and each type contributes, which namespace stands before a declaration, and which files have a
meaning. The computed meaning is the stated one.
-/

namespace KeyedAccess.Schema

/-- The kinds of accessors in a block. -/
def accessorKinds (block : List AccessorTree) : List AccessorKind := block.map (·.kind)

/-- An accessor block that declares something, no accessor twice, and one way to give a value. -/
structure SoundBlock (block : List AccessorTree) : Prop where
  /-- There is an accessor. -/
  nonempty : block ≠ []
  /-- No accessor is repeated. -/
  distinct : (accessorKinds block).Nodup
  /-- A value is not given in two ways. -/
  oneSetter : ¬(.set ∈ accessorKinds block ∧ .start ∈ accessorKinds block)

/-- The first access modifier says who may use a member; without one everybody may. -/
inductive UsedBy : List Modifier → Accessibility → Prop where
  /-- Another modifier does not count. -/
  | skip {m : Modifier} {ms : List Modifier} {who : Accessibility} (hm : ∀ a, m ≠ .access a)
    (h : UsedBy ms who) : UsedBy (m :: ms) who
  /-- The first access modifier decides. -/
  | here (who : Accessibility) (ms : List Modifier) : UsedBy (.access who :: ms) who
  /-- Without an access modifier everybody may use the member. -/
  | nobody : UsedBy [] .everyone

/-- How a value is given under the accessors of a block. -/
structure GivenBy (block : List AccessorTree) (setter : Option Setter) : Prop where
  /-- It is assigned at any time when there is a plain accessor for it. -/
  always : setter = some .always ↔ .set ∈ accessorKinds block
  /-- It is given at the start when there is only an accessor for that. -/
  initially : setter = some .initially ↔ .start ∈ accessorKinds block

/-- A member with a given name, type and kind. -/
structure Member.Is (out : Member) (name type : String) (kind : MemberKind) : Prop where
  /-- Its name. -/
  name : out.name = name
  /-- Its type. -/
  type : out.type = type
  /-- Its kind. -/
  kind : out.kind = kind
  /-- It is declared by the type itself. -/
  own : out.inherited = false

/-- The member that stands behind the modifiers of a tree. -/
def MemberForm.Declares : MemberForm → Member → Prop
  | .property name type block, out =>
    Member.Is out name type.text .property ∧
      (out.hasGetter = true ↔ .get ∈ accessorKinds block) ∧ GivenBy block out.setter
  | .field name type _, out =>
    Member.Is out name type.text .field ∧ out.hasGetter = true ∧ out.setter = some .always
  | .indexer _ _ type block, out =>
    Member.Is out "this" type.text .indexer ∧
      (out.hasGetter = true ↔ .get ∈ accessorKinds block) ∧ GivenBy block out.setter
  | .method name _ (some result) _, out =>
    Member.Is out name result.text .method ∧ out.hasGetter = false ∧ out.setter = none
  | .method name _ none _, out =>
    Member.Is out name "void" .method ∧ out.hasGetter = false ∧ out.setter = none

/-- The member that a tree declares. -/
structure MemberTree.Declares (m : MemberTree) (out : Member) : Prop where
  /-- Who may use it. -/
  access : UsedBy m.modifiers out.accessibility
  /-- What it is. -/
  form : m.form.Declares out

/-- The property that a positional parameter becomes. -/
structure Parameter.Becomes (p : Parameter) (setter : Setter) (out : Member) : Prop where
  /-- Its name and type. -/
  is : Member.Is out p.name p.type.text .property
  /-- Everybody may use it. -/
  access : out.accessibility = .everyone
  /-- It can be read. -/
  readable : out.hasGetter = true
  /-- How its value is given. -/
  given : out.setter = some setter

/-- How the values of positional parameters are given: a structure that may change lets them be
assigned. -/
def PositionallyGiven (h : Header) (setter : Setter) : Prop :=
  (setter = .always ↔ h.kind = .recordStruct ∧ Modifier.constant ∉ h.modifiers)

/-- The members of a declaration: the positional parameters of a record that the body does not
declare again, and then the members of the body. -/
structure TypeDeclaration.Contains (d : TypeDeclaration) (out : List Member) : Prop where
  /-- The members fall into the two parts. -/
  parts : ∃ positional body setter, out = positional ++ body ∧
    List.Forall₂ MemberTree.Declares d.members body ∧
    PositionallyGiven d.header setter ∧
    List.Forall₂ (fun p => Parameter.Becomes p setter)
      ((d.parameters.getD []).filter fun p =>
        d.header.kind.isRecord && decide (p.name ∉ body.map (·.name))) positional

/-- The path of a namespace statement. -/
def Item.path? : Item → Option Path
  | .scope path _ => some path
  | .type _ => none

/-- The declaration of a statement. -/
def Item.declaration? : Item → Option TypeDeclaration
  | .scope .. => none
  | .type d => some d

/-- The declarations of a file. -/
def typesOf (f : File) : List TypeDeclaration := f.filterMap Item.declaration?

/-- The namespace behind statements: the last one that they name. -/
def scopeBehind (before : File) : Option String :=
  (before.filterMap Item.path?).getLast?.map Path.text

/-- What a declaration stands for behind the statements before it. -/
structure TypeDeclaration.Declares (d : TypeDeclaration) (before : File) (out : Declaration) :
    Prop where
  /-- Its name. -/
  identifier : out.identifier = d.header.name
  /-- The words of its kind. -/
  keyword : out.keyword = d.header.kind.text
  /-- The namespace before it. -/
  scope : out.scope = scopeBehind before
  /-- A companion may complete it when it says so. -/
  augmentable : out.augmentable = true ↔ .augmentable ∈ d.header.modifiers
  /-- Its base types. -/
  bases : out.bases = d.bases.map TypeTree.text
  /-- Its members. -/
  members : d.Contains out.members

/-- A file stands for its declarations in source order. -/
structure File.Declares (f : File) (out : List Declaration) : Prop where
  /-- There is one result for each declaration. -/
  length : out.length = (typesOf f).length
  /-- The result at the place of a declaration is what it stands for. -/
  each : ∀ before d after, f = before ++ .type d :: after →
    ∃ o, out[(typesOf before).length]? = some o ∧ d.Declares before o

/-- A file that has a meaning. -/
structure File.Meaningful (f : File) : Prop where
  /-- Every accessor block is sound. -/
  blocks : ∀ block ∈ blocksOfFile f, SoundBlock block
  /-- No name is declared twice. -/
  distinct : ((typesOf f).map (·.header.name)).Nodup

/-- A list without repetition has no value twice. -/
theorem hasRepetition_eq_false_iff {α : Type} [BEq α] [LawfulBEq α] {values : List α} :
    hasRepetition values = false ↔ values.Nodup := by
  induction values with
  | nil => simp [hasRepetition]
  | cons value rest ih =>
    rw [hasRepetition, Bool.or_eq_false_iff, ih, List.nodup_cons, List.contains_eq_mem,
      decide_eq_false_iff_not]

/-- The faults of a block, in the order in which they are looked for. -/
theorem blockFault_eq (block : List AccessorTree) :
    blockFault block =
      if block = [] then some .emptyBlock
      else if ¬ (accessorKinds block).Nodup then some (.repeatedAccessor (accessorKinds block))
      else if .set ∈ accessorKinds block ∧ .start ∈ accessorKinds block then some .twoSetters
      else none := by
  have hempty : (accessorKinds block).isEmpty = true ↔ block = [] := by
    rw [List.isEmpty_iff, accessorKinds, List.map_eq_nil_iff]
  have hrepeated : hasRepetition (accessorKinds block) = true ↔ ¬ (accessorKinds block).Nodup := by
    rw [← hasRepetition_eq_false_iff, Bool.not_eq_false]
  have hboth :
      ((accessorKinds block).contains .set && (accessorKinds block).contains .start) = true ↔
        .set ∈ accessorKinds block ∧ .start ∈ accessorKinds block := by
    rw [Bool.and_eq_true, List.contains_iff_mem, List.contains_iff_mem]
  exact if_congr hempty rfl (if_congr hrepeated rfl (if_congr hboth rfl rfl))

/-- Nothing is wrong with exactly the sound blocks. -/
theorem blockFault_eq_none_iff {block : List AccessorTree} :
    blockFault block = none ↔ SoundBlock block := by
  rw [blockFault_eq]
  constructor
  · intro h
    split at h
    next => cases h
    next hempty =>
      split at h
      next => cases h
      next hnodup =>
        split at h
        next => cases h
        next hboth => exact ⟨hempty, Decidable.not_not.mp hnodup, hboth⟩
  · intro h
    rw [if_neg h.nonempty, if_neg (not_not_intro h.distinct), if_neg h.oneSetter]

/-- No fault is found in some blocks exactly if all of them are sound. -/
theorem findSome?_blockFault_eq_none_iff {blocks : List (List AccessorTree)} :
    blocks.findSome? blockFault = none ↔ ∀ block ∈ blocks, SoundBlock block := by
  simp only [List.findSome?_eq_none_iff, blockFault_eq_none_iff]

section Repeated

variable {seen names rest : List String} {name : String}

/-- A name that was seen is found again at once. -/
theorem firstRepeated_cons_of_mem (h : name ∈ seen) :
    firstRepeated seen (name :: rest) = some name :=
  if_pos (List.contains_iff_mem.mpr h)

/-- Behind a new name the others are sought as if it had been seen. -/
theorem firstRepeated_cons_of_not_mem (h : name ∉ seen) :
    firstRepeated seen (name :: rest) = firstRepeated (name :: seen) rest :=
  if_neg fun hc => h (List.contains_iff_mem.mp hc)

/-- No name is found again exactly when all names are new and different. -/
theorem firstRepeated_eq_none_iff :
    firstRepeated seen names = none ↔ names.Nodup ∧ ∀ name ∈ names, name ∉ seen := by
  induction names generalizing seen with
  | nil => simp [firstRepeated]
  | cons name rest ih =>
    by_cases hs : name ∈ seen
    · rw [firstRepeated_cons_of_mem hs]
      exact iff_of_false (Option.some_ne_none _) fun h => h.2 name List.mem_cons_self hs
    · rw [firstRepeated_cons_of_not_mem hs, ih, List.nodup_cons]
      simp only [List.mem_cons, not_or]
      constructor
      · rintro ⟨hn, hr⟩
        have hnew : name ∉ rest := fun hm => (hr name hm).1 rfl
        refine ⟨⟨hnew, hn⟩, ?_⟩
        rintro other (rfl | hm)
        · exact hs
        · exact (hr other hm).2
      · rintro ⟨⟨hm, hn⟩, hr⟩
        exact ⟨hn, fun other ho => ⟨fun he => hm (he ▸ ho), hr other (Or.inr ho)⟩⟩

end Repeated

/-- No name of a list is found again exactly if the names are different. -/
@[simp] theorem firstRepeated_nil_eq_none_iff {names : List String} :
    firstRepeated [] names = none ↔ names.Nodup := by
  rw [firstRepeated_eq_none_iff]
  exact and_iff_left fun name _ => List.not_mem_nil

/-- The computed accessibility is that of the first access modifier. -/
theorem usedBy_accessibility (ms : List Modifier) : UsedBy ms (accessibility ms) := by
  induction ms with
  | nil => exact .nobody
  | cons m ms ih =>
    cases m with
    | access who => exact .here who ms
    | augmentable => exact .skip (fun a => nofun) ih
    | shared => exact .skip (fun a => nofun) ih
    | closed => exact .skip (fun a => nofun) ih
    | incomplete => exact .skip (fun a => nofun) ih
    | constant => exact .skip (fun a => nofun) ih
    | replaceable => exact .skip (fun a => nofun) ih
    | replacing => exact .skip (fun a => nofun) ih
    | mandatory => exact .skip (fun a => nofun) ih

/-- Whether a block reads the value is whether it has the accessor for that. -/
theorem hasGet_iff {block : List AccessorTree} :
    hasGet block = true ↔ .get ∈ accessorKinds block := by
  rw [hasGet, List.contains_iff_mem]
  rfl

private theorem givenBy_setterOf {block : List AccessorTree} (h : SoundBlock block) :
    GivenBy block (setterOf block) := by
  have hone := h.oneSetter
  simp only [accessorKinds] at hone
  by_cases hs : AccessorKind.set ∈ block.map (·.kind)
  · have hi : AccessorKind.start ∉ block.map (·.kind) := fun hi => hone ⟨hs, hi⟩
    constructor <;> simp [setterOf, accessorKinds, hs, hi]
  · by_cases hi : AccessorKind.start ∈ block.map (·.kind)
    · constructor <;> simp [setterOf, accessorKinds, hs, hi]
    · constructor <;> simp [setterOf, accessorKinds, hs, hi]

/-- The computed member is the declared one. -/
theorem MemberTree.declares_meaning {m : MemberTree}
    (h : ∀ block ∈ m.form.block?, SoundBlock block) : m.Declares m.meaning := by
  obtain ⟨ms, form⟩ := m
  cases form with
  | property name type block =>
    exact ⟨usedBy_accessibility ms, ⟨rfl, rfl, rfl, rfl⟩, hasGet_iff,
      givenBy_setterOf (h block rfl)⟩
  | field name type terminated =>
    exact ⟨usedBy_accessibility ms, ⟨rfl, rfl, rfl, rfl⟩, rfl, rfl⟩
  | indexer before last type block =>
    exact ⟨usedBy_accessibility ms, ⟨rfl, rfl, rfl, rfl⟩, hasGet_iff,
      givenBy_setterOf (h block rfl)⟩
  | method name parameters result terminated =>
    cases result with
    | none => exact ⟨usedBy_accessibility ms, ⟨rfl, rfl, rfl, rfl⟩, rfl, rfl⟩
    | some type => exact ⟨usedBy_accessibility ms, ⟨rfl, rfl, rfl, rfl⟩, rfl, rfl⟩

/-- A header gives the values of positional parameters in the stated way. -/
theorem Header.positionallyGiven (h : Header) : PositionallyGiven h h.positionalSetter := by
  rw [PositionallyGiven, Header.positionalSetter]
  by_cases hk : h.kind = .recordStruct ∧ Modifier.constant ∉ h.modifiers
  · rw [if_pos (by simpa using hk)]
    exact iff_of_true rfl hk
  · rw [if_neg (by simpa using hk)]
    exact iff_of_false nofun hk

/-- The properties of the positional parameters of a record are those of the ones whose names no
member has. -/
theorem TypeDeclaration.mem_positional_iff {d : TypeDeclaration} {declared : List Member}
    {m : Member} : m ∈ d.positional declared ↔ d.header.kind.isRecord = true ∧
      ∃ ps, d.parameters = some ps ∧ ∃ p ∈ ps, p.name ∉ declared.map (·.name) ∧
        m = { name := p.name, type := p.type.text, setter := some d.header.positionalSetter } := by
  rw [positional]
  cases d.parameters with
  | none => simp
  | some ps =>
    cases d.header.kind.isRecord with
    | false => simp
    | true =>
      have hnew : ∀ p : Parameter, (!(declared.map (·.name)).contains p.name) = true ↔
          p.name ∉ declared.map (·.name) := by simp
      constructor
      · intro h
        obtain ⟨p, hp, rfl⟩ := List.mem_map.mp h
        obtain ⟨hmem, hfree⟩ := List.mem_filter.mp hp
        exact ⟨rfl, ps, rfl, p, hmem, (hnew p).mp hfree, rfl⟩
      · rintro ⟨-, _, ⟨⟩, p, hp, hfree, rfl⟩
        exact List.mem_map_of_mem (List.mem_filter.mpr ⟨hp, (hnew p).mpr hfree⟩)

/-- The computed members are the declared ones. -/
theorem TypeDeclaration.contains_meaning {d : TypeDeclaration}
    (h : ∀ m ∈ d.members, ∀ block ∈ m.form.block?, SoundBlock block) (scope : Option String) :
    d.Contains (d.meaning scope).members := by
  refine ⟨d.positional (d.members.map MemberTree.meaning), d.members.map MemberTree.meaning,
    d.header.positionalSetter, rfl,
    List.forall₂_map_right_iff.mpr (List.forall₂_same.mpr fun m hm => m.declares_meaning (h m hm)),
    d.header.positionallyGiven, ?_⟩
  cases hp : d.parameters with
  | none => simp [TypeDeclaration.positional, hp]
  | some ps =>
    simp only [TypeDeclaration.positional, hp, Option.getD_some]
    cases hr : d.header.kind.isRecord with
    | false => simp
    | true =>
      simp only [if_true, Bool.true_and, List.contains_eq_mem, ← decide_not]
      exact List.forall₂_map_right_iff.mpr
        (List.forall₂_same.mpr fun p _ => ⟨⟨rfl, rfl, rfl, rfl⟩, rfl, rfl, rfl⟩)

/-- The computed declaration is the declared one. -/
theorem TypeDeclaration.declares_meaning {d : TypeDeclaration}
    (h : ∀ m ∈ d.members, ∀ block ∈ m.form.block?, SoundBlock block) (before : File) :
    d.Declares before (d.meaning (scopeBehind before)) where
  identifier := rfl
  keyword := rfl
  scope := rfl
  augmentable := List.contains_iff_mem
  bases := rfl
  members := d.contains_meaning h _

/-- The blocks of the members of a declaration are blocks of its file. -/
theorem mem_blocksOfFile {f : File} {d : TypeDeclaration} (hd : .type d ∈ f) {m : MemberTree}
    (hm : m ∈ d.members) {block : List AccessorTree} (hb : block ∈ m.form.block?) :
    block ∈ blocksOfFile f := by
  rw [blocksOfFile, List.mem_flatMap]
  exact ⟨.type d, hd, List.mem_filterMap.mpr ⟨m, hm, hb⟩⟩

/-- One result is computed for each declaration. -/
@[simp] theorem map_identifier_declarationsFrom (scope : Option String) (f : File) :
    (declarationsFrom scope f).map (·.identifier) = (typesOf f).map (·.header.name) := by
  induction f generalizing scope with
  | nil => rfl
  | cons item f ih =>
    cases item with
    | scope path terminated => exact ih _
    | type d => exact congrArg (d.header.name :: ·) (ih scope)

/-- The number of results is that of the declarations. -/
@[simp] theorem length_declarationsFrom (scope : Option String) (f : File) :
    (declarationsFrom scope f).length = (typesOf f).length := by
  have h := congrArg List.length (map_identifier_declarationsFrom scope f)
  rwa [List.length_map, List.length_map] at h

/-- The declarations behind some statements are those of the namespace that these leave. -/
theorem declarationsFrom_append (scope : Option String) (before f : File) :
    declarationsFrom scope (before ++ f) =
      declarationsFrom scope before ++ declarationsFrom ((scopeBehind before).or scope) f := by
  induction before generalizing scope with
  | nil => rfl
  | cons item before ih =>
    cases item with
    | type d => exact congrArg (d.meaning scope :: ·) (ih scope)
    | scope path terminated =>
      have hscope : (scopeBehind (.scope path terminated :: before)).or scope =
          (scopeBehind before).or (some path.text) := by
        simp only [scopeBehind, List.filterMap_cons, Item.path?, List.getLast?_cons]
        cases (before.filterMap Item.path?).getLast? with
        | none => rfl
        | some p => rfl
      rw [hscope]
      exact ih _

/-- The computed declarations are the declared ones. -/
theorem File.declares_declarationsFrom {f : File}
    (h : ∀ block ∈ blocksOfFile f, SoundBlock block) : f.Declares (declarationsFrom none f) where
  length := length_declarationsFrom none f
  each := by
    rintro before d after rfl
    refine ⟨d.meaning (scopeBehind before), ?_, d.declares_meaning (fun m hm block hb => ?_) before⟩
    · rw [declarationsFrom_append, Option.or_none,
        List.getElem?_append_right (Nat.le_of_eq (length_declarationsFrom ..)),
        length_declarationsFrom, Nat.sub_self]
      rfl
    · exact h block (mem_blocksOfFile (by simp) hm hb)

/-- Exactly the meaningful files have a meaning. -/
theorem meaning_eq_ok_iff {f : File} {out : List Declaration} :
    meaning f = .ok out ↔ f.Meaningful ∧ out = declarationsFrom none f := by
  have hblocks : (blocksOfFile f).findSome? blockFault = none ↔
      ∀ block ∈ blocksOfFile f, SoundBlock block := findSome?_blockFault_eq_none_iff
  have hnames : firstRepeated [] ((declarationsFrom none f).map (·.identifier)) = none ↔
      ((typesOf f).map (·.header.name)).Nodup := by
    rw [firstRepeated_nil_eq_none_iff, map_identifier_declarationsFrom]
  simp only [meaning]
  split
  · next fault hf =>
    refine iff_of_false nofun fun h => ?_
    rw [hblocks.mpr h.1.blocks] at hf
    cases hf
  · next hf =>
    split
    · next name hn =>
      refine iff_of_false nofun fun h => ?_
      rw [hnames.mpr h.1.distinct] at hn
      cases hn
    · next hn =>
      rw [Except.ok.injEq]
      exact ⟨fun h => ⟨⟨hblocks.mp hf, hnames.mp hn⟩, h.symm⟩, fun h => h.2.symm⟩

end KeyedAccess.Schema
