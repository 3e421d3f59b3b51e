import KeyedAccess.Proofs.Access.Companion
import KeyedAccess.Proofs.Access.Refinement
import KeyedAccess.Target.Language

/-!
# Keys follow the declared accessors

A key can be read exactly if the declaration says so: by a public property of this name with an
accessor for it, or by a positional parameter that no member of the body replaces. The same holds
for assignment. The accessors of both languages have exactly these keys.
-/

namespace KeyedAccess.Schema

/-- The name under which a member hides a positional parameter. -/
def MemberForm.name : MemberForm → String
  | .property name .. | .field name .. | .method name .. => name
  | .indexer .. => "this"

/-- The body has a public property of a name whose block contains an accessor. -/
def TypeDeclaration.Offers (d : TypeDeclaration) (name : String) (a : AccessorKind) : Prop :=
  ∃ m ∈ d.members, UsedBy m.modifiers .everyone ∧
    ∃ type block, m.form = .property name type block ∧ a ∈ accessorKinds block

/-- A record has a positional parameter of a name that no member of the body has. -/
structure TypeDeclaration.Positions (d : TypeDeclaration) (name : String) : Prop where
  /-- The type is a record. -/
  record : d.header.kind ∈ [.record, .recordClass, .recordStruct]
  /-- There is a parameter of this name. -/
  parameter : ∃ ps ∈ d.parameters, ∃ p ∈ ps, p.name = name
  /-- No member has this name. -/
  free : ∀ m ∈ d.members, m.form.name ≠ name

/-- A name can be read. -/
def TypeDeclaration.Gets (d : TypeDeclaration) (name : String) : Prop :=
  d.Offers name .get ∨ d.Positions name

/-- A name can be assigned. -/
def TypeDeclaration.Sets (d : TypeDeclaration) (name : String) : Prop :=
  d.Offers name .set ∨
    (d.header.kind = .recordStruct ∧ .constant ∉ d.header.modifiers) ∧ d.Positions name

/-- The first access modifier determines who may use a member. -/
theorem usedBy_iff {ms : List Modifier} {who : Accessibility} :
    UsedBy ms who ↔ accessibility ms = who := by
  refine ⟨fun h => ?_, fun h => h ▸ usedBy_accessibility ms⟩
  induction h with
  | @skip m ms who hm h ih =>
    have hskip : accessibility (m :: ms) = accessibility ms := by
      cases m with
      | access a => exact absurd rfl (hm a)
      | _ => rfl
    exact hskip.trans ih
  | here who ms => rfl
  | nobody => rfl

/-- A member has the name of its tree. -/
@[simp] theorem MemberTree.name_meaning (m : MemberTree) : m.meaning.name = m.form.name := by
  obtain ⟨ms, form⟩ := m
  cases form <;> rfl

/-- Values are assigned at any time exactly with an accessor for that. -/
theorem setterOf_eq_always_iff {block : List AccessorTree} :
    setterOf block = some .always ↔ .set ∈ accessorKinds block := by
  simp only [setterOf, accessorKinds]
  by_cases hs : AccessorKind.set ∈ block.map (·.kind)
  · simp [hs]
  · by_cases hi : AccessorKind.start ∈ block.map (·.kind) <;> simp [hs, hi]

/-- A member of a body is eligible exactly if it is a property that everybody may use. -/
theorem MemberTree.eligible_meaning_iff (m : MemberTree) :
    m.meaning.eligible = true ↔ UsedBy m.modifiers .everyone ∧
      ∃ name type block, m.form = .property name type block := by
  obtain ⟨ms, form⟩ := m
  rw [usedBy_iff]
  cases form <;> simp [MemberTree.meaning, Member.eligible]

/-- The body of a declaration gives the eligible members of a name that can be used in some way, if
a property can be used so exactly with an accessor. -/
theorem TypeDeclaration.exists_body_iff {d : TypeDeclaration} {name : String} {a : AccessorKind}
    {use : Member → Prop} (huse : ∀ ms name type block,
      use (MemberTree.meaning ⟨ms, .property name type block⟩) ↔ a ∈ accessorKinds block) :
    (∃ m ∈ d.members.map MemberTree.meaning, m.eligible = true ∧ use m ∧ m.name = name) ↔
      d.Offers name a := by
  constructor
  · rintro ⟨m, hm, he, hu, hn⟩
    obtain ⟨⟨ms, form⟩, ht, rfl⟩ := List.mem_map.mp hm
    obtain ⟨hused, name', type, block, hform⟩ := (MemberTree.eligible_meaning_iff _).mp he
    obtain rfl : form = .property name' type block := hform
    obtain rfl : name' = name := hn
    exact ⟨_, ht, hused, type, block, rfl, (huse ..).mp hu⟩
  · rintro ⟨⟨ms, form⟩, ht, hused, type, block, hform, ha⟩
    obtain rfl : form = .property name type block := hform
    exact ⟨_, List.mem_map_of_mem ht, (MemberTree.eligible_meaning_iff _).mpr ⟨hused, _, _, _, rfl⟩,
      (huse ..).mpr ha, rfl⟩

/-- Positional parameters become public properties that can be read. -/
theorem TypeDeclaration.of_mem_positional {d : TypeDeclaration} {declared : List Member}
    {m : Member} (h : m ∈ d.positional declared) :
    m.eligible = true ∧ m.hasGetter = true ∧ m.setter = some d.header.positionalSetter := by
  obtain ⟨-, ps, -, p, -, -, rfl⟩ := mem_positional_iff.mp h
  exact ⟨rfl, rfl, rfl⟩

/-- The kinds of records are those with positional properties. -/
theorem Kind.isRecord_iff {k : Kind} :
    k.isRecord = true ↔ k ∈ [.record, .recordClass, .recordStruct] := by
  cases k <;> decide

/-- They do so for exactly the names that no member has. -/
theorem TypeDeclaration.exists_positional_iff {d : TypeDeclaration} {name : String} :
    (∃ m ∈ d.positional (d.members.map MemberTree.meaning), m.name = name) ↔ d.Positions name := by
  have hfree : ∀ name, name ∉ (d.members.map MemberTree.meaning).map (·.name) ↔
      ∀ m ∈ d.members, m.form.name ≠ name := by
    simp only [List.map_map, List.mem_map, Function.comp_apply, MemberTree.name_meaning,
      not_exists, not_and, implies_true]
  constructor
  · rintro ⟨m, hm, rfl⟩
    obtain ⟨hr, ps, hps, p, hp, hnew, rfl⟩ := mem_positional_iff.mp hm
    exact ⟨Kind.isRecord_iff.mp hr, ⟨ps, hps, p, hp, rfl⟩, (hfree p.name).mp hnew⟩
  · rintro ⟨hr, ⟨ps, hps, p, hp, rfl⟩, hnew⟩
    have hmem := mem_positional_iff.mpr
      ⟨Kind.isRecord_iff.mpr hr, ps, hps, p, hp, (hfree p.name).mpr hnew, rfl⟩
    exact ⟨_, hmem, rfl⟩

/-- A declaration has an eligible member of a name that can be used in some way exactly if its body
offers one or a positional parameter becomes one. -/
theorem TypeDeclaration.exists_member_iff {d : TypeDeclaration} {scope : Option String}
    {name : String} {a : AccessorKind} {use : Member → Prop} {given : Prop}
    (huse : ∀ ms name type block,
      use (MemberTree.meaning ⟨ms, .property name type block⟩) ↔ a ∈ accessorKinds block)
    (hgiven : ∀ m : Member, m.hasGetter = true → m.setter = some d.header.positionalSetter →
      (use m ↔ given)) :
    (∃ m ∈ (d.meaning scope).members, m.eligible = true ∧ use m ∧ m.name = name) ↔
      d.Offers name a ∨ given ∧ d.Positions name := by
  rw [← d.exists_body_iff huse, ← d.exists_positional_iff]
  constructor
  · rintro ⟨m, hm, he, hu, hn⟩
    rcases List.mem_append.mp hm with hm | hm
    · obtain ⟨-, hg, hs⟩ := of_mem_positional hm
      exact .inr ⟨(hgiven m hg hs).mp hu, m, hm, hn⟩
    · exact .inl ⟨m, hm, he, hu, hn⟩
  · rintro (⟨m, hm, he, hu, hn⟩ | ⟨hg, m, hm, hn⟩)
    · exact ⟨m, List.mem_append_right _ hm, he, hu, hn⟩
    · obtain ⟨he, hr, hs⟩ := of_mem_positional hm
      exact ⟨m, List.mem_append_left _ hm, he, (hgiven m hr hs).mpr hg, hn⟩

/-- The names that can be read are the declared ones. -/
@[simp] theorem TypeDeclaration.mem_readable_iff {d : TypeDeclaration} {scope : Option String}
    {name : String} : name ∈ (d.meaning scope).describe.readable.map (·.name) ↔ d.Gets name := by
  have hmem : name ∈ (d.meaning scope).describe.readable.map (·.name) ↔
      ∃ m ∈ (d.meaning scope).members, m.eligible = true ∧ m.hasGetter = true ∧ m.name = name := by
    simp [Declaration.describe, Descriptor.readable, Member.toProperty, and_assoc]
  have hgiven : ∀ m : Member, m.hasGetter = true → m.setter = some d.header.positionalSetter →
      (m.hasGetter = true ↔ True) := fun m hg _ => iff_of_true hg trivial
  rw [hmem, d.exists_member_iff (a := .get) (fun _ _ _ _ => hasGet_iff) hgiven, true_and, Gets]

/-- So are the names that can be assigned. -/
@[simp] theorem TypeDeclaration.mem_writable_iff {d : TypeDeclaration} {scope : Option String}
    {name : String} : name ∈ (d.meaning scope).describe.writable.map (·.name) ↔ d.Sets name := by
  have hmem : name ∈ (d.meaning scope).describe.writable.map (·.name) ↔
      ∃ m ∈ (d.meaning scope).members,
        m.eligible = true ∧ m.setter = some .always ∧ m.name = name := by
    simp [Declaration.describe, Descriptor.writable, Member.toProperty, and_assoc]
  have hgiven : ∀ m : Member, m.hasGetter = true → m.setter = some d.header.positionalSetter →
      (m.setter = some .always ↔
        d.header.kind = .recordStruct ∧ .constant ∉ d.header.modifiers) := by
    intro m _ hs
    rw [hs, Option.some.injEq]
    exact d.header.positionallyGiven
  rw [hmem, d.exists_member_iff (a := .set) (fun _ _ _ _ => setterOf_eq_always_iff) hgiven, Sets]

end KeyedAccess.Schema

namespace KeyedAccess

/-! ## Clauses -/

/-- The keys of the clauses for reading that a language writes. -/
def Language.getKeys (l : Language) (t : Descriptor) : List String :=
  match l with
  | .csharp => (t.getClauses Companion.getArm).map (·.key)
  | .python => (t.getClauses Mixin.getCase).map (·.key)

/-- The keys of the clauses for assignment that a language writes. -/
def Language.setKeys (l : Language) (t : Descriptor) : List String :=
  match l with
  | .csharp => (t.setClauses Companion.setSection).map (·.key)
  | .python => (t.setClauses Mixin.setCase).map (·.key)

/-- Every language writes clauses for the names that can be read. -/
theorem Language.getKeys_eq (l : Language) (t : Descriptor) :
    l.getKeys t = t.readable.map (·.name) := by
  cases l <;> exact List.map_map

/-- Every language writes clauses for the names that can be assigned. -/
theorem Language.setKeys_eq (l : Language) (t : Descriptor) :
    l.setKeys t = t.writable.map (·.name) := by
  cases l <;> exact List.map_map

namespace Access

/-- A dispatch has a case for reading a key. -/
def Dispatch.Reads (d : Dispatch) (key : String) : Prop :=
  ∃ c ∈ d.reads, c.covers (.text key) = true

/-- A dispatch has a case for assigning to a key. -/
def Dispatch.Writes (d : Dispatch) (key : String) : Prop :=
  ∃ c ∈ d.writes, c.covers (.text key) = true

/-- The cases for members with names in ASCII cover exactly these names. -/
theorem exists_covers_iff {t : Descriptor} {properties : List Property}
    (h : ∀ p ∈ properties, Schema.IsName p.name) {key : String} :
    (∃ c ∈ properties.map fun p => caseFor t p.name, c.covers (.text key) = true) ↔
      key ∈ properties.map (·.name) := by
  constructor
  · rintro ⟨c, hc, hk⟩
    obtain ⟨p, hp, rfl⟩ := List.mem_map.mp hc
    obtain ⟨he, -⟩ := covers_caseFor.mp hk
    exact List.mem_map.mpr ⟨p, hp, (Key.text.inj he).symm⟩
  · intro hk
    obtain ⟨p, hp, rfl⟩ := List.mem_map.mp hk
    exact ⟨_, List.mem_map_of_mem hp, covers_caseFor.mpr ⟨rfl, isNarrow_of_isName (h p hp)⟩⟩

/-- The accessors of a descriptor in both languages have exactly given keys. -/
structure HasKeys (t : Descriptor) (gets sets : String → Prop) : Prop where
  /-- There are clauses for exactly the keys that can be read. -/
  read : ∀ (l : Language) (key : String), key ∈ l.getKeys t ↔ gets key
  /-- There are clauses for exactly the keys that can be assigned. -/
  assigned : ∀ (l : Language) (key : String), key ∈ l.setKeys t ↔ sets key
  /-- If the mixin can be used, its cases are for these keys. -/
  mixin : ∀ d, compile (Mixin.render t triedSupport) = .ok d →
    ∀ key, (d.Reads key ↔ gets key) ∧ (d.Writes key ↔ sets key)
  /-- If the names can be written in the companion, its arms and sections are for these keys. -/
  companion : ∀ (h : Companion.Nameable t) (key : String),
    ((∃ arm ∈ (Companion.partOf h).getter.arms, arm.key.word = key) ↔ gets key) ∧
      ((∃ block ∈ (Companion.partOf h).setter.sections, block.key.word = key) ↔ sets key)

/-- The accessors for a well-named declaration have the names of the members as keys. -/
theorem hasKeys_describe {d : Declaration} (hd : Schema.WellNamed d) :
    HasKeys d.describe (· ∈ d.describe.readable.map (·.name))
      (· ∈ d.describe.writable.map (·.name)) where
  read l key := by rw [l.getKeys_eq]
  assigned l key := by rw [l.setKeys_eq]
  mixin dispatch hc key := by
    obtain ⟨-, -, rfl⟩ := (compile_render_eq_ok_iff (named_describe hd)).mp hc
    have hnames := isName_of_mem_describe hd
    exact ⟨exists_covers_iff fun p hp => hnames p (List.mem_filter.mp hp).1,
      exists_covers_iff fun p hp => hnames p (List.mem_filter.mp hp).1⟩
  companion h key := by
    have harms : (Companion.getterOf h).arms.map (·.key.word) =
        d.describe.readable.map (·.name) := by
      have hkeys := congrArg (List.map Clause.key) (Companion.clauses_arms h)
      rw [List.map_map, Descriptor.getClauses, List.map_map] at hkeys
      exact hkeys
    have hsections : (Companion.setterOf h).sections.map (·.key.word) =
        d.describe.writable.map (·.name) := by
      have hkeys := congrArg (List.map Clause.key) (Companion.clauses_sections h)
      rw [List.map_map, Descriptor.setClauses, List.map_map] at hkeys
      exact hkeys
    rw [← harms, ← hsections]
    exact ⟨List.mem_map.symm, List.mem_map.symm⟩

/-- The accessors for the declaration of a tree have the keys that the tree declares. -/
theorem hasKeys_meaning {d : Schema.TypeDeclaration} {scope : Option String}
    (hd : Schema.WellNamed (d.meaning scope)) :
    HasKeys (d.meaning scope).describe d.Gets d.Sets where
  read l key := ((hasKeys_describe hd).read l key).trans d.mem_readable_iff
  assigned l key := ((hasKeys_describe hd).assigned l key).trans d.mem_writable_iff
  mixin dispatch hc key := by
    obtain ⟨hr, hw⟩ := (hasKeys_describe hd).mixin dispatch hc key
    exact ⟨hr.trans d.mem_readable_iff, hw.trans d.mem_writable_iff⟩
  companion h key := by
    obtain ⟨hr, hw⟩ := (hasKeys_describe hd).companion h key
    exact ⟨hr.trans d.mem_readable_iff, hw.trans d.mem_writable_iff⟩

/-- So have those for all declarations of a file, in order. -/
theorem forall₂_hasKeys {f : Schema.File} {scope : Option String}
    (h : ∀ d ∈ Schema.declarationsFrom scope f, Schema.WellNamed d) :
    List.Forall₂ (fun tree d => HasKeys d.describe tree.Gets tree.Sets)
      (Schema.typesOf f) (Schema.declarationsFrom scope f) := by
  induction f generalizing scope with
  | nil => exact .nil
  | cons item f ih =>
    cases item with
    | scope path terminated => exact ih h
    | type d =>
      exact .cons (hasKeys_meaning (h _ List.mem_cons_self))
        (ih fun d hd => h d (List.mem_cons_of_mem _ hd))

/-- The accessors for the declarations of a parsed text have exactly the keys that the declared
accessors and the positional parameters give. -/
theorem hasKeys_of_parse {text : String} {out : List Declaration}
    (h : Schema.parse text = .ok out) :
    ∃ f, Schema.readFile text.toList = .ok f ∧
      List.Forall₂ (fun tree d => HasKeys d.describe tree.Gets tree.Sets)
        (Schema.typesOf f) out := by
  obtain ⟨f, hf, hm⟩ := Schema.exists_readFile_of_parse h
  obtain ⟨-, rfl⟩ := Schema.meaning_eq_ok_iff.mp hm
  exact ⟨f, hf, forall₂_hasKeys (Schema.wellNamed_of_parse h)⟩

/-- A structure whose body hides one of its two parameters and starts a further property. -/
def point : Schema.TypeDeclaration :=
  { header := ⟨[.augmentable], .recordStruct, "Point"⟩
    parameters := some [⟨"X", .mk ⟨"int", []⟩ [] [] false⟩, ⟨"Y", .mk ⟨"int", []⟩ [] [] false⟩]
    bases := []
    members :=
      [⟨[.access .owner], .field "Y" (.mk ⟨"int", []⟩ [] [] false) true⟩,
        ⟨[], .property "Z" (.mk ⟨"int", []⟩ [] [] false) [⟨.get, true⟩, ⟨.start, true⟩]⟩] }

/-- The parameter that is not hidden can be assigned, the other one cannot even be read, and the
property can only be read. -/
theorem hasKeys_point :
    Schema.parse (Schema.File.text [.type point]) = .ok [point.meaning none] ∧
      HasKeys (point.meaning none).describe point.Gets point.Sets ∧
      point.Sets "X" ∧ ¬ point.Gets "Y" ∧ point.Gets "Z" ∧ ¬ point.Sets "Z" := by
  have hm : Schema.meaning [.type point] = .ok [point.meaning none] := rfl
  have hf : Schema.File.WellFormed [.type point] :=
    ⟨by decide +kernel, (Schema.meaning_eq_ok_iff.mp hm).1⟩
  have hparse := Schema.File.parse_text hf
  obtain ⟨f, hr, hall⟩ := hasKeys_of_parse hparse
  obtain rfl := Except.ok.inj (hr.symm.trans (Schema.File.readFile_text hf.names))
  obtain ⟨hkeys, -⟩ := List.forall₂_cons.mp hall
  have hgets (name : String) :
      name ∈ (point.meaning none).describe.readable.map (·.name) ↔ point.Gets name :=
    point.mem_readable_iff
  have hsets (name : String) :
      name ∈ (point.meaning none).describe.writable.map (·.name) ↔ point.Sets name :=
    point.mem_writable_iff
  refine ⟨hparse, hkeys, (hsets "X").mp (by decide), (hgets "Y").not.mp (by decide),
    (hgets "Z").mp (by decide), (hsets "Z").not.mp (by decide)⟩

end Access

end KeyedAccess
