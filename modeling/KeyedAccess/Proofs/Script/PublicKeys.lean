import KeyedAccess.Proofs.Access.Compiling
import KeyedAccess.Proofs.Access.Declared
import KeyedAccess.Proofs.Generation
import KeyedAccess.Proofs.Script.Bindings
import KeyedAccess.Proofs.Text.Normal

/-!
# The keys of class sources

However often a class body binds a name, and in whatever ways, the name is one key at most. A key is
public and can be read, so generating an accessor warns of nothing and every key has its clause.

Main statement: the keys of the classes of a source, and what is generated for them.
-/

namespace KeyedAccess.Script

/-! ## Members that follow their names -/

/-- A member that is private exactly if its name says so, and that can be read if it is a
property. -/
structure FollowsName (m : Member) : Prop where
  /-- The name says who may use the member. -/
  accessibility : m.accessibility = accessibilityOfName m.name
  /-- A property can be read. -/
  readable : m.kind = .property → m.hasGetter = true

variable {frozen : Bool} {s : Statement} {contributions : List Contribution} {n : String}

/-- Every statement defines such members. -/
theorem Contributes.followsName (h : Contributes frozen s contributions) {m : Member}
    (hm : .defines m ∈ contributions) : FollowsName m := by
  cases h with
  | declared value hdeclared =>
    cases List.mem_singleton.mp hm
    rcases declaredMember_cases hdeclared with
      ⟨-, _, -, rfl⟩ | ⟨_, -, _, -, rfl⟩ | ⟨_, _, -, -, _, -, rfl⟩ <;> exact ⟨rfl, fun _ => rfl⟩
  | assigned targets value =>
    obtain ⟨name, -, hname⟩ := List.mem_map.mp hm
    cases hname
    exact ⟨rfl, fun _ => rfl⟩
  | read =>
    cases List.mem_singleton.mp hm
    exact ⟨rfl, fun _ => rfl⟩
  | function | writes => cases List.mem_singleton.mp hm
  | other | rest => cases hm

private theorem followsName_of_mem {body : List Statement} {collected : List (List Contribution)}
    (h : List.Forall₂ (Contributes frozen) body collected) {m : Member}
    (hm : .defines m ∈ collected.flatten) : FollowsName m := by
  induction h with
  | nil => cases hm
  | cons hfirst _ ih =>
    rcases List.mem_append.mp hm with hm | hm
    · exact hfirst.followsName hm
    · exact ih hm

private theorem followsName_foldl (h : ∀ m, .defines m ∈ contributions → FollowsName m) :
    ∀ m ∈ contributions.foldl (entryAfter n) none, FollowsName m := by
  induction contributions using List.reverseRecOn with
  | nil =>
    intro m hm
    cases hm
  | append_singleton contributions last ih =>
    have hbefore := ih fun m hm => h m (List.mem_append_left _ hm)
    rw [List.foldl_append, List.foldl_cons, List.foldl_nil]
    cases last with
    | defines m =>
      rw [entryAfter]
      split
      next =>
        rintro _ ⟨⟩
        exact h m (List.mem_append_right _ List.mem_cons_self)
      next => exact hbefore
    | adds m => exact hbefore
    | writes name =>
      rw [entryAfter]
      split
      next =>
        intro m hm
        obtain ⟨old, hold, rfl⟩ := Option.map_eq_some_iff.mp hm
        exact ⟨(hbefore old hold).accessibility, (hbefore old hold).readable⟩
      next => exact hbefore

/-! ## Keys of a class -/

variable {module : Option String} {d : Declaration}

/-- The keys of a class are distinct, and each of them is public and can be read. -/
structure PublicKeys (t : Descriptor) : Prop where
  /-- No two properties have the same name. -/
  distinct : (t.properties.map (·.name)).Nodup
  /-- No name is that of a private member. -/
  shown : ∀ p ∈ t.properties, p.name.toList.head? ≠ some '_'
  /-- Every property can be read. -/
  readable : ∀ p ∈ t.properties, p.readable = true

private theorem head_ne_of_accessibilityOfName (h : accessibilityOfName n = .everyone) :
    n.toList.head? ≠ some '_' := by
  intro hhead
  rw [accessibilityOfName, hhead] at h
  cases h

/-- A member that keyed access reaches is a property that everybody may use. -/
theorem public_of_eligible {m : Member} (h : m.eligible = true) :
    m.kind = .property ∧ m.accessibility = .everyone := by
  simp only [Member.eligible, Bool.and_eq_true, beq_iff_eq] at h
  exact h.1

/-- A class has such keys. -/
theorem publicKeys_of_declaration (h : s.declaration module = .ok (some d)) :
    PublicKeys d.describe := by
  cases s with
  | «class» decorators name bases named body =>
    obtain ⟨collected, hcollected, hproperties⟩ := filter_properties_of_declaration h
    have hmade : ∀ p ∈ d.describe.properties,
        ∃ m, FollowsName m ∧ m.eligible = true ∧ p = m.toProperty := by
      intro p hp
      have hfilter : p ∈ d.describe.properties.filter (·.name == p.name) :=
        List.mem_filter.mpr ⟨hp, beq_self_eq_true _⟩
      rw [hproperties] at hfilter
      obtain ⟨m, hm, rfl⟩ := List.mem_map.mp hfilter
      obtain ⟨hentry, heligible⟩ := Option.filter_eq_some_iff.mp (Option.mem_toList.mp hm)
      refine ⟨m, followsName_foldl (fun m hm => ?_) m hentry, heligible, rfl⟩
      exact followsName_of_mem hcollected hm
    refine ⟨List.nodup_iff_count_le_one.mpr fun n => ?_, fun p hp => ?_, fun p hp => ?_⟩
    · have hcount : (d.describe.properties.map (·.name)).count n =
          (d.describe.properties.filter (·.name == n)).length := by
        rw [List.count, List.countP_map, List.countP_eq_length_filter]
        rfl
      rw [hcount, hproperties, List.length_map]
      exact Option.length_toList_le
    · obtain ⟨m, hm, heligible, rfl⟩ := hmade p hp
      exact head_ne_of_accessibilityOfName
        (hm.accessibility.symm.trans (public_of_eligible heligible).2)
    · obtain ⟨m, hm, heligible, rfl⟩ := hmade p hp
      exact hm.readable (public_of_eligible heligible).1
  | _ => cases h

/-! ## What is generated -/

/-- A step after another one leaves the records of both. -/
theorem of_mem_log_andThen {α β : Type} {first : Outcome α} {next : α → Outcome β} {r : Record}
    (h : r ∈ (first.andThen next).log) :
    r ∈ first.log ∨ ∃ value, first.result = .ok value ∧ r ∈ (next value).log := by
  rw [Outcome.andThen] at h
  split at h
  next => exact .inl h
  next value hvalue => exact (List.mem_append.mp h).imp_right fun h => ⟨value, hvalue, h⟩

/-- Generating an accessor for such keys warns of nothing. -/
theorem PublicKeys.level_ne_warning (h : PublicKeys d.describe) (language : String)
    (options : List (String × String)) :
    ∀ r ∈ (generate d language options).log, r.level ≠ .warning := by
  have hsilent : duplicateRecords d.describe = [] := by
    rw [duplicateRecords, Descriptor.duplicates, repeated_eq_nil_iff.mpr h.distinct]
    rfl
  intro r hr
  rcases of_mem_log_andThen hr with hr | ⟨_, -, hr⟩
  · rw [hsilent] at hr
    cases List.mem_singleton.mp hr
    exact Level.noConfusion
  · split at hr
    next => cases hr
    next target hfind =>
      rcases of_mem_log_andThen hr with hr | ⟨_, -, hr⟩
      · rw [synthesize, hfind] at hr
        cases List.mem_singleton.mp hr
        exact Level.noConfusion
      · cases hr

/-- With options that the language takes there is an accessor. -/
theorem exists_generate {target : Language} {options : List (String × String)}
    (h : ∀ o ∈ options, o.1 ∈ target.optionNames) :
    ∃ accessor, (generate d target.name options).result = .ok accessor ∧
      target.render options d.describe = .ok accessor.source := by
  obtain ⟨source, hsource⟩ : ∃ source, target.render options d.describe = .ok source := by
    have hnone : options.find? (fun o => !target.optionNames.contains o.1) = none := by
      refine List.find?_eq_none.mpr fun o ho => ?_
      simpa using h o ho
    unfold Language.render
    rw [hnone]
    cases target <;> exact ⟨_, rfl⟩
  refine ⟨⟨d.identifier, target.name, target.fileName d.identifier, source⟩, ?_, hsource⟩
  refine Outcome.andThen_eq_ok.mpr ⟨(), rfl, ?_⟩
  rw [target.find_name]
  refine Outcome.andThen_eq_ok.mpr ⟨source, ?_, rfl⟩
  rw [synthesize, target.find_name]
  exact hsource

/-- Every key has a clause that reads it. -/
theorem PublicKeys.getKeys_eq {t : Descriptor} (h : PublicKeys t) (target : Language) :
    target.getKeys t = t.properties.map (·.name) := by
  rw [target.getKeys_eq, Descriptor.readable, List.filter_eq_self.mpr h.readable]

/-- A name that begins with no underscore is an attribute of its own in every class. -/
theorem attributeIn_of_head {name : String} (h : name.toList.head? ≠ some '_') (cls : String) :
    Access.attributeIn cls name = name := by
  refine if_neg fun hmangled => ?_
  simp only [Bool.and_eq_true, List.isPrefixOf_iff_prefix] at hmangled
  obtain ⟨rest, hrest⟩ := hmangled.1.1
  exact h (by rw [← hrest]; rfl)

/-- The normal form of an identifier begins with an underscore once it is normalized again only if
it did so before. -/
theorem IsName.head_nameOf {name : String} (h : IsName name)
    (hhead : name.toList.head? ≠ some '_') : (nameOf name.toList).toList.head? ≠ some '_' := by
  obtain ⟨word, hword, rfl⟩ := h
  have hform := Text.isFormPoint_of_mem_compatibilityForm fun c hc =>
    Text.isIdentifierChar_of_mem hword hc
  rw [nameOf, String.toList_ofList] at hhead ⊢
  rw [nameOf, String.toList_ofList]
  cases hchars : Text.compatibilityForm word with
  | nil => decide
  | cons c rest =>
    rw [hchars] at hhead hform
    have hc := Text.isFormPoint_iff.mp (hform c List.mem_cons_self)
    exact Text.head?_compatibilityForm (fun h => hhead (congrArg some h)) hc.2.2

/-- In a source that is parsed, the keys of every class are distinct, none begins with an
underscore, and each can be read. So no language warns of anything, with the options that a language
takes it gives an accessor, and every key has one clause that reads it. No class changes what the
name of a key stands for, and the attribute that a mixin uses for it is its name in normal form. -/
theorem keys_of_parse {text : String} {module : Option String} {out : List Declaration}
    (h : parse text module = .ok out) {d : Declaration} (hd : d ∈ out) :
    PublicKeys d.describe ∧
    (∀ (target : Language) (options : List (String × String)),
      (∀ r ∈ (generate d target.name options).log, r.level ≠ .warning) ∧
      ((∀ o ∈ options, o.1 ∈ target.optionNames) →
        ∃ accessor, (generate d target.name options).result = .ok accessor ∧
          target.render options d.describe = .ok accessor.source) ∧
      target.getKeys d.describe = d.describe.properties.map (·.name)) ∧
    ∀ p ∈ d.describe.properties, (∀ cls, Access.attributeIn cls p.name = p.name) ∧
      Access.attributeFor d.describe p.name = nameOf p.name.toList := by
  obtain ⟨-, decorators, bases, named, body, collected, hs, -, -, -⟩ := named_of_parse h hd
  have hkeys := publicKeys_of_declaration hs
  refine ⟨hkeys, fun target options => ⟨hkeys.level_ne_warning target.name options,
    exists_generate, hkeys.getKeys_eq target⟩, fun p hp => ?_⟩
  have hname : IsName p.name := by
    obtain ⟨m, hm, rfl⟩ := List.mem_map.mp hp
    exact (isName_of_parse h hd).2 m (List.mem_filter.mp hm).1
  have hhead := hkeys.shown p hp
  exact ⟨attributeIn_of_head hhead, attributeIn_of_head (hname.head_nameOf hhead) _⟩

/-- A class that binds a name in three ways. -/
def meterSource : String :=
  "class Meter:\n" ++
  "    level = 0\n" ++
  "    level: int\n" ++
  "    __unit: str\n" ++
  "    @property\n" ++
  "    def level(self) -> float: pass\n"

/-- The declaration of this class. -/
def meter : Declaration :=
  { identifier := "Meter"
    members := [{ name := "level", type := "float", setter := none },
      { name := "__unit", type := "str", accessibility := .owner }] }

/-- Only the last binding of the name is a key, and the private name is none. -/
theorem keys_of_meter :
    parse meterSource none = .ok [meter] ∧
      meter.describe.properties = [⟨"level", "float", true, false⟩] ∧
      PublicKeys meter.describe ∧
      ∃ accessor, (generate meter "python" []).result = .ok accessor := by
  have hparse : parse meterSource none = .ok [meter] := eq_ok_of_toOption (by decide +kernel)
  obtain ⟨hkeys, hgenerate, -⟩ := keys_of_parse hparse List.mem_cons_self
  obtain ⟨accessor, haccessor, -⟩ := (hgenerate .python []).2.1 fun _ h => absurd h List.not_mem_nil
  exact ⟨hparse, rfl, hkeys, accessor, haccessor⟩

end KeyedAccess.Script
