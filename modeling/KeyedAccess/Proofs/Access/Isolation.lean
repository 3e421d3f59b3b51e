import KeyedAccess.Proofs.Access.Refinement

/-!
# What keyed access touches

A step uses the attribute of one member and no other one. The name of a member that begins with two
underscores belongs to the mixin, so its attribute is not the one of this name: it can be that of
another member, even of a private one. Without such names every key stands for the attribute of its
own name, no key disturbs another one, and the attributes of all other names stay untouched.
-/

namespace KeyedAccess.Access

open Script Text Mixin

/-- The attributes after several steps. -/
def Dispatch.after {V : Type} (d : Dispatch) (attributes : Attributes V) :
    List (Step V) → Attributes V
  | [] => attributes
  | step :: rest => d.after (d.step attributes step).2 rest

/-- All along a run, a key uses the attribute that belongs to it, and no other one changes. -/
structure Dispatch.Touches (d : Dispatch) (attr : String → String) : Prop where
  /-- A value that is read is that of the attribute. -/
  read : ∀ {V : Type} (attributes : Attributes V) (steps : List (Step V)) (key : Key) (v : V),
    d.get (d.after attributes steps) key = .value v →
      ∃ name, key = .text name ∧ memoryOf (d.after attributes steps) (attr name) = some v
  /-- A successful assignment changes the attribute alone. -/
  assigned : ∀ {V : Type} (attributes : Attributes V) (steps : List (Step V)) (key : Key) (v : V)
    (state : Attributes V), (d.set (d.after attributes steps) key v).1 = .state state →
      (d.set (d.after attributes steps) key v).2 = state ∧ ∃ name, key = .text name ∧
        memoryOf state = Function.update (memoryOf (d.after attributes steps)) (attr name) (some v)
  /-- A failed assignment changes nothing. -/
  failed : ∀ {V : Type} (attributes : Attributes V) (steps : List (Step V)) (key : Key) (v : V),
    (∀ state, (d.set (d.after attributes steps) key v).1 ≠ .state state) →
      (d.set (d.after attributes steps) key v).2 = d.after attributes steps

/-- All along a run, writing one key never changes what a different key reads. -/
def Dispatch.Independent (d : Dispatch) : Prop :=
  ∀ {V : Type} (attributes : Attributes V) (steps : List (Step V)) (key other : Key) (v : V),
    key ≠ other → d.get (d.set (d.after attributes steps) key v).2 other =
      d.get (d.after attributes steps) other

/-- Two objects have the same attributes, except perhaps for one. -/
def AgreeOff {V : Type} (name : String) (a b : Attributes V) : Prop :=
  ∀ other, other ≠ name → memoryOf a other = memoryOf b other

/-- No run changes an attribute, and nothing depends on it. -/
structure Dispatch.Spares (d : Dispatch) (name : String) : Prop where
  /-- It keeps its value. -/
  kept : ∀ {V : Type} (attributes : Attributes V) (steps : List (Step V)),
    memoryOf (d.after attributes steps) name = memoryOf attributes name
  /-- What is read and what other attributes become does not depend on it. -/
  unread : ∀ {V : Type} (a b : Attributes V), AgreeOff name a b → ∀ steps,
    AgreeOff name (d.after a steps) (d.after b steps) ∧
      ∀ key, d.get (d.after a steps) key = d.get (d.after b steps) key

/-- A dispatch that uses only the attributes that are called like the names that can be used. -/
structure Dispatch.Isolated (d : Dispatch) (t : Descriptor) : Prop where
  /-- Every key uses the attribute of its own name. -/
  own : d.Touches id
  /-- The keys do not disturb one another. -/
  independent : d.Independent
  /-- The attribute of any other name, such as that of a private member, is spared. -/
  spared : ∀ name, (∀ p ∈ t.properties, p.readable ∨ p.writable → p.name ≠ name) → d.Spares name

section Store

variable {V : Type} {d : Dispatch} {s : KeyedStore}

/-- A store changes only the attributes of names that can be written. -/
theorem KeyedStore.step_of_ne {name : String} (hn : ∀ key ∈ s.writable, s.attr key ≠ name)
    (memory : Memory V) (step : Step V) : (s.step memory step).2 name = memory name := by
  cases step with
  | get key => rfl
  | set key v =>
    cases key with
    | text key =>
      rw [KeyedStore.step, KeyedStore.set]
      split
      · next hk => exact Function.update_of_ne (hn key hk).symm _ _
      · rfl
    | number | truth | nothing => rfl

/-- A step of a store changes two memories in the same way. -/
theorem KeyedStore.step_congr {name : String} {m m' : Memory V}
    (h : ∀ other, other ≠ name → m other = m' other) (step : Step V) :
    ∀ other, other ≠ name → (s.step m step).2 other = (s.step m' step).2 other := by
  intro other ho
  cases step with
  | get key => exact h other ho
  | set key v =>
    cases key with
    | text key =>
      rw [KeyedStore.step, KeyedStore.step, KeyedStore.set, KeyedStore.set]
      split
      · dsimp only
        rw [Function.update_apply, Function.update_apply, h other ho]
      · exact h other ho
    | number | truth | nothing => exact h other ho

/-- A run changes only the attributes of names that can be written. -/
theorem Dispatch.Implements.after_of_ne (h : d.Implements s) {name : String}
    (hn : ∀ key ∈ s.writable, s.attr key ≠ name) (attributes : Attributes V)
    (steps : List (Step V)) :
    memoryOf (d.after attributes steps) name = memoryOf attributes name := by
  induction steps generalizing attributes with
  | nil => rfl
  | cons step rest ih =>
    rw [Dispatch.after, ih, (h.step attributes step).2, KeyedStore.step_of_ne hn]

/-- A run keeps objects equal up to one attribute. -/
theorem Dispatch.Implements.after_agreeOff (h : d.Implements s) {name : String}
    {a b : Attributes V} (hab : AgreeOff name a b) (steps : List (Step V)) :
    AgreeOff name (d.after a steps) (d.after b steps) := by
  induction steps generalizing a b with
  | nil => exact hab
  | cons step rest ih =>
    refine ih fun other ho => ?_
    rw [(h.step a step).2, (h.step b step).2]
    exact KeyedStore.step_congr hab step other ho

/-- What a key reads depends only on the attribute of its name. -/
theorem Dispatch.Implements.get_congr (h : d.Implements s) {a b : Attributes V} {key : Key}
    (hab : ∀ name ∈ s.readable, key = .text name →
      memoryOf a (s.attr name) = memoryOf b (s.attr name)) : d.get a key = d.get b key := by
  rw [Dispatch.get, Dispatch.get]
  cases hf : d.reads.find? (·.covers key) with
  | none => rfl
  | some c =>
    cases key with
    | text name =>
      have hname := h.reads name
      rw [hf] at hname
      split at hname
      · next hr =>
        obtain ⟨ht, -⟩ := Prod.mk.inj (Option.some.inj hname)
        have hlookup : a.lookup c.target = b.lookup c.target := ht ▸ hab name hr rfl
        simp only [hlookup]
      · cases hname
    | number | truth | nothing =>
      rw [find?_covers_eq_none _ (by simp)] at hf
      cases hf

/-- An attribute that belongs to no name is spared. -/
theorem Dispatch.Implements.spares (h : d.Implements s) {name : String}
    (hr : ∀ key ∈ s.readable, s.attr key ≠ name) (hw : ∀ key ∈ s.writable, s.attr key ≠ name) :
    d.Spares name where
  kept attributes steps := h.after_of_ne hw attributes steps
  unread a b hab steps := by
    have hagree := h.after_agreeOff hab steps
    exact ⟨hagree, fun key => h.get_congr fun other ho _ => hagree _ (hr other ho)⟩

/-- Keys are independent if different names have different attributes. -/
theorem Dispatch.Implements.independent (h : d.Implements s)
    (hi : ∀ key ∈ s.writable, ∀ other ∈ s.readable, s.attr key = s.attr other → key = other) :
    d.Independent := by
  intro V attributes steps key other v hne
  refine h.get_congr fun name hname he => ?_
  rw [(h.set _ key v).2]
  cases key with
  | text key =>
    rw [KeyedStore.set]
    split
    · next hk =>
      refine Function.update_of_ne (fun ha => hne ?_) _ _
      rw [he, hi key hk name hname ha.symm]
    · rfl
  | number | truth | nothing => rfl

/-- A store that gives a value has read the attribute of a name. -/
theorem KeyedStore.exists_of_get {memory : Memory V} {key : Key} {v : V}
    (h : s.get memory key = .value v) :
    ∃ name ∈ s.readable, key = .text name ∧ memory (s.attr name) = some v := by
  cases key with
  | text name =>
    rw [KeyedStore.get] at h
    split at h
    · next hr =>
      split at h
      · next v' hv =>
        cases h
        exact ⟨name, hr, rfl, hv⟩
      · cases h
    · cases h
  | number | truth | nothing => cases h

/-- A store that succeeds in an assignment has changed the attribute of a name. -/
theorem KeyedStore.exists_of_set {memory memory' : Memory V} {key : Key} {v : V}
    (h : (s.set memory key v).1 = .state memory') :
    ∃ name ∈ s.writable, key = .text name ∧
      memory' = Function.update memory (s.attr name) (some v) := by
  cases key with
  | text name =>
    rw [KeyedStore.set] at h
    split at h
    · next hw =>
      cases h
      exact ⟨name, hw, rfl, rfl⟩
    · cases h
  | number | truth | nothing => cases h

/-- An assignment answers with the attributes that it leaves, or leaves those that were there. -/
theorem Dispatch.set_cases (d : Dispatch) (attributes : Attributes V) (key : Key) (v : V) :
    (d.set attributes key v).1 = .state (d.set attributes key v).2 ∨
      (∀ state, (d.set attributes key v).1 ≠ .state state) ∧
        (d.set attributes key v).2 = attributes := by
  rw [Dispatch.set]
  split
  · exact .inr ⟨by simp, rfl⟩
  · split
    · exact .inl rfl
    · split <;> exact .inr ⟨by simp, rfl⟩

/-- A step touches the attribute that belongs to its key. -/
theorem Dispatch.Implements.touches (h : d.Implements s) {attr : String → String}
    (hr : ∀ name ∈ s.readable, s.attr name = attr name)
    (hw : ∀ name ∈ s.writable, s.attr name = attr name) : d.Touches attr where
  read attributes steps key v hv := by
    have hget := h.get (d.after attributes steps) key
    rw [hv] at hget
    obtain ⟨name, hname, he, hm⟩ := KeyedStore.exists_of_get (Option.some.inj hget).symm
    exact ⟨name, he, hr name hname ▸ hm⟩
  assigned attributes steps key v state hs := by
    obtain hstate | ⟨hfail, -⟩ := d.set_cases (d.after attributes steps) key v
    · obtain rfl := Response.state.inj (hstate.symm.trans hs)
      have hset := (h.set (d.after attributes steps) key v).1
      rw [hstate] at hset
      obtain ⟨name, hname, he, hm⟩ := KeyedStore.exists_of_set (Option.some.inj hset).symm
      exact ⟨rfl, name, he, hw name hname ▸ hm⟩
    · exact absurd hs (hfail state)
  failed attributes steps key v hs := by
    obtain hstate | ⟨-, hkept⟩ := d.set_cases (d.after attributes steps) key v
    · exact absurd hstate (hs _)
    · exact hkept

/-- Where the store gives a value, the dispatch does. -/
theorem Dispatch.Implements.get_eq_value (h : d.Implements s) {attributes : Attributes V}
    {key : Key} {v : V} (hv : s.get (memoryOf attributes) key = .value v) :
    d.get attributes key = .value v := by
  have hget := h.get attributes key
  rw [hv] at hget
  cases hr : d.get attributes key with
  | value w =>
    rw [hr] at hget
    cases hget
    rfl
  | state | outOfRange | missing | beyond =>
    rw [hr] at hget
    cases hget

/-- If every key stands for the attribute of its own name, no other attribute belongs to a name that
can be read. -/
theorem Dispatch.Implements.attr_of_readable (h : d.Implements s) (ht : d.Touches id)
    {name : String} (hn : name ∈ s.readable) : s.attr name = name := by
  -- an object that has only the attribute of the name gives its value
  have hheld : memoryOf [(s.attr name, ())] (s.attr name) = some () := by simp [memoryOf]
  have hvalue : s.get (memoryOf [(s.attr name, ())]) (.text name) = .value () := by
    rw [KeyedStore.get, if_pos hn, hheld]
  obtain ⟨name', he, hm⟩ := ht.read [(s.attr name, ())] [] _ _ (h.get_eq_value hvalue)
  obtain rfl := Key.text.inj he
  refine Classical.byContradiction fun hne => ?_
  have hnone : memoryOf [(s.attr name, ())] name = none := by
    rw [memoryOf, List.lookup_cons, beq_false_of_ne fun h => hne h.symm]
    rfl
  cases hnone.symm.trans hm

/-- Nor does one to a name that can be written. -/
theorem Dispatch.Implements.attr_of_writable (h : d.Implements s) (ht : d.Touches id)
    {name : String} (hn : name ∈ s.writable) : s.attr name = name := by
  -- an object without attributes gets the one of the name
  have hafter := (h.set [] (.text name) ()).2
  rw [KeyedStore.set, if_pos hn] at hafter
  have hgiven : memoryOf (d.set [] (.text name) ()).2 (s.attr name) = some () := by
    rw [hafter]
    exact Function.update_self ..
  obtain hstate | ⟨-, hkept⟩ := d.set_cases [] (.text name) ()
  · obtain ⟨-, name', he, hm⟩ := ht.assigned [] [] _ _ _ hstate
    obtain rfl := Key.text.inj he
    refine Classical.byContradiction fun hne => ?_
    rw [hm, id_eq, Function.update_of_ne hne] at hgiven
    cases hgiven
  · rw [hkept] at hgiven
    cases hgiven

end Store

/-- The attribute that belongs to a name is the one of this name exactly if the name does not begin
with two underscores. -/
theorem attr_storeOf_iff {t : Descriptor} {name : String} :
    (storeOf t).attr name = name ↔ ¬ "__".toList <+: name.toList := by
  rw [storeOf]
  dsimp only
  split
  · next hb =>
    refine iff_of_false (fun he => ?_) (not_not_intro hb)
    have hlength := congrArg (fun s : String => s.toList.length) he
    simp only [String.toList_append, List.length_append] at hlength
    have hone : "_".toList.length = 1 := by decide
    omega
  · next hb => exact iff_of_true rfl hb

/-- If the mixin of a well-named declaration can be used and no name is special, it implements the
store of the declaration. -/
theorem implements_of_compile {d : Declaration} (hd : Schema.WellNamed d)
    (hn : ∀ m ∈ d.members, ¬ IsDunder m.name) {dispatch : Dispatch}
    (hc : compile (render d.describe triedSupport) = .ok dispatch) :
    dispatch.Implements (storeOf d.describe) := by
  obtain ⟨hf, -, rfl⟩ := (compile_render_eq_ok_iff (named_describe hd)).mp hc
  refine (plain_describe hd fun p hp hu => ⟨?_, ?_⟩).implements
  · rcases hu with hr | hw
    · exact hf.readable p (List.mem_filter.mpr ⟨hp, hr⟩)
    · exact hf.writable p (List.mem_filter.mpr ⟨hp, hw⟩)
  · obtain ⟨m, hm, rfl⟩ := List.mem_map.mp hp
    exact hn m (List.mem_filter.mp hm).1

/-- The names of a store are those of the properties that can be used. -/
theorem mem_storeOf_iff {t : Descriptor} {name : String} :
    name ∈ (storeOf t).readable ∨ name ∈ (storeOf t).writable ↔
      ∃ p ∈ t.properties, (p.readable ∨ p.writable) ∧ p.name = name := by
  simp only [storeOf, Descriptor.readable, Descriptor.writable, List.mem_map, List.mem_filter]
  constructor
  · rintro (⟨p, ⟨hp, hr⟩, he⟩ | ⟨p, ⟨hp, hw⟩, he⟩)
    · exact ⟨p, hp, .inl hr, he⟩
    · exact ⟨p, hp, .inr hw, he⟩
  · rintro ⟨p, hp, hr | hw, he⟩
    · exact .inl ⟨p, ⟨hp, hr⟩, he⟩
    · exact .inr ⟨p, ⟨hp, hw⟩, he⟩

/-- A dispatch that implements the store of a descriptor is isolated exactly if no name that can be
used begins with two underscores. -/
theorem Dispatch.Implements.isolated_iff {d : Dispatch} {t : Descriptor}
    (h : d.Implements (storeOf t)) :
    d.Isolated t ↔
      ∀ p ∈ t.properties, p.readable ∨ p.writable → ¬ "__".toList <+: p.name.toList := by
  constructor
  · intro hi p hp hu
    refine (attr_storeOf_iff (t := t)).mp ?_
    exact (mem_storeOf_iff.mpr ⟨p, hp, hu, rfl⟩).elim (h.attr_of_readable hi.own)
      (h.attr_of_writable hi.own)
  · intro hall
    have hown : ∀ name, name ∈ (storeOf t).readable ∨ name ∈ (storeOf t).writable →
        (storeOf t).attr name = name := by
      intro name hm
      obtain ⟨p, hp, hu, rfl⟩ := mem_storeOf_iff.mp hm
      exact attr_storeOf_iff.mpr (hall p hp hu)
    refine ⟨h.touches (fun name hr => hown name (.inl hr)) fun name hw => hown name (.inr hw),
      h.independent fun key hk other ho he => ?_, fun name hn => ?_⟩
    · rwa [hown key (.inr hk), hown other (.inl ho)] at he
    · have hother : ∀ key, key ∈ (storeOf t).readable ∨ key ∈ (storeOf t).writable →
          (storeOf t).attr key ≠ name := by
        intro key hm
        obtain ⟨p, hp, hu, he⟩ := mem_storeOf_iff.mp hm
        rw [hown key hm, ← he]
        exact hn p hp hu
      exact h.spares (fun key hr => hother key (.inl hr)) fun key hw => hother key (.inr hw)

/-- The mixin of a parsed declaration touches the attributes that belong to its names, and it is
isolated exactly if no name that can be used begins with two underscores. -/
theorem touches_store_and_isolated_iff {text : String} {out : List Declaration}
    (hp : Schema.parse text = .ok out) {d : Declaration} (hd : d ∈ out)
    (hn : ∀ m ∈ d.members, ¬ IsDunder m.name) {dispatch : Dispatch}
    (hc : compile (render d.describe triedSupport) = .ok dispatch) :
    dispatch.Touches (storeOf d.describe).attr ∧
      (dispatch.Isolated d.describe ↔ ∀ p ∈ d.describe.properties,
        p.readable ∨ p.writable → ¬ "__".toList <+: p.name.toList) := by
  have h := implements_of_compile (Schema.wellNamed_of_parse hp d hd) hn hc
  exact ⟨h.touches (fun _ _ => rfl) fun _ _ => rfl, h.isolated_iff⟩

/-- A class with a private property that is called like the attribute of a public one. -/
def vault : Schema.TypeDeclaration :=
  { header := ⟨[], .cls, "Vault"⟩
    parameters := none
    bases := []
    members :=
      [⟨[.access .everyone], .property "__key" (.mk ⟨"int", []⟩ [] [] false)
          [⟨.get, true⟩, ⟨.set, true⟩]⟩,
        ⟨[.access .owner], .property "_VaultIndexer__key" (.mk ⟨"int", []⟩ [] [] false)
          [⟨.get, true⟩, ⟨.set, true⟩]⟩] }

/-- Its mixin reads and changes the attribute of the private property. -/
theorem vault_not_isolated :
    (storeOf (vault.meaning none).describe).attr "__key" = "_VaultIndexer__key" ∧
      ∃ dispatch, compile (render (vault.meaning none).describe triedSupport) = .ok dispatch ∧
        dispatch.Touches (storeOf (vault.meaning none).describe).attr ∧
        ¬ dispatch.Isolated (vault.meaning none).describe := by
  have hm : Schema.meaning [.type vault] = .ok [vault.meaning none] := rfl
  have hf : Schema.File.WellFormed [.type vault] :=
    ⟨by decide +kernel, (Schema.meaning_eq_ok_iff.mp hm).1⟩
  have hp := Schema.File.parse_text hf
  have hd := List.mem_singleton_self (vault.meaning none)
  have hplain := plain_describe (Schema.wellNamed_of_parse hp _ hd) (by decide +kernel)
  obtain ⟨htouches, hisolated⟩ := touches_store_and_isolated_iff hp hd (by decide +kernel)
    hplain.compile_render
  refine ⟨by decide +kernel, _, hplain.compile_render, htouches, fun hi => ?_⟩
  exact hisolated.mp hi ⟨"__key", "int", true, true⟩ (by decide +kernel) (.inl rfl) (by decide)

end KeyedAccess.Access
