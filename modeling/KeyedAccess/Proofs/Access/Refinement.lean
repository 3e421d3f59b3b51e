import KeyedAccess.Proofs.Access.Keys
import KeyedAccess.Proofs.Schema.Names
import KeyedAccess.Proofs.Schema.Parsing
import Mathlib.Data.List.TakeWhile
import Mathlib.Logic.Function.Basic

/-!
# Mixins as keyed stores

A keyed store reads and assigns the attributes of an object by the names of its members. The mixin
of a parsed declaration answers every sequence of steps as the store does: each step keeps the
attributes of the object equal to the memory of the store, so the answers agree all along a run.
-/

namespace KeyedAccess.Access

open Script Text Mixin

/-- The values of attributes. -/
abbrev Memory (V : Type) := String → Option V

/-- What a keyed store answers. -/
inductive Answer (V : Type) where
  /-- The value of an attribute. -/
  | value (v : V)
  /-- The memory after an assignment. -/
  | state (memory : Memory V)
  /-- No member has the key as its name. -/
  | outOfRange (key : Key)
  /-- The attribute has no value. -/
  | missing (name : String)

/-- A keyed store: the names of the members that can be read and written, and their attributes. -/
structure KeyedStore where
  /-- The names of the members that can be read. -/
  readable : List String
  /-- The names of the members that can be written. -/
  writable : List String
  /-- The attribute of a member. -/
  attr : String → String

/-- Reads a key. -/
def KeyedStore.get {V : Type} (s : KeyedStore) (memory : Memory V) : Key → Answer V
  | .text name =>
    if name ∈ s.readable then
      match memory (s.attr name) with
      | some v => .value v
      | none => .missing (s.attr name)
    else .outOfRange (.text name)
  | key => .outOfRange key

/-- Assigns a value to a key. -/
def KeyedStore.set {V : Type} (s : KeyedStore) (memory : Memory V) (key : Key) (v : V) :
    Answer V × Memory V :=
  match key with
  | .text name =>
    if name ∈ s.writable then
      let after := Function.update memory (s.attr name) (some v)
      (.state after, after)
    else (.outOfRange (.text name), memory)
  | key => (.outOfRange key, memory)

/-- One step: the answer and the memory afterwards. -/
def KeyedStore.step {V : Type} (s : KeyedStore) (memory : Memory V) :
    Step V → Answer V × Memory V
  | .get key => (s.get memory key, memory)
  | .set key v => s.set memory key v

/-- The answers of several steps, one after the other. -/
def KeyedStore.run {V : Type} (s : KeyedStore) (memory : Memory V) :
    List (Step V) → List (Answer V)
  | [] => []
  | step :: rest => (s.step memory step).1 :: s.run (s.step memory step).2 rest

/-- The name of the mixin without the underscores in front. -/
def plainClassName (identifier : String) : String :=
  String.ofList ((className identifier).toList.dropWhile (· == '_'))

/-- The store for a descriptor. A name that begins with two underscores belongs to the mixin. -/
def storeOf (t : Descriptor) : KeyedStore where
  readable := t.readable.map (·.name)
  writable := t.writable.map (·.name)
  attr name :=
    if "__".toList <+: name.toList then "_" ++ plainClassName t.identifier ++ name else name

/-- A name that begins and ends with two underscores. -/
def IsDunder (name : String) : Prop := "__".toList <+: name.toList ∧ "__".toList <:+ name.toList

instance (name : String) : Decidable (IsDunder name) := by
  unfold IsDunder
  infer_instance

/-- The attributes of an object as a memory. -/
def memoryOf {V : Type} (attributes : Attributes V) : Memory V := fun name => attributes.lookup name

/-- A response as an answer, where its attributes are seen as a memory. -/
def Response.observed {V : Type} : Response V → Option (Answer V)
  | .value v => some (.value v)
  | .state attributes => some (.state (memoryOf attributes))
  | .outOfRange e => some (.outOfRange e.name)
  | .missing name => some (.missing name)
  | .beyond _ => none

private theorem lookup_cons_eq_ite {V : Type} (first other : String) (v : V)
    (attributes : Attributes V) : List.lookup other ((first, v) :: attributes) =
      if other = first then some v else attributes.lookup other := by
  by_cases h : other = first
  · rw [if_pos h, h, List.lookup_cons_self]
  · rw [if_neg h, List.lookup_cons, beq_eq_false_iff_ne.mpr h]

/-- An assigned attribute has the new value, and the others keep theirs. -/
theorem lookup_assign {V : Type} (attributes : Attributes V) (name other : String) (v : V) :
    (assign attributes name v).lookup other =
      if other = name then some v else attributes.lookup other := by
  induction attributes with
  | nil => exact lookup_cons_eq_ite name other v []
  | cons entry attributes ih =>
    obtain ⟨first, old⟩ := entry
    by_cases hf : first = name
    · rw [assign, if_pos hf, lookup_cons_eq_ite, lookup_cons_eq_ite, hf]
      split <;> rfl
    · rw [assign, if_neg hf, lookup_cons_eq_ite, lookup_cons_eq_ite, ih]
      by_cases ho : other = first
      · have hne : other ≠ name := fun he => hf (ho.symm.trans he)
        rw [if_pos ho, if_neg hne, if_pos ho]
      · rw [if_neg ho, if_neg ho]

private theorem memoryOf_assign {V : Type} (attributes : Attributes V) (name : String) (v : V) :
    memoryOf (assign attributes name v) = Function.update (memoryOf attributes) name (some v) := by
  funext other
  rw [Function.update_apply]
  exact lookup_assign attributes name other v

/-- A dispatch that finds a direct case exactly for the names of a store. -/
structure Dispatch.Implements (d : Dispatch) (s : KeyedStore) : Prop where
  /-- The cases for reading. -/
  reads : ∀ name, (d.reads.find? (·.covers (.text name))).map (fun c => (c.target, c.direct)) =
    if name ∈ s.readable then some (s.attr name, true) else none
  /-- The cases for assignment. -/
  writes : ∀ name, (d.writes.find? (·.covers (.text name))).map (fun c => (c.target, c.direct)) =
    if name ∈ s.writable then some (s.attr name, true) else none

section Simulation

variable {V : Type} {d : Dispatch} {s : KeyedStore}

/-- Reading answers as the store does. -/
theorem Dispatch.Implements.get (h : d.Implements s) (attributes : Attributes V) (key : Key) :
    (d.get attributes key).observed = some (s.get (memoryOf attributes) key) := by
  cases key with
  | text name =>
    have hn := h.reads name
    rw [Dispatch.get, KeyedStore.get]
    by_cases hm : name ∈ s.readable
    · rw [if_pos hm] at hn
      obtain ⟨c, hc, he⟩ := Option.map_eq_some_iff.mp hn
      obtain ⟨ht, hd⟩ := Prod.mk.inj he
      rw [if_pos hm, hc, ← ht]
      simp only [hd, if_true, memoryOf]
      cases List.lookup c.target attributes <;> rfl
    · rw [if_neg hm] at hn
      rw [if_neg hm, Option.map_eq_none_iff.mp hn]
      rfl
  | number | truth | nothing =>
    rw [Dispatch.get, find?_covers_eq_none _ (by simp)]
    rfl

/-- Assignment answers as the store does, and leaves the same memory. -/
theorem Dispatch.Implements.set (h : d.Implements s) (attributes : Attributes V) (key : Key)
    (v : V) :
    (d.set attributes key v).1.observed = some (s.set (memoryOf attributes) key v).1 ∧
      memoryOf (d.set attributes key v).2 = (s.set (memoryOf attributes) key v).2 := by
  cases key with
  | text name =>
    have hn := h.writes name
    rw [Dispatch.set, KeyedStore.set]
    by_cases hm : name ∈ s.writable
    · rw [if_pos hm] at hn
      obtain ⟨c, hc, he⟩ := Option.map_eq_some_iff.mp hn
      obtain ⟨ht, hd⟩ := Prod.mk.inj he
      simp only [if_pos hm, hc, hd, if_true, ← ht, ← memoryOf_assign]
      exact ⟨rfl, trivial⟩
    · rw [if_neg hm] at hn
      simp only [if_neg hm, Option.map_eq_none_iff.mp hn]
      exact ⟨rfl, trivial⟩
  | number | truth | nothing =>
    rw [Dispatch.set, find?_covers_eq_none _ (by simp)]
    exact ⟨rfl, rfl⟩

/-- A step answers as the store does, and leaves the same memory. -/
theorem Dispatch.Implements.step (h : d.Implements s) (attributes : Attributes V)
    (step : Step V) :
    (d.step attributes step).1.observed = some (s.step (memoryOf attributes) step).1 ∧
      memoryOf (d.step attributes step).2 = (s.step (memoryOf attributes) step).2 := by
  cases step with
  | get key => exact ⟨h.get attributes key, rfl⟩
  | set key v => exact h.set attributes key v

/-- A run answers as the store does. -/
theorem Dispatch.Implements.run (h : d.Implements s) (attributes : Attributes V)
    (steps : List (Step V)) :
    (d.run attributes steps).map Response.observed =
      (s.run (memoryOf attributes) steps).map some := by
  induction steps generalizing attributes with
  | nil => rfl
  | cons step steps ih =>
    obtain ⟨hanswer, hmemory⟩ := h.step attributes step
    rw [Dispatch.run, KeyedStore.run, List.map_cons, List.map_cons, hanswer, ih, hmemory]

end Simulation

/-- A name of a parsed declaration is in ASCII. -/
theorem toNat_lt_of_isName {name : String} (h : Schema.IsName name) :
    ∀ c ∈ name.toList, c.toNat < 128 := by
  obtain ⟨first, rest, he, hf, hr⟩ := h
  intro c hc
  rw [he] at hc
  rcases List.mem_cons.mp hc with rfl | hc
  · refine (range_of_isAsciiNameChar ?_).2
    rw [isAsciiNameStart, Bool.or_eq_true] at hf
    rw [isAsciiNameChar, Char.isAlphanum, Bool.or_eq_true, Bool.or_eq_true]
    exact hf.imp Or.inl id
  · exact (range_of_isAsciiNameChar (hr c hc)).2

/-- So it is narrow. -/
theorem isNarrow_of_isName {name : String} (h : Schema.IsName name) : IsNarrow name :=
  fun c hc => Nat.lt_trans (toNat_lt_of_isName h c hc) (by decide)

/-- A name in ASCII stands for itself. -/
theorem nameOf_of_ascii {name : String} (h : ∀ c ∈ name.toList, c.toNat < 128) :
    nameOf name.toList = name := by
  rw [nameOf, compatibilityForm_of_ascii h, String.ofList_toList]

private theorem plainClassName_ne_nil (identifier : String) :
    (className identifier).toList.dropWhile (· == '_') ≠ [] := by
  intro h
  have hall := List.dropWhile_eq_nil_iff.mp h 'I' (by
    rw [className, String.toList_append]
    exact List.mem_append_right _ (by decide))
  exact absurd hall (by decide)

/-- The attribute of a member in ASCII is the one that the store keeps it under. -/
theorem attributeFor_eq {t : Descriptor} (ht : ∀ c ∈ t.identifier.toList, c.toNat < 128)
    {name : String} (hn : ∀ c ∈ name.toList, c.toNat < 128) (hd : ¬ IsDunder name) :
    attributeFor t name = (storeOf t).attr name := by
  have hclass : ∀ c ∈ (className t.identifier).toList, c.toNat < 128 := by
    have hsuffix : ∀ c ∈ "Indexer".toList, c.toNat < 128 := by decide
    intro c hc
    rw [className, String.toList_append] at hc
    exact (List.mem_append.mp hc).elim (ht c) (hsuffix c)
  rw [attributeFor, nameOf_of_ascii hclass, nameOf_of_ascii hn]
  have hplain : ((className t.identifier).toList.dropWhile (· == '_')).isEmpty = false :=
    List.isEmpty_eq_false_iff.mpr (plainClassName_ne_nil _)
  simp only [attributeIn, storeOf, hplain, Bool.not_false, Bool.and_true, Bool.and_eq_true,
    List.isPrefixOf_iff_prefix, Bool.not_eq_true']
  by_cases hb : "__".toList <+: name.toList
  · have he : "__".toList.isSuffixOf name.toList = false :=
      Bool.eq_false_iff.mpr fun he => hd ⟨hb, List.isSuffixOf_iff_suffix.mp he⟩
    rw [if_pos ⟨hb, he⟩, if_pos hb, ← String.toList_inj, String.toList_ofList]
    simp [plainClassName]
  · rw [if_neg fun h => hb h.1, if_neg hb]

/-- A descriptor whose names are those of a parsed declaration, and none of them is reserved or
special. -/
structure Plain (t : Descriptor) : Prop where
  /-- The name of the type is one of a declaration. -/
  identifier : Schema.IsName t.identifier
  /-- So is the name of every member. -/
  members : ∀ p ∈ t.properties, Schema.IsName p.name
  /-- The scope joins such names by dots. -/
  scope : ∀ scope ∈ t.scope, ∃ path : Schema.Path, path.Legible ∧ scope = path.text
  /-- A member that can be reached is neither reserved nor special. -/
  reachable : ∀ p ∈ t.properties, (p.readable ∨ p.writable) →
    p.name ∉ reservedWords ∧ ¬ IsDunder p.name

private theorem mem_of_mem_intercalate {α : Type} {joint : List α} {parts : List (List α)} {a : α}
    (h : a ∈ joint.intercalate parts) : a ∈ joint ∨ ∃ part ∈ parts, a ∈ part := by
  induction parts with
  | nil => cases h
  | cons part parts ih =>
    cases parts with
    | nil => exact Or.inr ⟨part, List.mem_cons_self, by simpa [List.intercalate] using h⟩
    | cons next parts =>
      rw [List.intercalate_cons_cons, List.mem_append, List.mem_append] at h
      rcases h with (h | h) | h
      · exact Or.inr ⟨part, List.mem_cons_self, h⟩
      · exact Or.inl h
      · rcases ih h with h | ⟨other, ho, hm⟩
        · exact Or.inl h
        · exact Or.inr ⟨other, List.mem_cons_of_mem _ ho, hm⟩

private theorem isIdentifierChar_of_mem_pathText {path : Schema.Path} (h : path.Legible) :
    ∀ c ∈ path.text.toList, IsIdentifierChar c ∨ c = '.' := by
  intro c hc
  rw [Schema.Path.text, String.toList_intercalate] at hc
  rcases mem_of_mem_intercalate hc with hc | ⟨part, hp, hc⟩
  · exact Or.inr (List.mem_singleton.mp hc)
  · obtain ⟨name, hn, rfl⟩ := List.mem_map.mp hp
    exact Or.inl (isIdentifierChar_of_mem (h name hn).isIdentifier hc)

/-- A descriptor with the names of a parsed declaration has identifiers as names. -/
theorem named_of_isName {t : Descriptor} (hi : Schema.IsName t.identifier)
    (hm : ∀ p ∈ t.properties, Schema.IsName p.name)
    (hs : ∀ scope ∈ t.scope, ∃ path : Schema.Path, path.Legible ∧ scope = path.text) : Named t where
  identifier := hi.isIdentifier
  scope scope h := by
    obtain ⟨path, hp, rfl⟩ := hs scope h
    exact isIdentifierChar_of_mem_pathText hp
  readable p hp := (hm p (List.mem_filter.mp hp).1).isIdentifier
  writable p hp := (hm p (List.mem_filter.mp hp).1).isIdentifier

/-- The names of a plain descriptor are identifiers. -/
theorem Plain.named {t : Descriptor} (ht : Plain t) : Named t :=
  named_of_isName ht.identifier ht.members ht.scope

/-- None of its names that are used is reserved. -/
theorem Plain.free {t : Descriptor} (ht : Plain t) : Free t where
  readable p hp := by
    obtain ⟨hm, hr⟩ := List.mem_filter.mp hp
    exact (ht.reachable p hm (Or.inl hr)).1
  writable p hp := by
    obtain ⟨hm, hw⟩ := List.mem_filter.mp hp
    exact (ht.reachable p hm (Or.inr hw)).1

/-- The case of a member leads to the attribute of the store. -/
theorem find?_caseFor_plain {t : Descriptor} (ht : ∀ c ∈ t.identifier.toList, c.toNat < 128)
    {properties : List Property}
    (hp : ∀ p ∈ properties, Schema.IsName p.name ∧ ¬ IsDunder p.name) (name : String) :
    ((properties.map fun p => caseFor t p.name).find? (·.covers (.text name))).map
        (fun c => (c.target, c.direct)) =
      if name ∈ properties.map (·.name) then some ((storeOf t).attr name, true) else none := by
  rw [find?_caseFor]
  by_cases hm : name ∈ properties.map (·.name)
  · obtain ⟨p, hpm, rfl⟩ := List.mem_map.mp hm
    obtain ⟨hname, hdunder⟩ := hp p hpm
    rw [if_pos ⟨hm, isNarrow_of_isName hname⟩, if_pos hm, Option.map_some, caseFor,
      attributeFor_eq ht (toNat_lt_of_isName hname) hdunder]
  · rw [if_neg fun h => hm h.1, if_neg hm]
    rfl

/-- The dispatch of a plain descriptor implements its store. -/
theorem Plain.implements {t : Descriptor} (ht : Plain t) :
    (dispatchFor t).Implements (storeOf t) where
  reads name := by
    refine find?_caseFor_plain (toNat_lt_of_isName ht.identifier) (fun p hp => ?_) name
    obtain ⟨hm, hr⟩ := List.mem_filter.mp hp
    exact ⟨ht.members p hm, (ht.reachable p hm (Or.inl hr)).2⟩
  writes name := by
    refine find?_caseFor_plain (toNat_lt_of_isName ht.identifier) (fun p hp => ?_) name
    obtain ⟨hm, hw⟩ := List.mem_filter.mp hp
    exact ⟨ht.members p hm, (ht.reachable p hm (Or.inr hw)).2⟩

/-- The mixin of a plain descriptor defines its dispatch. -/
theorem Plain.compile_render {t : Descriptor} (ht : Plain t) :
    compile (render t triedSupport) = .ok (dispatchFor t) := by
  refine (compile_render_eq_ok_iff ht.named).mpr ⟨ht.free, fun p hp he => ?_, rfl⟩
  obtain ⟨hm, hw⟩ := List.mem_filter.mp hp
  rw [nameOf_of_ascii (toNat_lt_of_isName (ht.members p hm))] at he
  have hdunder : IsDunder "__debug__" := by decide
  exact (ht.reachable p hm (Or.inr hw)).2 (he ▸ hdunder)

/-- The properties of a well-named declaration are named like its members. -/
theorem isName_of_mem_describe {d : Declaration} (hd : Schema.WellNamed d) :
    ∀ p ∈ d.describe.properties, Schema.IsName p.name := by
  intro p hp
  obtain ⟨m, hm, rfl⟩ := List.mem_map.mp hp
  exact hd.members m (List.mem_filter.mp hm).1

/-- The scope of a description is that of the declaration. -/
theorem path_of_mem_describe {d : Declaration} (hd : Schema.WellNamed d) :
    ∀ scope ∈ d.describe.scope, ∃ path : Schema.Path, path.Legible ∧ scope = path.text :=
  fun scope hs => hd.scope scope (Option.mem_filter_iff.mp hs).1

/-- So the names of its description are identifiers. -/
theorem named_describe {d : Declaration} (hd : Schema.WellNamed d) : Named d.describe :=
  named_of_isName hd.identifier (isName_of_mem_describe hd) (path_of_mem_describe hd)

/-- The descriptor of a well-named declaration is plain if no member that can be reached is reserved
or special. -/
theorem plain_describe {d : Declaration} (hd : Schema.WellNamed d)
    (hn : ∀ p ∈ d.describe.properties, (p.readable ∨ p.writable) →
      p.name ∉ reservedWords ∧ ¬ IsDunder p.name) : Plain d.describe where
  identifier := hd.identifier
  members := isName_of_mem_describe hd
  scope := path_of_mem_describe hd
  reachable := hn

/-- The mixin of a parsed declaration answers every sequence of steps as the keyed store of its
descriptor does. -/
theorem tryAccess_refines_store {text : String} {out : List Declaration}
    (hp : Schema.parse text = .ok out) {d : Declaration} (hd : d ∈ out)
    (hn : ∀ p ∈ d.describe.properties, (p.readable ∨ p.writable) →
      p.name ∉ reservedWords ∧ ¬ IsDunder p.name)
    {V : Type} (attributes : Attributes V) (steps : List (Step V)) :
    ∃ responses, tryAccess d.describe attributes steps = .ok responses ∧
      responses.map Response.observed =
        ((storeOf d.describe).run (memoryOf attributes) steps).map some := by
  have ht : Plain d.describe := plain_describe (Schema.wellNamed_of_parse hp d hd) hn
  have hrun := ht.implements.run attributes steps
  refine ⟨(dispatchFor d.describe).run attributes steps, ?_, hrun⟩
  unfold tryAccess
  rw [ht.compile_render]

/-- A class with a property that can be read and written, one that can only be read, and a private
one whose name is reserved. -/
def account : Schema.TypeDeclaration :=
  { header := ⟨[.augmentable], .cls, "Account"⟩
    parameters := none
    bases := []
    members :=
      [⟨[.access .everyone], .property "owner" (.mk ⟨"string", []⟩ [] [] false)
          [⟨.get, true⟩, ⟨.set, true⟩]⟩,
        ⟨[.access .everyone], .property "__key" (.mk ⟨"int", []⟩ [] [] false) [⟨.get, true⟩]⟩,
        ⟨[.access .owner], .property "lambda" (.mk ⟨"int", []⟩ [] [] false) [⟨.get, true⟩]⟩] }

/-- The mixin of this class is a keyed store for members of both kinds and for other keys. -/
theorem account_refines_store : ∃ responses,
    tryAccess (account.meaning none).describe [("owner", 1), ("_AccountIndexer__key", 7)]
      [.set (.text "owner") 2, .get (.text "owner"), .get (.text "__key"), .set (.text "__key") 8,
        .get (.text "lambda"), .get .nothing] = .ok responses ∧
    responses.map Response.observed = ((storeOf (account.meaning none).describe).run
      (memoryOf [("owner", 1), ("_AccountIndexer__key", 7)])
      [.set (.text "owner") 2, .get (.text "owner"), .get (.text "__key"), .set (.text "__key") 8,
        .get (.text "lambda"), .get .nothing]).map some := by
  have hm : Schema.meaning [.type account] = .ok [account.meaning none] := rfl
  have hf : Schema.File.WellFormed [.type account] :=
    ⟨by decide +kernel, (Schema.meaning_eq_ok_iff.mp hm).1⟩
  have hgap : Schema.Blank [' '] := .white rfl .nil
  have hp := Schema.parse_eq_declarationsFrom hf .nil
    (Schema.spaced_map hgap (by decide) (Schema.tokensOfFile [.type account])) (by
      rw [List.map_map]
      exact List.map_id _)
  exact tryAccess_refines_store hp (List.mem_singleton_self _) (by decide +kernel) _ _

end KeyedAccess.Access
