import KeyedAccess.Proofs.Script.Bindings
import KeyedAccess.Proofs.Text.Normal
import Mathlib.Data.List.Forall2
import Std.Data.HashMap.Lemmas
import Std.Data.String.ToNat

/-!
# Members by key

The members of a class can also be collected in a map, with a list of its keys that says in which
order they came. The key of a definition is the name, and the key of a function is made of its name
and of the place of its statement, behind a number sign. No name of a source holds that sign, so
the keys of functions are met by nothing else, and the map lists the same members as the slots.

Main statement: the members of a class of a source are those of such a map.
-/

namespace KeyedAccess.Script

/-! ## Registries -/

/-- The key of a function that is the statement at an index. -/
def functionKey (name : String) (index : Nat) : String := name ++ "#" ++ toString index

/-- Members by key, and the keys in the order in which they came. -/
structure Registry where
  /-- The members. -/
  members : Std.HashMap String Member
  /-- The keys. -/
  order : List String

namespace Registry

/-- The registry before any statement. -/
def empty : Registry := ⟨∅, []⟩

/-- Gives a key its member. A key that is there already keeps its place. -/
def add (r : Registry) (key : String) (m : Member) : Registry :=
  ⟨r.members.insert key m, if r.members.contains key then r.order else r.order ++ [key]⟩

/-- Adds a contribution of the statement at an index. -/
def contribute (index : Nat) (r : Registry) : Contribution → Registry
  | .defines m => r.add m.name m
  | .adds m => r.add (functionKey m.name index) m
  | .writes name =>
    match r.members[name]? with
    | some m => r.add name (assignable m)
    | none => r

/-- The members in the order of their keys. -/
def listed (r : Registry) : List Member := r.order.filterMap (r.members[·]?)

end Registry

/-- Adds what statements contribute, from the statement at an index on. -/
def registerFrom (index : Nat) (r : Registry) : List (List Contribution) → Registry
  | [] => r
  | contributions :: later =>
    registerFrom (index + 1) (contributions.foldl (Registry.contribute index) r) later

/-! ## Keys -/

/-- A name without the sign of the keys of functions. -/
def Unsigned (name : String) : Prop := '#' ∉ name.toList

/-- No name of a source holds the sign. -/
theorem IsName.unsigned {name : String} (h : IsName name) : Unsigned name := by
  obtain ⟨word, hword, rfl⟩ := h
  intro hsign
  rw [nameOf, String.toList_ofList] at hsign
  have hform := Text.isFormPoint_of_mem_compatibilityForm
    (fun c hc => Text.isIdentifierChar_of_mem hword hc) '#' hsign
  exact absurd hform (by decide)

@[simp] private theorem toList_functionKey (name : String) (index : Nat) :
    (functionKey name index).toList = name.toList ++ '#' :: (toString index).toList := by
  rw [functionKey, String.toList_append, String.toList_append, List.append_assoc]
  rfl

private theorem functionKey_ne {name : String} (h : Unsigned name) (other : String) (index : Nat) :
    functionKey other index ≠ name := by
  rintro rfl
  refine h ?_
  rw [toList_functionKey]
  exact List.mem_append_right _ List.mem_cons_self

/-- The keys of functions that are different statements differ. -/
theorem functionKey_inj {name other : String} (hn : Unsigned name) (ho : Unsigned other)
    {i j : Nat} (h : functionKey name i = functionKey other j) : i = j := by
  have hbehind : ∀ {n : String} (k : Nat), Unsigned n →
      (functionKey n k).toList.dropWhile (· ≠ '#') = '#' :: (toString k).toList := by
    intro n k hn
    rw [toList_functionKey, List.dropWhile_append_of_pos, List.dropWhile_cons_of_neg (by decide)]
    exact fun c hc => decide_eq_true fun hsign => hn (hsign ▸ hc)
  have hdigits := hbehind i hn
  rw [h, hbehind j ho, List.cons_inj_right] at hdigits
  exact (Nat.repr_inj.mp (String.toList_inj.mp hdigits)).symm

/-- A slot and the key of its member, in front of the statement at an index. -/
inductive KeyOf (index : Nat) : Slot → String → Prop
  /-- A slot that holds its name. -/
  | named {m : Member} (hm : Unsigned m.name) : KeyOf index ⟨m, true⟩ m.name
  /-- A function that is one of the statements before. -/
  | function {m : Member} {i : Nat} (hm : Unsigned m.name) (hi : i < index) :
    KeyOf index ⟨m, false⟩ (functionKey m.name i)

variable {index : Nat} {s : Slot} {key name : String} {m : Member}

/-- Further statements change no keys. -/
theorem KeyOf.succ (h : KeyOf index s key) : KeyOf (index + 1) s key := by
  cases h with
  | named hm => exact .named hm
  | function hm hi => exact .function hm (Nat.lt_succ_of_lt hi)

/-- A slot holds a name exactly if that is the key of its member. -/
theorem KeyOf.holds_iff (h : KeyOf index s key) (hn : Unsigned name) :
    s.holds name = true ↔ key = name := by
  cases h with
  | named hm => exact Slot.holds_iff.trans (and_iff_right rfl)
  | @function m i hm hi =>
    constructor
    · exact fun hholds => absurd (Slot.holds_iff.mp hholds).1 Bool.false_ne_true
    · exact fun hkey => absurd hkey (functionKey_ne hn m.name i)

/-- The key of a function that comes next is none of the keys before. -/
theorem KeyOf.ne_functionKey (h : KeyOf index s key) (hn : Unsigned name) :
    key ≠ functionKey name index := by
  cases h with
  | named hm => exact (functionKey_ne hm name index).symm
  | function hm hi => exact fun hkey => Nat.ne_of_lt hi (functionKey_inj hm hn hkey)

/-! ## Slots and registries -/

/-- A slot whose member is found under a key. -/
def Registry.Keeps (r : Registry) (index : Nat) (s : Slot) (key : String) : Prop :=
  KeyOf index s key ∧ r.members[key]? = some s.member

/-- A registry has the members of some slots under their keys, in their order. -/
structure Mirrors (index : Nat) (slots : List Slot) (r : Registry) : Prop where
  /-- Every slot has a key. -/
  keeps : List.Forall₂ (r.Keeps index) slots r.order
  /-- There are no other keys. -/
  mem_iff : ∀ key, key ∈ r.members ↔ key ∈ r.order

variable {slots : List Slot} {r : Registry}

/-- The first slots are none, and there is no key. -/
theorem mirrors_empty : Mirrors 0 [] Registry.empty where
  keeps := .nil
  mem_iff key := by simp [Registry.empty]

/-- A registry lists the members of the slots. -/
theorem Mirrors.listed_eq (h : Mirrors index slots r) : r.listed = slots.map (·.member) := by
  have hkeeps := h.keeps
  clear h
  rw [Registry.listed]
  generalize r.order = order at hkeeps
  induction hkeeps with
  | nil => rfl
  | cons hfirst _ ih => rw [List.filterMap_cons_some hfirst.2, ih, List.map_cons]

/-- What is related to a list pairwise has a partner for each element. -/
private theorem exists_mem_of_forall₂ {α β : Type} {R : α → β → Prop} {l : List α} {l' : List β}
    (h : List.Forall₂ R l l') {a : α} (ha : a ∈ l) : ∃ b ∈ l', R a b := by
  induction h with
  | nil => cases ha
  | @cons first partner rest others hfirst _ ih =>
    rcases List.mem_cons.mp ha with rfl | ha
    · exact ⟨partner, List.mem_cons_self, hfirst⟩
    · obtain ⟨b, hb, hr⟩ := ih ha
      exact ⟨b, List.mem_cons_of_mem partner hb, hr⟩

/-- A slot has a key. -/
theorem Mirrors.exists_key (h : Mirrors index slots r) (hs : s ∈ slots) :
    ∃ key, r.Keeps index s key := by
  obtain ⟨key, -, hkeeps⟩ := exists_mem_of_forall₂ h.keeps hs
  exact ⟨key, hkeeps⟩

/-- A key leads to a slot. -/
theorem Mirrors.exists_slot (h : Mirrors index slots r) (hkey : key ∈ r.members) :
    ∃ s ∈ slots, r.Keeps index s key :=
  exists_mem_of_forall₂ h.keeps.flip ((h.mem_iff key).mp hkey)

/-- Some slot holds a name exactly if the name is a key. -/
theorem Mirrors.any_holds (h : Mirrors index slots r) (hn : Unsigned name) :
    slots.any (·.holds name) = r.members.contains name := by
  rw [Bool.eq_iff_iff, List.any_eq_true, Std.HashMap.contains_iff_mem]
  constructor
  · rintro ⟨s, hs, hholds⟩
    obtain ⟨key, hkey, hmember⟩ := h.exists_key hs
    obtain rfl := (hkey.holds_iff hn).mp hholds
    exact Std.HashMap.mem_iff_isSome_getElem?.mpr (hmember ▸ rfl)
  · intro hmem
    obtain ⟨s, hs, hkey, -⟩ := h.exists_slot hmem
    exact ⟨s, hs, (hkey.holds_iff hn).mpr rfl⟩

/-- Where a key leads to another member, the slot that holds it changes. -/
theorem Mirrors.update (h : Mirrors index slots r) (hm : Unsigned m.name)
    (hmem : m.name ∈ r.members) (change : Member → Member)
    (hchange : ∀ old ∈ r.members[m.name]?, change old = m) :
    Mirrors index (slots.map (·.update m.name change)) (r.add m.name m) := by
  have horder : (r.add m.name m).order = r.order := if_pos (Std.HashMap.contains_iff_mem.mpr hmem)
  refine ⟨?_, fun key => ?_⟩
  · rw [horder, List.forall₂_map_left_iff]
    refine h.keeps.imp fun s key ⟨hkey, hmember⟩ => ?_
    by_cases hholds : s.holds m.name = true
    · obtain rfl := (hkey.holds_iff hm).mp hholds
      have hnamed := (Slot.holds_iff.mp hholds).1
      rw [Slot.update, if_pos hholds, hchange _ hmember, hnamed]
      exact ⟨.named hm, Std.HashMap.getElem?_insert_self⟩
    · have hne : key ≠ m.name := fun hkey' => hholds ((hkey.holds_iff hm).mpr hkey')
      rw [Slot.update, if_neg hholds]
      refine ⟨hkey, ?_⟩
      rw [Registry.add, Std.HashMap.getElem?_insert, if_neg (by simpa using hne.symm), hmember]
  · rw [horder, ← h.mem_iff, Registry.add, Std.HashMap.mem_insert, beq_iff_eq]
    exact or_iff_right_of_imp fun hkey => hkey ▸ hmem

/-- A new key comes with a new slot. -/
theorem Mirrors.concat (h : Mirrors index slots r) (hnew : key ∉ r.members)
    (hkey : KeyOf index s key) : Mirrors index (slots ++ [s]) (r.add key s.member) := by
  have horder : (r.add key s.member).order = r.order ++ [key] :=
    if_neg (mt Std.HashMap.contains_iff_mem.mp hnew)
  refine ⟨?_, fun other => ?_⟩
  · rw [horder]
    refine List.rel_append (h.keeps.imp ?_) (.cons ⟨hkey, Std.HashMap.getElem?_insert_self⟩ .nil)
    rintro old first ⟨hfirst, hmember⟩
    have hne : key ≠ first := by
      rintro rfl
      exact hnew (Std.HashMap.mem_iff_isSome_getElem?.mpr (hmember ▸ rfl))
    refine ⟨hfirst, ?_⟩
    rw [Registry.add, Std.HashMap.getElem?_insert, if_neg (by simpa using hne), hmember]
  · rw [horder, Registry.add, Std.HashMap.mem_insert, h.mem_iff, List.mem_append,
      List.mem_singleton, beq_iff_eq, or_comm, eq_comm]

/-- A definition keeps slots and registry together. -/
theorem Mirrors.defines (h : Mirrors index slots r) (hm : Unsigned m.name) :
    Mirrors index (contribute slots (.defines m)) (r.contribute index (.defines m)) := by
  rw [contribute, h.any_holds hm]
  split
  · next hcontains =>
    exact h.update hm (Std.HashMap.contains_iff_mem.mp hcontains) (fun _ => m) fun _ _ => rfl
  · next hcontains =>
    exact h.concat (mt Std.HashMap.contains_iff_mem.mpr hcontains) (.named hm)

/-- So does a setter. -/
theorem Mirrors.writes (h : Mirrors index slots r) (hn : Unsigned name) :
    Mirrors index (contribute slots (.writes name)) (r.contribute index (.writes name)) := by
  rw [contribute, Registry.contribute]
  split
  · next m hmember =>
    have hmem : name ∈ r.members := Std.HashMap.mem_iff_isSome_getElem?.mpr (hmember ▸ rfl)
    have hname : m.name = name := by
      obtain ⟨s, -, hkey, hslot⟩ := h.exists_slot hmem
      obtain rfl := Option.some.inj (hmember.symm.trans hslot)
      exact (Slot.holds_iff.mp ((hkey.holds_iff hn).mpr rfl)).2
    subst hname
    refine h.update (m := assignable m) hn hmem assignable fun old hold => ?_
    obtain rfl := Option.some.inj (hmember.symm.trans hold)
    rfl
  · next hnone =>
    have hfree : slots.any (·.holds name) = false := by
      rw [h.any_holds hn, Std.HashMap.contains_eq_isSome_getElem?, hnone]
      rfl
    -- no slot holds the name, so none changes
    have hsame : slots.map (·.update name assignable) = slots.map id :=
      List.map_congr_left fun s hs => if_neg (List.any_eq_false.mp hfree s hs)
    rw [List.map_id] at hsame
    exact hsame.symm ▸ h

/-- The next statement may have a function again. -/
theorem Mirrors.succ (h : Mirrors index slots r) : Mirrors (index + 1) slots r :=
  ⟨h.keeps.imp fun _ _ hkeeps => ⟨hkeeps.1.succ, hkeeps.2⟩, h.mem_iff⟩

/-- So does a function. -/
theorem Mirrors.adds (h : Mirrors index slots r) (hm : Unsigned m.name) :
    Mirrors (index + 1) (contribute slots (.adds m)) (r.contribute index (.adds m)) := by
  refine h.succ.concat (s := ⟨m, false⟩) (fun hmem => ?_) (.function hm (Nat.lt_succ_self index))
  obtain ⟨s, -, hkey, -⟩ := h.exists_slot hmem
  exact hkey.ne_functionKey hm rfl

/-! ## Whole bodies -/

variable {contributions : List Contribution} {frozen : Bool} {statement : Statement}

/-- Contributions among which there is no function keep slots and registry together. -/
theorem Mirrors.foldl (h : Mirrors index slots r)
    (hn : ∀ n ∈ HasNames.names contributions, Unsigned n)
    (hfree : ∀ m, .adds m ∉ contributions) :
    Mirrors index (contributions.foldl Script.contribute slots)
      (contributions.foldl (Registry.contribute index) r) := by
  induction contributions generalizing slots r with
  | nil => exact h
  | cons c later ih =>
    have hc : ∀ n ∈ HasNames.names c, Unsigned n := fun n hname =>
      hn n (List.mem_flatMap.mpr ⟨c, List.mem_cons_self, hname⟩)
    refine ih ?_ (fun n hname => hn n (List.mem_append_right _ hname)) fun m hm =>
      hfree m (List.mem_cons_of_mem c hm)
    cases c with
    | defines m => exact h.defines (hc m.name List.mem_cons_self)
    | adds m => exact absurd List.mem_cons_self (hfree m)
    | writes name => exact h.writes (hc name List.mem_cons_self)

/-- What a statement contributes keeps them together, and the next statement has the next index. -/
theorem Mirrors.contributes (h : Mirrors index slots r)
    (hc : Contributes frozen statement contributions)
    (hn : ∀ n ∈ HasNames.names contributions, Unsigned n) :
    Mirrors (index + 1) (contributions.foldl Script.contribute slots)
      (contributions.foldl (Registry.contribute index) r) := by
  cases hc with
  | function name => exact h.adds (hn name List.mem_cons_self)
  | assigned targets value =>
    refine (h.foldl hn fun m hm => ?_).succ
    obtain ⟨name, -, hadds⟩ := List.mem_map.mp hm
    cases hadds
  | declared | read | writes => exact (h.foldl hn (by simp)).succ
  | other | rest => exact h.succ

/-- So do the statements of a body. -/
theorem Mirrors.registerFrom {body : List Statement} {collected : List (List Contribution)}
    (hcollected : List.Forall₂ (Contributes frozen) body collected)
    (hn : ∀ n ∈ HasNames.names collected, Unsigned n) (h : Mirrors index slots r) :
    ∃ next, Mirrors next (collected.flatten.foldl Script.contribute slots)
      (Script.registerFrom index r collected) := by
  induction hcollected generalizing index slots r with
  | nil => exact ⟨index, h⟩
  | cons hfirst _ ih =>
    obtain ⟨hcontributions, hothers⟩ := List.forall_mem_append.mp hn
    rw [List.flatten_cons, List.foldl_append]
    exact ih hothers (h.contributes hfirst hcontributions)

/-- A registry of what a body contributes lists the members of the class, if no name holds the
sign of the keys of functions. -/
theorem membersOf_eq_listed {body : List Statement} {collected : List (List Contribution)}
    (h : body.mapM (Statement.contributions frozen) = .ok collected)
    (hn : ∀ n ∈ HasNames.names collected, Unsigned n) :
    membersOf frozen body = .ok (registerFrom 0 .empty collected).listed := by
  obtain ⟨index, hmirrors⟩ := Mirrors.registerFrom (contributes_of_mapM h) hn mirrors_empty
  rw [membersOf, h, hmirrors.listed_eq]
  rfl

/-- The members of every class of a source that is parsed are those that a registry lists. -/
theorem members_eq_listed_of_parse {text : String} {module : Option String}
    {declarations : List Declaration} (h : parse text module = .ok declarations) {d : Declaration}
    (hd : d ∈ declarations) : ∃ decorators bases named body collected,
      (Statement.class decorators d.identifier bases named body).declaration module =
        .ok (some d) ∧
      body.mapM (Statement.contributions (decorators.any Expr.freezes)) = .ok collected ∧
      d.members = (registerFrom 0 .empty collected).listed := by
  obtain ⟨-, decorators, bases, named, body, collected, hdeclaration, hmapped, hmembers, hnamed⟩ :=
    named_of_parse h hd
  obtain ⟨index, hmirrors⟩ := Mirrors.registerFrom (contributes_of_mapM hmapped)
    (fun n hn => (hnamed.isName n hn).unsigned) mirrors_empty
  exact ⟨decorators, bases, named, body, collected, hdeclaration, hmapped,
    hmembers.trans hmirrors.listed_eq.symm⟩

end KeyedAccess.Script
