import KeyedAccess.Proofs.Script.Members
import Mathlib.Data.Nat.Find

/-!
# Places of members

A class has one slot for each of its functions and one for each name that its body defines. The
slots stand in the order of the functions and of the first definitions of the names.
-/

namespace KeyedAccess.Script

/-! ## Places in a body -/

/-- A place in the body of a class that a member may come from. -/
structure Origin where
  /-- The statement, counted from zero. -/
  statement : Nat
  /-- The name among the plain names that the statement assigns, counted from zero. -/
  target : Nat

/-- One place stands in front of another one. -/
def Origin.Before (o p : Origin) : Prop :=
  o.statement < p.statement ∨ o.statement = p.statement ∧ o.target < p.target

/-- A statement defines a name, at a place among the names that it assigns. -/
inductive DefinesAt (n : String) : Statement → Nat → Prop where
  /-- It gives the name a type. -/
  | declared (type : Expr) (value : Option Expr) : DefinesAt n (.declare (.name n) type value) 0
  /-- It gives the name a value. -/
  | assigned {targets : List Expr} {i : Nat} (value : Expr)
      (h : (targetNames targets)[i]? = some n) : DefinesAt n (.assign targets value) i
  /-- It is the function that reads the property of the name. -/
  | read {decorators : List Expr} (parameters : List Parameter) (result : Option Expr)
      (body : List Statement) (h : FirstMark decorators .reads) :
      DefinesAt n (.function false decorators n parameters result body) 0

/-- A statement is a function of a name that is no accessor of a property. -/
inductive IsFunction (name : String) : Statement → Prop where
  /-- It waits, or none of its decorators makes an accessor. -/
  | mk {isAsync : Bool} {decorators : List Expr} (parameters : List Parameter)
      (result : Option Expr) (body : List Statement)
      (h : isAsync = true ∨ ∀ r, ¬ FirstMark decorators r) :
      IsFunction name (.function isAsync decorators name parameters result body)

/-- A place of a body is that of a function. -/
def FunctionAt (name : String) (body : List Statement) (o : Origin) : Prop :=
  ∃ s, body[o.statement]? = some s ∧ IsFunction name s ∧ o.target = 0

/-- A place of a body is the first one where a name is defined. -/
def FirstDefinition (n : String) (body : List Statement) (o : Origin) : Prop :=
  (∃ s, body[o.statement]? = some s ∧ DefinesAt n s o.target) ∧
    ∀ (p : Origin) s, body[p.statement]? = some s → DefinesAt n s p.target → ¬ p.Before o

/-- Slots with the places of a body that they come from: one for each function and one for each name
that is defined, in the order of these places. -/
structure InSourceOrder (body : List Statement) (entries : List (Origin × Slot)) : Prop where
  /-- The places follow one another, so none occurs twice. -/
  sorted : (entries.map (·.1)).Pairwise Origin.Before
  /-- The slots that hold no name are those of the functions. -/
  function : ∀ o name, (∃ s, (o, s) ∈ entries ∧ s.named = false ∧ s.member.name = name) ↔
    FunctionAt name body o
  /-- The slots that hold a name are those of the first definitions. -/
  definition : ∀ o n, (∃ s, (o, s) ∈ entries ∧ s.holds n = true) ↔ FirstDefinition n body o
  /-- Every name that is defined has a slot, and no other one has. -/
  complete : ∀ n, (∃ e ∈ entries, e.2.holds n = true) ↔ ∃ s ∈ body, Defines n s

variable {frozen : Bool} {s : Statement} {contributions : List Contribution}

/-- The definitions among the contributions of a statement stand where it defines their names. -/
theorem Contributes.defines_iff (h : Contributes frozen s contributions) {n : String} {i : Nat} :
    (∃ m, contributions[i]? = some (.defines m) ∧ m.name = n) ↔ DefinesAt n s i := by
  have hone : ∀ {m m' : Member},
      [Contribution.defines m][i]? = some (.defines m') → m = m' ∧ i = 0 := by
    intro m m' hm
    obtain ⟨hi, hm⟩ := List.getElem?_eq_some_iff.mp hm
    obtain rfl : i = 0 := Nat.lt_one_iff.mp hi
    exact ⟨Contribution.defines.inj hm, rfl⟩
  have hother : ∀ {c : Contribution}, (∀ m, c ≠ .defines m) → ∀ m,
      [c][i]? ≠ some (.defines m) := by
    intro c hc m hm
    exact hc m (List.mem_singleton.mp (List.mem_of_getElem? hm)).symm
  constructor
  · rintro ⟨m, hm, rfl⟩
    cases h with
    | declared value hd =>
      obtain ⟨rfl, rfl⟩ := hone hm
      rw [name_of_declaredMember hd]
      exact .declared _ value
    | assigned targets value =>
      rw [List.getElem?_map, Option.map_eq_some_iff] at hm
      obtain ⟨name, hname, hm⟩ := hm
      cases hm
      exact .assigned value hname
    | read name parameters body hrole ht =>
      obtain ⟨rfl, rfl⟩ := hone hm
      exact .read parameters _ body hrole
    | function | writes => exact absurd hm (hother (fun _ => Contribution.noConfusion) m)
    | other | rest => cases hm
  · intro hd
    cases hd with
    | declared type value =>
      obtain ⟨m, hm, rfl⟩ := h.of_declare
      exact ⟨m, rfl, name_of_declaredMember hm⟩
    | assigned value hname =>
      obtain rfl := h.of_assign
      exact ⟨variableMember n unknownType, by rw [List.getElem?_map, hname]; rfl, rfl⟩
    | read parameters result body hmark =>
      obtain ⟨text, -, rfl⟩ := h.of_reads hmark
      exact ⟨readMember n text, rfl, rfl⟩

/-- A statement defines a name exactly if it does so at some place. -/
theorem exists_definesAt_iff {n : String} : (∃ i, DefinesAt n s i) ↔ Defines n s := by
  constructor
  · rintro ⟨i, hi⟩
    cases hi with
    | declared type value => exact .declared type value
    | assigned value h => exact .assigned value (mem_targetNames.mp (List.mem_of_getElem? h))
    | read parameters result body h => exact .read parameters result body h
  · intro h
    cases h with
    | declared type value => exact ⟨0, .declared type value⟩
    | assigned value h =>
      obtain ⟨i, hi⟩ := List.getElem?_of_mem (mem_targetNames.mpr h)
      exact ⟨i, .assigned value hi⟩
    | read parameters result body h => exact ⟨0, .read parameters result body h⟩

/-- A name has a first definition exactly if a statement defines it. -/
theorem exists_firstDefinition_iff {n : String} {body : List Statement} :
    (∃ o, FirstDefinition n body o) ↔ ∃ s ∈ body, Defines n s := by
  constructor
  · rintro ⟨o, ⟨s, hs, hd⟩, -⟩
    exact ⟨s, List.mem_of_getElem? hs, exists_definesAt_iff.mp ⟨_, hd⟩⟩
  · rintro ⟨s, hs, hd⟩
    induction body with
    | nil => cases hs
    | cons first body ih =>
      by_cases hfirst : ∃ i, DefinesAt n first i
      · classical
        refine ⟨⟨0, Nat.find hfirst⟩, ⟨first, rfl, Nat.find_spec hfirst⟩, ?_⟩
        rintro ⟨i, j⟩ s' hs' hd' (hi | ⟨rfl, hj⟩)
        · exact Nat.not_lt_zero i hi
        · cases hs'
          exact Nat.find_min hfirst hj hd'
      · have hs : s ∈ body := by
          refine (List.mem_cons.mp hs).resolve_left ?_
          rintro rfl
          exact hfirst (exists_definesAt_iff.mpr hd)
        obtain ⟨o, hplace, hnone⟩ := ih hs
        refine ⟨⟨o.statement + 1, o.target⟩, hplace, ?_⟩
        rintro ⟨_ | i, j⟩ s' hs' hd' hbefore
        · cases hs'
          exact hfirst ⟨j, hd'⟩
        · refine hnone ⟨i, j⟩ s' hs' hd' ?_
          unfold Origin.Before at *
          grind

/-- The functions among the contributions of a statement are the statement itself. -/
theorem adds_iff_of_eq_ok (h : s.contributions frozen = .ok contributions) (name : String)
    {i : Nat} :
    (∃ m, contributions[i]? = some (.adds m) ∧ m.name = name) ↔ IsFunction name s ∧ i = 0 := by
  constructor
  · rintro ⟨m, hm, rfl⟩
    have hmem := List.mem_of_getElem? hm
    cases contributes_of_eq_ok h with
    | function name parameters body hrole ht =>
      obtain ⟨hi, hm⟩ := List.getElem?_eq_some_iff.mp hm
      obtain rfl : i = 0 := Nat.lt_one_iff.mp hi
      cases hm
      exact ⟨.mk parameters _ body hrole, rfl⟩
    | assigned targets value =>
      obtain ⟨name, -, hdefines⟩ := List.mem_map.mp hmem
      cases hdefines
    | declared | read | writes => cases List.mem_singleton.mp hmem
    | other | rest => cases hmem
  · rintro ⟨⟨parameters, result, body, hrole⟩, rfl⟩
    simp only [Statement.contributions, no_role_of_function.mpr hrole] at h
    obtain ⟨text, -, ⟨⟩⟩ := bind_eq_ok_iff.mp h
    exact ⟨_, rfl, rfl⟩

/-! ## Places of contributions -/

/-- The contributions of the statements of a body, each with its place. -/
def placed (collected : List (List Contribution)) : List (Origin × Contribution) :=
  collected.zipIdx.flatMap fun part => part.1.zipIdx.map fun c => (⟨part.2, c.2⟩, c.1)

@[simp] private theorem mem_placed {collected : List (List Contribution)} {o : Origin}
    {c : Contribution} :
    (o, c) ∈ placed collected ↔
      ∃ contributions, collected[o.statement]? = some contributions ∧
        contributions[o.target]? = some c := by
  simp only [placed, List.mem_flatMap, List.mem_map, Prod.exists, List.mem_zipIdx_iff_getElem?]
  constructor
  · rintro ⟨contributions, i, hi, c', j, hj, he⟩
    cases he
    exact ⟨contributions, hi, hj⟩
  · rintro ⟨contributions, hi, hj⟩
    exact ⟨contributions, o.statement, hi, c, o.target, hj, rfl⟩

@[simp] private theorem map_snd_placed (collected : List (List Contribution)) :
    (placed collected).map (·.2) = collected.flatten := by
  have hpart : ∀ part : List Contribution × Nat,
      (part.1.zipIdx.map fun c => ((⟨part.2, c.2⟩ : Origin), c.1)).map (·.2) = part.1 := by
    intro part
    rw [List.map_map]
    exact List.zipIdx_map_fst 0 part.1
  rw [placed, List.map_flatMap, List.flatMap_congr fun part _ => hpart part,
    List.flatMap_def, List.zipIdx_map_fst]

private theorem sorted_placed (collected : List (List Contribution)) :
    ((placed collected).map (·.1)).Pairwise Origin.Before := by
  have hlt {α : Type} (l : List α) : l.zipIdx.Pairwise fun a b => a.2 < b.2 := by
    rw [← List.pairwise_map, List.zipIdx_map_snd]
    exact List.pairwise_lt_range'
  rw [List.pairwise_map, placed, List.pairwise_flatMap]
  refine ⟨fun part _ => List.pairwise_map.mpr ((hlt part.1).imp fun h => .inr ⟨rfl, h⟩), ?_⟩
  refine (hlt collected).imp fun {a b} h x hx y hy => .inl ?_
  obtain ⟨c, -, rfl⟩ := List.mem_map.mp hx
  obtain ⟨c', -, rfl⟩ := List.mem_map.mp hy
  exact h

/-! ## Keys of slots -/

/-- What tells the slots of a class apart: whether a slot holds its name, and the name. -/
def Slot.key (s : Slot) : Bool × String := (s.named, s.member.name)

/-- A slot holds a name exactly if its key says so. -/
theorem Slot.holds_eq (s : Slot) (n : String) : s.holds n = (s.key == (true, n)) := by
  rw [Bool.eq_iff_iff, Slot.holds_iff, beq_iff_eq, Slot.key, Prod.mk.injEq]

/-- Adds the key that a contribution brings, with its place; a name that is there stays where it
is. -/
def enter (keys : List (Origin × Bool × String)) :
    Origin × Contribution → List (Origin × Bool × String)
  | (o, .defines m) =>
    if keys.any (·.2 == (true, m.name)) then keys else keys ++ [(o, true, m.name)]
  | (o, .adds m) => keys ++ [(o, false, m.name)]
  | (_, .writes _) => keys

/-- A change that keeps the name of a member keeps the key of its slot. -/
theorem Slot.key_update {name : String} {change : Member → Member}
    (hchange : ∀ m, m.name = name → (change m).name = name) (s : Slot) :
    (s.update name change).key = s.key := by
  rw [Slot.update]
  split
  next hs => rw [Slot.key, Slot.key, hchange _ (Slot.holds_iff.mp hs).2, (Slot.holds_iff.mp hs).2]
  next => rfl

/-- So it keeps the keys of all slots. -/
theorem map_key_update {name : String} (change : Member → Member) (slots : List Slot)
    (hchange : ∀ m, m.name = name → (change m).name = name) :
    (slots.map (·.update name change)).map Slot.key = slots.map Slot.key := by
  rw [List.map_map]
  exact List.map_congr_left fun s _ => s.key_update hchange

private theorem map_key_contribute {slots : List Slot} {keys : List (Origin × Bool × String)}
    (h : slots.map Slot.key = keys.map (·.2)) (o : Origin) (c : Contribution) :
    (contribute slots c).map Slot.key = (enter keys (o, c)).map (·.2) := by
  cases c with
  | defines m =>
    have hany : slots.any (·.holds m.name) = keys.any (·.2 == (true, m.name)) := by
      have hkeys := congrArg (List.any · (· == (true, m.name))) h
      simpa only [List.any_map, Function.comp_def, ← Slot.holds_eq] using hkeys
    rw [contribute, enter, hany]
    split
    next => exact (map_key_update (fun _ => m) slots fun _ _ => rfl).trans h
    next =>
      rw [List.map_append, List.map_append, h]
      rfl
  | adds m =>
    rw [contribute, enter, List.map_append, List.map_append, h]
    rfl
  | writes name => exact (map_key_update assignable slots fun _ hm => hm).trans h

private theorem map_key_foldl (steps : List (Origin × Contribution)) :
    ((steps.map (·.2)).foldl contribute []).map Slot.key = (steps.foldl enter []).map (·.2) := by
  induction steps using List.reverseRecOn with
  | nil => rfl
  | append_singleton steps last ih =>
    rw [List.map_append, List.foldl_append, List.foldl_append]
    exact map_key_contribute ih last.1 last.2

/-- A place is the first one of some contributions that define a name. -/
def FirstAmong (steps : List (Origin × Contribution)) (n : String) (o : Origin) : Prop :=
  (∃ m, (o, .defines m) ∈ steps ∧ m.name = n) ∧
    ∀ p m, (p, .defines m) ∈ steps → m.name = n → ¬ p.Before o

/-- No place stands in front of one that stands in front of it. -/
theorem Origin.Before.asymm {o p : Origin} (h : o.Before p) : ¬ p.Before o := by
  unfold Origin.Before at *
  omega

section Steps

variable {steps : List (Origin × Contribution)} {keys : List (Origin × Bool × String)} {o : Origin}
  {c : Contribution}

/-- A contribution behind all others is the first definition of a name only if there is none before
it. -/
theorem firstAmong_concat (hlast : ∀ p ∈ steps, p.1.Before o) {n : String} {p : Origin} :
    FirstAmong (steps ++ [(o, c)]) n p ↔ FirstAmong steps n p ∨
      (p = o ∧ (∃ m, c = .defines m ∧ m.name = n) ∧
        ∀ q m, (q, .defines m) ∈ steps → m.name ≠ n) := by
  have hmem : ∀ {q : Origin} {m : Member}, (q, Contribution.defines m) ∈ steps ++ [(o, c)] ↔
      (q, .defines m) ∈ steps ∨ q = o ∧ c = .defines m := by
    intro q m
    rw [List.mem_append, List.mem_singleton, Prod.mk.injEq, eq_comm (a := c)]
  have hirrefl : ¬ o.Before o := fun h => h.asymm h
  constructor
  · rintro ⟨⟨m, hm, hn⟩, hfirst⟩
    rcases hmem.mp hm with hm | ⟨rfl, rfl⟩
    · exact .inl ⟨⟨m, hm, hn⟩, fun q m' hm' => hfirst q m' (hmem.mpr (.inl hm'))⟩
    · refine .inr ⟨rfl, ⟨m, rfl, hn⟩, fun q m' hm' hn' => ?_⟩
      exact hfirst q m' (hmem.mpr (.inl hm')) hn' (hlast _ hm')
  · rintro (⟨⟨m, hm, hn⟩, hfirst⟩ | ⟨rfl, ⟨m, rfl, hn⟩, hnone⟩)
    · refine ⟨⟨m, hmem.mpr (.inl hm), hn⟩, fun q m' hm' hn' => ?_⟩
      rcases hmem.mp hm' with hm' | ⟨rfl, -⟩
      · exact hfirst q m' hm' hn'
      · exact (hlast _ hm).asymm
    · refine ⟨⟨m, hmem.mpr (.inr ⟨rfl, rfl⟩), hn⟩, fun q m' hm' hn' => ?_⟩
      rcases hmem.mp hm' with hm' | ⟨rfl, -⟩
      · exact absurd hn' (hnone q m' hm')
      · exact hirrefl

/-- Keys with the places of some contributions, one for each function and for each first
definition. -/
structure Lists (steps : List (Origin × Contribution)) (keys : List (Origin × Bool × String)) :
    Prop where
  /-- The keys stand in the order of the contributions. -/
  sublist : (keys.map (·.1)).Sublist (steps.map (·.1))
  /-- The keys without a name are those of the functions. -/
  function : ∀ o name, (o, false, name) ∈ keys ↔ ∃ m, (o, .adds m) ∈ steps ∧ m.name = name
  /-- The other keys are those of the first definitions. -/
  definition : ∀ o n, (o, true, n) ∈ keys ↔ FirstAmong steps n o
  /-- Every name that is defined has a key. -/
  complete : ∀ o m, (o, .defines m) ∈ steps → ∃ p, (p, true, m.name) ∈ keys

/-- The keys stay in the order of the contributions if there is one more. -/
theorem Lists.sublist_kept (h : Lists steps keys) (step : Origin × Contribution) :
    (keys.map (·.1)).Sublist ((steps ++ [step]).map (·.1)) := by
  rw [List.map_append]
  exact h.sublist.trans (List.sublist_append_left _ _)

/-- So do they with its own key behind them. -/
theorem Lists.sublist_added (h : Lists steps keys) (o : Origin) (c : Contribution)
    (key : Bool × String) :
    ((keys ++ [(o, key)]).map (·.1)).Sublist ((steps ++ [(o, c)]).map (·.1)) := by
  rw [List.map_append, List.map_append]
  exact h.sublist.append_right [o]

/-- A definition of a name that has a key is not the first one and adds none. -/
theorem Lists.again (h : Lists steps keys) (hlast : ∀ p ∈ steps, p.1.Before o) {m : Member}
    {first : Origin} (hfirst : (first, true, m.name) ∈ keys) :
    Lists (steps ++ [(o, Contribution.defines m)]) keys := by
  obtain ⟨⟨earlier, hearlier, hname⟩, -⟩ := (h.definition first m.name).mp hfirst
  refine ⟨h.sublist_kept _, fun p name => by simp [h.function], fun p n => ?_, fun p m' hm => ?_⟩
  · rw [h.definition, firstAmong_concat hlast]
    refine (or_iff_left ?_).symm
    rintro ⟨-, ⟨m', hm', rfl⟩, hnone⟩
    cases hm'
    exact hnone first earlier hearlier hname
  · rcases List.mem_append.mp hm with hm | hm
    · exact h.complete p m' hm
    · cases List.mem_singleton.mp hm
      exact ⟨first, hfirst⟩

/-- A definition of a name that has no key is the first one and adds its key. -/
theorem Lists.first (h : Lists steps keys) (hlast : ∀ p ∈ steps, p.1.Before o) {m : Member}
    (hnew : ∀ first, (first, true, m.name) ∉ keys) :
    Lists (steps ++ [(o, Contribution.defines m)]) (keys ++ [(o, true, m.name)]) := by
  have hnone : ∀ q m', (q, .defines m') ∈ steps → m'.name ≠ m.name := by
    intro q m' hm' hname
    obtain ⟨first, hfirst⟩ := h.complete q m' hm'
    exact hnew first (hname ▸ hfirst)
  refine ⟨h.sublist_added o _ _, fun p name => by simp [h.function], fun p n => ?_,
    fun p m' hm => ?_⟩
  · rw [List.mem_append, h.definition, firstAmong_concat hlast, List.mem_singleton]
    refine or_congr_right ⟨?_, ?_⟩
    · rintro ⟨⟩
      exact ⟨rfl, ⟨m, rfl, rfl⟩, hnone⟩
    · rintro ⟨rfl, ⟨_, ⟨⟩, rfl⟩, -⟩
      rfl
  · rcases List.mem_append.mp hm with hm | hm
    · obtain ⟨q, hq⟩ := h.complete p m' hm
      exact ⟨q, List.mem_append_left _ hq⟩
    · cases List.mem_singleton.mp hm
      exact ⟨o, List.mem_append_right _ List.mem_cons_self⟩

/-- A contribution behind all others adds its key, unless its name has one. -/
theorem Lists.enter (h : Lists steps keys) (hlast : ∀ p ∈ steps, p.1.Before o) :
    Lists (steps ++ [(o, c)]) (enter keys (o, c)) := by
  cases c with
  | writes name =>
    refine ⟨h.sublist_kept _, fun p name => ?_, fun p n => ?_, fun p m hm => ?_⟩
    · simp [Script.enter, h.function]
    · simp [Script.enter, h.definition, firstAmong_concat hlast]
    · exact h.complete p m (by simpa using hm)
  | adds m =>
    have hfunction : ∀ p name, (p, false, name) ∈ keys ++ [(o, false, m.name)] ↔
        ∃ m', (p, .adds m') ∈ steps ++ [(o, .adds m)] ∧ m'.name = name := by
      intro p name
      simp only [List.mem_append, h.function, List.mem_singleton, Prod.mk.injEq,
        Contribution.adds.injEq]
      constructor
      · rintro (⟨m', hm, rfl⟩ | ⟨rfl, -, rfl⟩)
        · exact ⟨m', .inl hm, rfl⟩
        · exact ⟨m, .inr ⟨rfl, rfl⟩, rfl⟩
      · rintro ⟨m', hm | ⟨rfl, rfl⟩, rfl⟩
        · exact .inl ⟨m', hm, rfl⟩
        · exact .inr ⟨rfl, trivial, rfl⟩
    refine ⟨h.sublist_added o _ (false, m.name), hfunction, fun p n => ?_, fun p m' hm => ?_⟩
    · simp [Script.enter, h.definition, firstAmong_concat hlast]
    · have hearlier : (p, .defines m') ∈ steps := by simpa using hm
      obtain ⟨q, hq⟩ := h.complete p m' hearlier
      exact ⟨q, List.mem_append_left _ hq⟩
  | defines m =>
    rw [Script.enter]
    split
    next hany =>
      obtain ⟨⟨first, key⟩, hfirst, hkey⟩ := List.any_eq_true.mp hany
      obtain rfl := beq_iff_eq.mp hkey
      exact h.again hlast hfirst
    next hany =>
      exact h.first hlast fun first hfirst =>
        hany (List.any_eq_true.mpr ⟨_, hfirst, beq_self_eq_true _⟩)

end Steps

/-- The keys of all contributions are those of the functions and of the first definitions. -/
theorem lists_foldl {steps : List (Origin × Contribution)}
    (h : (steps.map (·.1)).Pairwise Origin.Before) : Lists steps (steps.foldl enter []) := by
  induction steps using List.reverseRecOn with
  | nil =>
    refine ⟨.slnil, fun _ _ => ?_, fun _ _ => ?_, fun _ _ hk => absurd hk List.not_mem_nil⟩
    · simp
    · simp [FirstAmong]
  | append_singleton steps last ih =>
    rw [List.map_append, List.pairwise_append] at h
    rw [List.foldl_append]
    refine (ih h.1).enter fun p hp => ?_
    exact h.2.2 p.1 (List.mem_map_of_mem hp) last.1 (List.mem_singleton_self _)

/-! ## Members in source order -/

variable {body : List Statement} {collected : List (List Contribution)}

/-- The contributions of a body stand where its statements do. -/
theorem getElem?_of_forall₂ {α β : Type} {R : α → β → Prop} {l : List α} {values : List β}
    (h : List.Forall₂ R l values) {i : Nat} :
    (∀ x, l[i]? = some x → ∃ value, values[i]? = some value ∧ R x value) ∧
      ∀ value, values[i]? = some value → ∃ x, l[i]? = some x ∧ R x value := by
  induction h generalizing i with
  | nil => simp
  | cons hfirst _ ih =>
    cases i with
    | zero =>
      constructor
      · rintro _ ⟨⟩
        exact ⟨_, rfl, hfirst⟩
      · rintro _ ⟨⟩
        exact ⟨_, rfl, hfirst⟩
    | succ i => exact ih

/-- A contribution of a body has a place exactly if its statement makes it there. -/
theorem exists_placed_iff
    (h : List.Forall₂ (fun s contributions => s.contributions frozen = .ok contributions) body
      collected) {make : Member → Contribution} {name : String} {Q : Statement → Nat → Prop}
    (hQ : ∀ s contributions i, s.contributions frozen = .ok contributions →
      ((∃ m, contributions[i]? = some (make m) ∧ m.name = name) ↔ Q s i)) (o : Origin) :
    (∃ m, (o, make m) ∈ placed collected ∧ m.name = name) ↔
      ∃ s, body[o.statement]? = some s ∧ Q s o.target := by
  simp only [mem_placed]
  constructor
  · rintro ⟨m, ⟨contributions, hcontributions, hm⟩, hname⟩
    obtain ⟨s, hs, hok⟩ := (getElem?_of_forall₂ h).2 _ hcontributions
    exact ⟨s, hs, (hQ s _ _ hok).mp ⟨m, hm, hname⟩⟩
  · rintro ⟨s, hs, hq⟩
    obtain ⟨contributions, hcontributions, hok⟩ := (getElem?_of_forall₂ h).1 _ hs
    obtain ⟨m, hm, hname⟩ := (hQ s _ _ hok).mpr hq
    exact ⟨m, ⟨contributions, hcontributions, hm⟩, hname⟩

/-- The first definitions among the contributions of a body are those of its statements. -/
theorem firstAmong_placed
    (h : List.Forall₂ (fun s contributions => s.contributions frozen = .ok contributions) body
      collected) (n : String) (o : Origin) :
    FirstAmong (placed collected) n o ↔ FirstDefinition n body o := by
  have hplaces := exists_placed_iff h fun s contributions i hs =>
    (contributes_of_eq_ok hs).defines_iff (n := n)
  refine and_congr (hplaces o) (forall_congr' fun p => ?_)
  simpa only [exists_imp, and_imp] using imp_congr_left (hplaces p)

/-- The slots of a class have the places of its functions and of the first definitions. -/
theorem exists_inSourceOrder
    (h : List.Forall₂ (fun s contributions => s.contributions frozen = .ok contributions) body
      collected) :
    ∃ entries, InSourceOrder body entries ∧
      entries.map (·.2) = collected.flatten.foldl contribute [] := by
  have hkeys := map_key_foldl (placed collected)
  rw [map_snd_placed] at hkeys
  have hsorted := sorted_placed collected
  have hlists := lists_foldl hsorted
  generalize (placed collected).foldl enter [] = keys at hkeys hlists
  generalize collected.flatten.foldl contribute [] = slots at hkeys ⊢
  have hlength : slots.length = (keys.map (·.1)).length := by
    simpa using congrArg List.length hkeys
  have hpairs : ((keys.map (·.1)).zip slots).map (Prod.map id Slot.key) = keys := by
    rw [← List.zip_map_right, hkeys]
    exact (List.zip_of_prod rfl rfl).symm
  have hmem (o : Origin) (named : Bool) (name : String) :
      (∃ s, (o, s) ∈ (keys.map (·.1)).zip slots ∧ s.key = (named, name)) ↔
        (o, named, name) ∈ keys := by
    conv_rhs => rw [← hpairs]
    simp
  have hdefinition (o : Origin) (n : String) :
      (∃ s, (o, s) ∈ (keys.map (·.1)).zip slots ∧ s.holds n = true) ↔ FirstDefinition n body o := by
    simp only [Slot.holds_eq, beq_iff_eq]
    rw [hmem, hlists.definition, firstAmong_placed h]
  refine ⟨(keys.map (·.1)).zip slots, ⟨?_, fun o name => ?_, hdefinition, fun n => ?_⟩,
    List.map_snd_zip (Nat.le_of_eq hlength)⟩
  · rw [List.map_fst_zip (Nat.le_of_eq hlength.symm)]
    exact hsorted.sublist hlists.sublist
  · have hplaces := exists_placed_iff h
      (fun s contributions i hs => adds_iff_of_eq_ok hs name) o
    simp only [Slot.key, Prod.mk.injEq] at hmem
    rw [hmem, hlists.function, hplaces, FunctionAt]
  · rw [← exists_firstDefinition_iff]
    simp only [← hdefinition, Prod.exists]

end KeyedAccess.Script
