import KeyedAccess.Script.Meaning
import Mathlib.Data.List.Induction

/-!
# Slots of a name

The members of a class are collected contribution by contribution: a definition replaces the member
of its name, a setter makes it writable, and a function takes no name. What this makes of a single
name can be followed without the other names.
-/

namespace KeyedAccess.Script

/-! ## The slots of one name -/

/-- A member that can be assigned at any time. -/
def assignable (m : Member) : Member := { m with setter := some .always }

/-- What a contribution makes of the member of a name. -/
def entryAfter (n : String) (entry : Option Member) : Contribution → Option Member
  | .defines m => if m.name = n then some m else entry
  | .adds _ => entry
  | .writes name => if name = n then entry.map assignable else entry

/-- Some slots hold a name for nothing else than its member, if it has one. -/
structure Tracks (n : String) (slots : List Slot) (entry : Option Member) : Prop where
  /-- The slots of the name. -/
  filter_eq : slots.filter (·.holds n) = entry.toList.map (⟨·, true⟩)
  /-- The member has the name. -/
  name_eq : ∀ m ∈ entry, m.name = n

variable {n : String} {slots : List Slot} {entry : Option Member}

/-- A slot holds the name of its member, if it holds one. -/
theorem Slot.holds_iff {s : Slot} : s.holds n = true ↔ s.named = true ∧ s.member.name = n := by
  rw [Slot.holds, Bool.and_eq_true, beq_iff_eq]

/-- Changes the member of a slot that holds a name. -/
def Slot.update (name : String) (change : Member → Member) (s : Slot) : Slot :=
  if s.holds name then { s with member := change s.member } else s

/-- If the member keeps its name, so does the slot. -/
theorem Slot.holds_update {name : String} {change : Member → Member}
    (hchange : ∀ m, m.name = name → (change m).name = name) (s : Slot) :
    (s.update name change).holds n = s.holds n := by
  rw [Slot.update]
  split
  next hs =>
    have hname := (Slot.holds_iff.mp hs).2
    rw [Slot.holds, Slot.holds, hchange _ hname, hname]
  next => rfl

/-- Then the slots of a name are those that were changed. -/
theorem filter_holds_update {name : String} {change : Member → Member}
    (hchange : ∀ m, m.name = name → (change m).name = name) :
    (slots.map (·.update name change)).filter (·.holds n) =
      (slots.filter (·.holds n)).map (·.update name change) := by
  rw [List.filter_map]
  exact congrArg _ (List.filter_congr fun s _ => Slot.holds_update hchange s)

/-- If the slots of a name change, so does its member. -/
theorem Tracks.update_self (h : Tracks n slots entry) (change : Member → Member)
    (hchange : ∀ m, m.name = n → (change m).name = n) :
    Tracks n (slots.map (·.update n change)) (entry.map change) where
  filter_eq := by
    rw [filter_holds_update hchange, h.filter_eq]
    cases entry with
    | none => rfl
    | some m =>
      have hholds : (⟨m, true⟩ : Slot).holds n = true := Slot.holds_iff.mpr ⟨rfl, h.name_eq m rfl⟩
      exact congrArg ([·]) (if_pos hholds)
  name_eq m hm := by
    obtain ⟨old, hold, rfl⟩ := Option.map_eq_some_iff.mp hm
    exact hchange old (h.name_eq old hold)

/-- If the slots of another name change, it stays. -/
theorem Tracks.update_of_ne (h : Tracks n slots entry) {name : String} (hne : name ≠ n)
    (change : Member → Member) (hchange : ∀ m, m.name = name → (change m).name = name) :
    Tracks n (slots.map (·.update name change)) entry where
  filter_eq := by
    have hother : ∀ s ∈ slots.filter (·.holds n), s.update name change = s := by
      intro s hs
      refine if_neg fun hholds => hne ?_
      rw [← (Slot.holds_iff.mp hholds).2, (Slot.holds_iff.mp (List.mem_filter.mp hs).2).2]
    rw [filter_holds_update hchange, List.map_congr_left hother, List.map_id', h.filter_eq]
  name_eq := h.name_eq

/-- A further slot counts for the name that it holds. -/
theorem Tracks.concat (h : Tracks n slots entry) {s : Slot} (hs : s.holds n = false) :
    Tracks n (slots ++ [s]) entry where
  filter_eq := by
    rw [List.filter_append, h.filter_eq, List.filter_cons_of_neg (by simp [hs]), List.filter_nil,
      List.append_nil]
  name_eq := h.name_eq

/-- A name has a member exactly if a slot holds it. -/
theorem Tracks.any_eq (h : Tracks n slots entry) : slots.any (·.holds n) = entry.isSome := by
  have hfilter := h.filter_eq
  cases entry with
  | none =>
    rw [Option.isSome_none, List.any_eq_false]
    exact List.filter_eq_nil_iff.mp hfilter
  | some m =>
    have hmem : (⟨m, true⟩ : Slot) ∈ slots.filter (·.holds n) := hfilter ▸ List.mem_singleton_self _
    exact List.any_eq_true.mpr ⟨_, (List.mem_filter.mp hmem).1, (List.mem_filter.mp hmem).2⟩

/-- A name without a member takes a slot behind the others. -/
theorem Tracks.define (h : Tracks n slots none) {m : Member} (hm : m.name = n) :
    Tracks n (slots ++ [⟨m, true⟩]) (some m) where
  filter_eq := by
    have hholds : (⟨m, true⟩ : Slot).holds n = true := Slot.holds_iff.mpr ⟨rfl, hm⟩
    simp [h.filter_eq, hholds]
  name_eq _ he := Option.some.inj he ▸ hm

/-- Every contribution changes the slots of a name as it changes the member of the name. -/
theorem Tracks.contribute (h : Tracks n slots entry) (c : Contribution) :
    Tracks n (contribute slots c) (entryAfter n entry c) := by
  cases c with
  | defines m =>
    rw [Script.contribute, entryAfter]
    have hkept : ∀ old : Member, old.name = m.name → m.name = m.name := fun _ _ => rfl
    split
    next hany =>
      split
      next hm =>
        subst hm
        obtain ⟨old, rfl⟩ := Option.isSome_iff_exists.mp (h.any_eq ▸ hany)
        exact h.update_self (fun _ => m) hkept
      next hne => exact h.update_of_ne hne (fun _ => m) hkept
    next hany =>
      split
      next hm =>
        subst hm
        obtain rfl := Option.not_isSome_iff_eq_none.mp (h.any_eq ▸ hany)
        exact h.define rfl
      next hne =>
        exact h.concat (Bool.eq_false_iff.mpr fun hholds => hne (Slot.holds_iff.mp hholds).2)
  | adds m => exact h.concat rfl
  | writes name =>
    rw [Script.contribute, entryAfter]
    split
    next hname =>
      subst hname
      exact h.update_self assignable fun _ hm => hm
    next hne => exact h.update_of_ne hne assignable fun _ hm => hm

/-- So the slots of a name at the end are those of its member at the end. -/
theorem tracks_foldl (n : String) (contributions : List Contribution) :
    Tracks n (contributions.foldl Script.contribute [])
    (contributions.foldl (entryAfter n) none) := by
  induction contributions using List.reverseRecOn with
  | nil => exact ⟨rfl, nofun⟩
  | append_singleton contributions last ih =>
    rw [List.foldl_append, List.foldl_append]
    exact ih.contribute last

/-! ## Members that are reached -/

/-- Every member that keyed access can reach holds its name. -/
def ReachedByName (slots : List Slot) : Prop :=
  ∀ s ∈ slots, s.member.eligible = true → s.named = true

/-- Only slots that hold their names change. -/
theorem ReachedByName.update (h : ReachedByName slots) (name : String)
    (change : Member → Member) : ReachedByName (slots.map (·.update name change)) := by
  intro s hs he
  obtain ⟨old, hold, rfl⟩ := List.mem_map.mp hs
  rw [Slot.update] at he ⊢
  split
  next hholds => exact (Slot.holds_iff.mp hholds).1
  next hholds =>
    rw [if_neg hholds] at he
    exact h old hold he

/-- A further slot that cannot be reached, or that holds its name, changes nothing. -/
theorem ReachedByName.concat (h : ReachedByName slots) {s : Slot}
    (hs : s.member.eligible = true → s.named = true) : ReachedByName (slots ++ [s]) := by
  intro s' hs' he
  rcases List.mem_append.mp hs' with hold | hnew
  · exact h s' hold he
  · cases List.mem_singleton.mp hnew
    exact hs he

/-- Every contribution keeps what keyed access can reach under its name. -/
theorem ReachedByName.contribute (h : ReachedByName slots) {c : Contribution}
    (hc : ∀ m, c = .adds m → m.eligible = false) : ReachedByName (contribute slots c) := by
  cases c with
  | defines m =>
    rw [Script.contribute]
    split
    next => exact h.update m.name fun _ => m
    next => exact h.concat fun _ => rfl
  | adds m => exact h.concat fun he => by rw [hc m rfl] at he; cases he
  | writes name => exact h.update name assignable

/-- The members of a class that are reached hold their names. -/
theorem reachedByName_foldl {contributions : List Contribution}
    (h : ∀ m, .adds m ∈ contributions → m.eligible = false) :
    ReachedByName (contributions.foldl Script.contribute []) := by
  induction contributions using List.reverseRecOn with
  | nil => exact nofun
  | append_singleton contributions last ih =>
    rw [List.foldl_append]
    refine (ih fun m hm => h m (List.mem_append_left _ hm)).contribute ?_
    rintro m rfl
    exact h m (List.mem_append_right _ (List.mem_singleton_self _))

/-- The properties of a name are those of its member, if keyed access can reach it. -/
theorem filter_properties (h : Tracks n slots entry) (hnamed : ReachedByName slots) :
    (((slots.map (·.member)).filter Member.eligible).map Member.toProperty).filter (·.name == n) =
      (entry.filter Member.eligible).toList.map Member.toProperty := by
  have hslots : ∀ s ∈ slots, (s.member.eligible && s.member.name == n) =
      (s.holds n && s.member.eligible) := by
    intro s hs
    rw [Slot.holds]
    cases he : s.member.eligible with
    | false => simp
    | true => simp [hnamed s hs he]
  have hfilter : slots.filter (fun s => s.member.eligible && s.member.name == n) =
      (slots.filter (·.holds n)).filter (·.member.eligible) := by
    rw [List.filter_filter]
    exact List.filter_congr fun s hs => (hslots s hs).trans (Bool.and_comm _ _)
  have hmembers : ((slots.map (·.member)).filter Member.eligible).filter (·.name == n) =
      ((slots.filter (·.holds n)).filter (·.member.eligible)).map (·.member) := by
    rw [← hfilter, List.filter_filter, List.filter_map]
    exact congrArg _ (List.filter_congr fun s _ => Bool.and_comm _ _)
  -- a property has the name of its member
  rw [List.filter_map]
  refine (congrArg (List.map Member.toProperty) hmembers).trans ?_
  rw [h.filter_eq]
  cases entry with
  | none => rfl
  | some m => cases he : m.eligible <;> simp [he, Option.filter]

end KeyedAccess.Script
