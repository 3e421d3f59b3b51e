import KeyedAccess.Proofs.Script.Places

/-!
# Source order

The members of a class stand in the order of its functions and of the first definitions of its
names, whatever comes later in the body, and the members of some names do not depend on the
statements of other names.

Main statement: from which places of a body its members come, in which order, what is left of them
if only the statements of some names are kept, and what later statements do to their order.
-/

namespace KeyedAccess.Script

variable {frozen : Bool} {s : Statement} {contributions : List Contribution}

/-! ## Some of the names -/

/-- Whether a contribution is for one of some names. -/
def Contribution.concerns (names : List String) : Contribution → Bool
  | .defines m => names.contains m.name
  | .writes name => names.contains name
  | .adds _ => false

/-- Whether a statement defines one of some names or assigns its property. -/
def Statement.concerns (names : List String) : Statement → Bool
  | .declare (.name n) _ _ => names.contains n
  | .assign targets _ => (targetNames targets).any names.contains
  | .function isAsync decorators name _ _ _ =>
    match if isAsync then none else decorators.findSome? Expr.role with
    | some .reads => names.contains name
    | some (.writes property) => names.contains property
    | _ => false
  | _ => false

/-- Whether a target is one of some names. -/
def Expr.isNameOf (names : List String) : Expr → Bool
  | .name n => names.contains n
  | _ => false

/-- A statement of which only the targets with one of some names are left. -/
def Statement.reduced (names : List String) : Statement → Statement
  | .assign targets value => .assign (targets.filter (·.isNameOf names)) value
  | s => s

/-- What is left of a body if only some names count: the statements that define one of them or
assign its property, without the targets of other names. -/
def onlyFor (names : List String) (body : List Statement) : List Statement :=
  (body.filter (·.concerns names)).map (·.reduced names)

variable {names : List String}

/-- These are the statements that define one of the names or assign its property. -/
theorem concerns_iff : s.concerns names = true ↔ ∃ n ∈ names, Defines n s ∨ WritesTo n s := by
  constructor
  · intro h
    unfold Statement.concerns at h
    split at h
    next n type value => exact ⟨n, List.contains_iff_mem.mp h, .inl (.declared type value)⟩
    next targets value =>
      obtain ⟨n, hn, hnames⟩ := List.any_eq_true.mp h
      exact ⟨n, List.contains_iff_mem.mp hnames, .inl (.assigned value (mem_targetNames.mp hn))⟩
    next isAsync decorators name parameters result body =>
      split at h
      next hrole =>
        obtain ⟨rfl, hmark⟩ := role_of_function.mp hrole
        exact ⟨name, List.contains_iff_mem.mp h, .inl (.read parameters result body hmark)⟩
      next property hrole =>
        obtain ⟨rfl, hmark⟩ := role_of_function.mp hrole
        exact ⟨property, List.contains_iff_mem.mp h, .inr (.mk name parameters result body hmark)⟩
      next => cases h
    next => cases h
  · rintro ⟨n, hn, hd | hw⟩
    · have hcontains : names.contains n = true := List.contains_iff_mem.mpr hn
      cases hd with
      | declared => exact hcontains
      | assigned _ hmem =>
        exact List.any_eq_true.mpr ⟨n, mem_targetNames.mpr hmem, hcontains⟩
      | read _ _ _ hmark =>
        simpa [Statement.concerns, findSome?_role_eq_some_iff.mpr hmark] using hn
    · obtain ⟨name, parameters, result, body, hmark⟩ := hw
      simpa [Statement.concerns, findSome?_role_eq_some_iff.mpr hmark] using hn

private theorem targetNames_filter (targets : List Expr) :
    targetNames (targets.filter (·.isNameOf names)) =
      (targetNames targets).filter names.contains := by
  rw [targetNames, targetNames, List.filterMap_filter, List.filter_filterMap]
  refine List.filterMap_congr fun target _ => ?_
  cases target <;> simp [Expr.isNameOf, Option.filter]

/-- A statement other than an assignment is for the same names as what it contributes. -/
theorem concerns_of_mem (h : Contributes frozen s contributions)
    (hs : ∀ targets value, s ≠ .assign targets value) {c : Contribution} (hc : c ∈ contributions) :
    c.concerns names = s.concerns names := by
  cases h with
  | declared value hm =>
    cases List.mem_singleton.mp hc
    rw [Contribution.concerns, name_of_declaredMember hm, Statement.concerns]
  | assigned targets value => exact absurd rfl (hs targets value)
  | function _ _ _ hrole =>
    cases List.mem_singleton.mp hc
    simp only [Statement.concerns, no_role_of_function.mpr hrole, Contribution.concerns]
  | read _ _ _ hmark =>
    cases List.mem_singleton.mp hc
    simp [Statement.concerns, findSome?_role_eq_some_iff.mpr hmark, Contribution.concerns,
      readMember]
  | writes _ _ _ _ hmark =>
    cases List.mem_singleton.mp hc
    simp [Statement.concerns, findSome?_role_eq_some_iff.mpr hmark, Contribution.concerns]
  | other | rest => cases hc

/-- The contributions of what is left of a statement are those for the names. -/
theorem contributions_reduced (h : s.contributions frozen = .ok contributions)
    (hs : s.concerns names = true) :
    (s.reduced names).contributions frozen = .ok (contributions.filter (·.concerns names)) := by
  cases s with
  | assign targets value =>
    cases h
    rw [Statement.reduced, Statement.contributions, targetNames_filter, List.filter_map]
    rfl
  | _ =>
    rw [List.filter_eq_self.mpr fun c hc => ?_]
    · exact h
    · exact (concerns_of_mem (contributes_of_eq_ok h)
        (fun _ _ => Statement.noConfusion) hc).trans hs

/-- Nothing is left of a statement that contributes nothing for the names. -/
theorem filter_contributions_eq_nil (h : s.contributions frozen = .ok contributions)
    (hs : ¬ s.concerns names = true) : contributions.filter (·.concerns names) = [] := by
  refine List.filter_eq_nil_iff.mpr fun c hc hn => hs ?_
  cases s with
  | assign targets value =>
    cases h
    obtain ⟨name, hname, rfl⟩ := List.mem_map.mp hc
    exact List.any_eq_true.mpr ⟨name, hname, hn⟩
  | _ =>
    refine (concerns_of_mem (contributes_of_eq_ok h) (fun _ _ => ?_) hc).symm.trans hn
    exact Statement.noConfusion

/-- What is left of a body contributes what the body does for the names. -/
theorem mapM_contributions_onlyFor {body : List Statement} {collected : List (List Contribution)}
    (h : List.Forall₂ (fun s contributions => s.contributions frozen = .ok contributions) body
      collected) :
    ∃ kept, (onlyFor names body).mapM (Statement.contributions frozen) = .ok kept ∧
      kept.flatten = collected.flatten.filter (·.concerns names) := by
  induction h with
  | nil => exact ⟨[], rfl, rfl⟩
  | @cons s contributions body collected hfirst _ ih =>
    obtain ⟨kept, hkept, hflatten⟩ := ih
    rw [List.flatten_cons, List.filter_append, ← hflatten, onlyFor]
    by_cases hs : s.concerns names = true
    · rw [List.filter_cons_of_pos hs]
      refine ⟨_ :: kept, mapM_eq_ok_iff.mpr (.cons (contributions_reduced hfirst hs) ?_), rfl⟩
      exact mapM_eq_ok_iff.mp hkept
    · rw [List.filter_cons_of_neg hs, filter_contributions_eq_nil hfirst hs]
      exact ⟨kept, hkept, rfl⟩

/-- A slot is one of some names if it holds one of them. -/
theorem any_holds_iff {s : Slot} :
    names.any s.holds = true ↔ s.named = true ∧ s.member.name ∈ names := by
  simp [Slot.holds_iff, List.any_eq_true, and_comm]

private theorem filter_update {name : String} (change : Member → Member) (slots : List Slot)
    (hchange : ∀ m, m.name = name → (change m).name = name) :
    (slots.map (·.update name change)).filter (fun s => names.any s.holds) =
      if names.contains name then
        (slots.filter fun s => names.any s.holds).map (·.update name change)
      else slots.filter fun s => names.any s.holds := by
  have hkept : ∀ s : Slot, names.any (s.update name change).holds = names.any s.holds :=
    fun s => congrArg names.any (funext fun n => Slot.holds_update hchange s)
  rw [List.filter_map]
  simp only [Function.comp_def, hkept]
  split
  next => rfl
  next hname =>
    refine (List.map_congr_left fun s hs => if_neg fun hholds => hname ?_).trans (List.map_id _)
    have hs := (any_holds_iff.mp (List.mem_filter.mp hs).2).2
    rw [(Slot.holds_iff.mp hholds).2] at hs
    exact List.contains_iff_mem.mpr hs

/-- A contribution changes the slots of some names only if it is for one of them. -/
theorem filter_contribute (slots : List Slot) (c : Contribution) :
    (contribute slots c).filter (fun s => names.any s.holds) =
      if c.concerns names then contribute (slots.filter fun s => names.any s.holds) c
      else slots.filter fun s => names.any s.holds := by
  have hconcat (s : Slot) : (slots ++ [s]).filter (fun s => names.any s.holds) =
      if names.any s.holds then slots.filter (fun s => names.any s.holds) ++ [s]
      else slots.filter fun s => names.any s.holds := by
    rw [List.filter_append, List.filter_singleton]
    cases names.any s.holds with
    | true => rfl
    | false => exact List.append_nil _
  cases c with
  | adds m =>
    exact (hconcat ⟨m, false⟩).trans (if_neg fun h => Bool.false_ne_true (any_holds_iff.mp h).1)
  | writes name => exact filter_update assignable slots fun _ h => h
  | defines m =>
    have hnew : names.any (⟨m, true⟩ : Slot).holds = names.contains m.name := by
      rw [Bool.eq_iff_iff, any_holds_iff, List.contains_iff_mem]
      exact and_iff_right rfl
    rw [contribute, Contribution.concerns]
    split
    next hany =>
      refine (filter_update (fun _ => m) slots fun _ _ => rfl).trans ?_
      refine ite_congr rfl (fun hname => ?_) fun _ => rfl
      obtain ⟨s, hs, hholds⟩ := List.any_eq_true.mp hany
      refine (if_pos (List.any_eq_true.mpr ⟨s, List.mem_filter.mpr ⟨hs, ?_⟩, hholds⟩)).symm
      exact List.any_eq_true.mpr ⟨m.name, List.contains_iff_mem.mp hname, hholds⟩
    next hany =>
      rw [hconcat, hnew]
      refine ite_congr rfl (fun _ => (if_neg fun h => hany ?_).symm) fun _ => rfl
      obtain ⟨s, hs, hholds⟩ := List.any_eq_true.mp h
      exact List.any_eq_true.mpr ⟨s, (List.mem_filter.mp hs).1, hholds⟩

/-- So the contributions for some names give the slots of these names. -/
theorem foldl_contribute_filter (steps : List Contribution) :
    (steps.filter (·.concerns names)).foldl contribute [] =
      (steps.foldl contribute []).filter fun s => names.any s.holds := by
  induction steps using List.reverseRecOn with
  | nil => rfl
  | append_singleton steps last ih =>
    rw [List.filter_append, List.foldl_append, List.foldl_append, ih]
    refine Eq.trans ?_ (filter_contribute _ last).symm
    cases hlast : last.concerns names <;> simp [hlast]

/-! ## Later statements -/

private theorem map_key_prefix_contribute (slots : List Slot) (c : Contribution) :
    slots.map Slot.key <+: (contribute slots c).map Slot.key := by
  have hconcat (s : Slot) : slots.map Slot.key <+: (slots ++ [s]).map Slot.key := by
    rw [List.map_append]
    exact List.prefix_append _ _
  cases c with
  | defines m =>
    rw [contribute]
    split
    next => exact (map_key_update (fun _ => m) slots fun _ _ => rfl) ▸ List.prefix_rfl
    next => exact hconcat _
  | adds m => exact hconcat _
  | writes name => exact (map_key_update assignable slots fun _ h => h) ▸ List.prefix_rfl

/-- Later contributions leave the slots in their places. -/
theorem map_key_prefix_foldl (later : List Contribution) (slots : List Slot) :
    slots.map Slot.key <+: (later.foldl contribute slots).map Slot.key := by
  induction later generalizing slots with
  | nil => exact List.prefix_rfl
  | cons c later ih => exact (map_key_prefix_contribute slots c).trans (ih _)

/-- Definitions of names that have slots, and setters, add none. -/
theorem map_key_foldl_eq {later : List Contribution} {slots : List Slot}
    (hadds : ∀ m, .adds m ∉ later)
    (hdefines : ∀ m, .defines m ∈ later → slots.any (·.holds m.name) = true) :
    (later.foldl contribute slots).map Slot.key = slots.map Slot.key := by
  induction later generalizing slots with
  | nil => rfl
  | cons c later ih =>
    have hkeys : (contribute slots c).map Slot.key = slots.map Slot.key := by
      cases c with
      | defines m =>
        rw [contribute, if_pos (hdefines m List.mem_cons_self)]
        exact map_key_update (fun _ => m) slots fun _ _ => rfl
      | adds m => exact absurd List.mem_cons_self (hadds m)
      | writes name => exact map_key_update assignable slots fun _ h => h
    have hany (n : String) : (contribute slots c).any (·.holds n) = slots.any (·.holds n) := by
      simpa only [List.any_map, Function.comp_def, ← Slot.holds_eq] using
        congrArg (List.any · (· == (true, n))) hkeys
    rw [List.foldl_cons, ← hkeys]
    refine ih (fun m hm => hadds m (List.mem_cons_of_mem _ hm)) fun m hm => ?_
    rw [hany]
    exact hdefines m (List.mem_cons_of_mem _ hm)

/-- A contribution of a body stands among those of one of its statements. -/
theorem exists_of_mem_flatten {body : List Statement} {collected : List (List Contribution)}
    (h : body.mapM (Statement.contributions frozen) = .ok collected) {c : Contribution}
    (hc : c ∈ collected.flatten) :
    ∃ s ∈ body, ∃ (contributions : List Contribution) (i : Nat),
      s.contributions frozen = .ok contributions ∧ contributions[i]? = some c := by
  obtain ⟨contributions, hcontributions, hmem⟩ := List.mem_flatten.mp hc
  obtain ⟨s, hs, hok⟩ := exists_of_mapM h hcontributions
  obtain ⟨i, hi⟩ := List.getElem?_of_mem hmem
  exact ⟨s, hs, contributions, i, hok, hi⟩

/-! ## Members in source order -/

/-- The members of a class can be given exactly if the types in its body can be written. -/
theorem exists_membersOf_iff {body : List Statement} :
    (∃ members, membersOf frozen body = .ok members) ↔
      ∀ s ∈ body, ∀ type, WritesType s type → ∃ text, type.text = .ok text := by
  have hmembers : (∃ members, membersOf frozen body = .ok members) ↔
      ∃ collected, body.mapM (Statement.contributions frozen) = .ok collected := by
    simp only [membersOf, bind_eq_ok_iff]
    constructor
    · rintro ⟨_, collected, h, -⟩
      exact ⟨collected, h⟩
    · rintro ⟨collected, h⟩
      exact ⟨_, collected, h, rfl⟩
  rw [hmembers, exists_mapM_iff]
  exact forall₂_congr fun _ _ => exists_contributions_iff

/-- The members of a class are those of its functions and of the first definitions of its names, in
the order of their places. If all other statements are left out, the members of some names and
their order stay the same. Later statements leave the members in their places, and later
definitions of the same names and setters add none. -/
theorem members_in_source_order (frozen : Bool) (body : List Statement) :
    ((∃ members, membersOf frozen body = .ok members) ↔
      ∀ s ∈ body, ∀ type, WritesType s type → ∃ text, type.text = .ok text) ∧
    ∀ members, membersOf frozen body = .ok members →
      (∃ entries, InSourceOrder body entries ∧ members = entries.map (·.2.member) ∧
        ∀ names, membersOf frozen (onlyFor names body) =
          .ok ((entries.filter fun e => names.any e.2.holds).map (·.2.member))) ∧
      ∀ later all, membersOf frozen (body ++ later) = .ok all →
        members.map (·.name) <+: all.map (·.name) ∧
        ((∀ s ∈ later, (∀ name, ¬ IsFunction name s) ∧
            ∀ n, Defines n s → ∃ earlier ∈ body, Defines n earlier) →
          all.map (·.name) = members.map (·.name)) := by
  refine ⟨exists_membersOf_iff, fun members hmembers => ?_⟩
  obtain ⟨collected, hcollected, ⟨⟩⟩ := bind_eq_ok_iff.mp hmembers
  have hplaces := mapM_eq_ok_iff.mp hcollected
  obtain ⟨entries, hentries, hslots⟩ := exists_inSourceOrder hplaces
  rw [← hslots]
  refine ⟨⟨entries, hentries, List.map_map, fun names => ?_⟩, fun later all hall => ?_⟩
  · obtain ⟨kept, hkept, hflatten⟩ : ∃ kept,
        (onlyFor names body).mapM (Statement.contributions frozen) = .ok kept ∧
          kept.flatten = collected.flatten.filter (·.concerns names) :=
      mapM_contributions_onlyFor hplaces
    refine bind_eq_ok_iff.mpr ⟨kept, hkept, ?_⟩
    rw [hflatten, foldl_contribute_filter, ← hslots, List.filter_map, List.map_map]
    rfl
  · obtain ⟨_, hboth, ⟨⟩⟩ := bind_eq_ok_iff.mp hall
    rw [List.mapM_append, hcollected] at hboth
    obtain ⟨_, ⟨⟩, hrest⟩ := bind_eq_ok_iff.mp hboth
    obtain ⟨further, hfurther, ⟨⟩⟩ := bind_eq_ok_iff.mp hrest
    have hnames (slots : List Slot) :
        (slots.map (·.member)).map (·.name) = (slots.map Slot.key).map (·.2) := by
      rw [List.map_map, List.map_map]
      rfl
    rw [List.flatten_append, List.foldl_append, ← hslots, hnames, hnames]
    refine ⟨(map_key_prefix_foldl _ _).map _, fun hlater => congrArg _ (map_key_foldl_eq ?_ ?_)⟩
    · intro m hm
      obtain ⟨s, hs, contributions, i, hok, hi⟩ := exists_of_mem_flatten hfurther hm
      exact (hlater s hs).1 m.name ((adds_iff_of_eq_ok hok _).mp ⟨m, hi, rfl⟩).1
    · intro m hm
      obtain ⟨s, hs, contributions, i, hok, hi⟩ := exists_of_mem_flatten hfurther hm
      have hdefines := (contributes_of_eq_ok hok).defines_iff.mp ⟨m, hi, rfl⟩
      obtain ⟨e, he, hholds⟩ := (hentries.complete m.name).mpr
        ((hlater s hs).2 m.name (exists_definesAt_iff.mp ⟨i, hdefines⟩))
      exact List.any_eq_true.mpr ⟨e.2, List.mem_map_of_mem he, hholds⟩

/-- The body of a class that defines a name twice between its functions. -/
def gaugeBody : List Statement := [
  .function false [] "reset" [] none [],
  .assign [.name "low", .name "high"] (.name "zero"),
  .function false [.name "property"] "level" [] (some (.name "int")) [],
  .declare (.name "low") (.name "int") none,
  .function false [.member (.name "level") "setter"] "change" [] none [],
  .function false [] "reset" [] none []]

/-- A further definition of a name stays in the place of the first one. -/
theorem gauge_keeps_order :
    ∃ members all entries, membersOf false gaugeBody = .ok members ∧
      membersOf false (gaugeBody ++ [.declare (.name "high") (.name "int") none]) = .ok all ∧
      InSourceOrder gaugeBody entries ∧ members = entries.map (·.2.member) ∧
      members.map (·.name) = ["reset", "low", "high", "level", "reset"] ∧
      all.map (·.name) = members.map (·.name) := by
  obtain ⟨members, hmembers⟩ : ∃ members, membersOf false gaugeBody = .ok members := ⟨_, rfl⟩
  obtain ⟨all, hall⟩ : ∃ all, membersOf false (gaugeBody ++
    [Statement.declare (.name "high") (.name "int") none]) = .ok all := ⟨_, rfl⟩
  obtain ⟨⟨entries, hentries, heq, -⟩, hlater⟩ :=
    (members_in_source_order false gaugeBody).2 members hmembers
  refine ⟨members, all, entries, hmembers, hall, hentries, heq, ?_,
    (hlater _ all hall).2 fun s hs => ?_⟩
  · cases hmembers
    rfl
  · cases List.mem_singleton.mp hs
    refine ⟨fun n hn => ?_, fun n hn => ?_⟩ <;> cases hn
    exact ⟨_, List.mem_cons_of_mem _ List.mem_cons_self, .assigned _ (by simp)⟩

end KeyedAccess.Script
