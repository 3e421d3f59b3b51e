import KeyedAccess.Proofs.Script.Contributions
import KeyedAccess.Proofs.Script.Slots

/-!
# The members of a class

The last statement that defines a name says what the name stands for, and of all other statements
only the setters behind that statement count.

Main statement: which names keyed access reaches in a class, and what it can do with them.
-/

namespace KeyedAccess.Script

/-! ## The last definition -/

variable {n : String} {entry : Option Member} {frozen : Bool} {s : Statement}
  {contributions : List Contribution}

private theorem foldl_variables (names : List String) :
    (names.map fun name => Contribution.defines (variableMember name unknownType)).foldl
        (entryAfter n) entry =
      if n ∈ names then some (variableMember n unknownType) else entry := by
  induction names generalizing entry with
  | nil => rfl
  | cons name names ih =>
    rw [List.map_cons, List.foldl_cons, ih, entryAfter]
    by_cases hname : name = n
    · subst hname
      simp [variableMember]
    · simp [variableMember, hname, Ne.symm hname]

/-- A statement that defines no name and assigns no property of it leaves its member. -/
theorem Contributes.foldl_of_neither (h : Contributes frozen s contributions) (hd : ¬ Defines n s)
    (hw : ¬ WritesTo n s) : contributions.foldl (entryAfter n) entry = entry := by
  cases h with
  | @declared id type value m hm =>
    have hne : m.name ≠ n := by
      intro hname
      rw [← (name_of_declaredMember hm).symm.trans hname] at hd
      exact hd (.declared _ value)
    exact if_neg hne
  | assigned targets value =>
    have hnot : n ∉ targetNames targets := fun hmem =>
      hd (.assigned value (mem_targetNames.mp hmem))
    rw [foldl_variables, if_neg hnot]
  | function name parameters body hrole ht => rfl
  | read name parameters body hrole ht =>
    refine if_neg fun hname => hd ?_
    obtain rfl : name = n := hname
    exact .read parameters _ body hrole
  | writes name parameters result body hrole =>
    refine if_neg fun hname => hw ?_
    subst hname
    exact .mk name parameters result body hrole
  | other | rest => rfl

/-- A statement that assigns the property of a name makes its member assignable. -/
theorem Contributes.foldl_of_writesTo (h : Contributes frozen s contributions)
    (hw : WritesTo n s) : contributions.foldl (entryAfter n) entry = entry.map assignable := by
  obtain ⟨name, parameters, result, body, hmark⟩ := hw
  rw [h.of_writes hmark]
  exact if_pos rfl

/-- Everybody may use what has such a name. -/
theorem accessibilityOfName_eq (hn : n.toList.head? ≠ some '_') :
    accessibilityOfName n = .everyone := if_neg (by simpa using hn)

/-- A statement makes a member the property of a name, or no property. -/
structure Makes (frozen : Bool) (n : String) (s : Statement) (m : Member) : Prop where
  /-- Keyed access reaches the member exactly if the statement makes a property. -/
  eligible_iff : m.eligible = true ↔ ∃ type free, MakesProperty n s type free
  /-- The property can be read, has the type that the statement gives, and can be assigned unless
  the statement or the class says otherwise. -/
  toProperty_eq : ∀ type free, MakesProperty n s type free → ∃ text, typeText type = .ok text ∧
    m.toProperty = ⟨n, text, true, free && !frozen⟩

/-- A declared member is made by its declaration. -/
theorem makes_of_declaredMember {type : Expr} (value : Option Expr) {m : Member}
    (hn : n.toList.head? ≠ some '_') (h : declaredMember frozen n type = .ok m) :
    Makes frozen n (.declare (.name n) type value) m := by
  have hpublic := accessibilityOfName_eq hn
  rcases declaredMember_cases h with
    ⟨hq, text, ht, rfl⟩ | ⟨inner, hq, text, ht, rfl⟩ | ⟨q, inner, hq, hne, text, -, rfl⟩
  · refine ⟨iff_of_true ?_ ⟨_, _, .plain value hq⟩, fun type' free hp => ?_⟩
    · simp [Member.eligible, hpublic]
    · cases hp with
      | plain _ _ =>
        refine ⟨text, ht, ?_⟩
        cases frozen <;> rfl
      | final _ hq' => cases hq.symm.trans hq'
  · refine ⟨iff_of_true ?_ ⟨_, _, .final value hq⟩, fun type' free hp => ?_⟩
    · simp [Member.eligible, hpublic]
    · cases hp with
      | plain _ hq' => cases hq.symm.trans hq'
      | final _ hq' =>
        cases hq.symm.trans hq'
        exact ⟨text, ht, rfl⟩
  · have hnone : ∀ type' free, ¬ MakesProperty n (.declare (.name n) type value) type' free := by
      intro type' free hp
      cases hp with
      | plain _ hq' => cases hq.symm.trans hq'
      | final _ hq' =>
        cases hq.symm.trans hq'
        exact hne rfl
    have hineligible : ¬ ∃ type' free,
        MakesProperty n (.declare (.name n) type value) type' free := by
      rintro ⟨type', free, hp⟩
      exact hnone type' free hp
    exact ⟨iff_of_false Bool.false_ne_true hineligible,
      fun type' free hp => absurd hp (hnone type' free)⟩

/-- A statement that defines a name gives it a member, whatever member it had. -/
theorem Contributes.exists_of_defines (h : Contributes frozen s contributions) (hd : Defines n s)
    (hn : n.toList.head? ≠ some '_') :
    ∃ m, (∀ entry, contributions.foldl (entryAfter n) entry = some m) ∧ Makes frozen n s m := by
  cases hd with
  | declared type value =>
    obtain ⟨m, hm, rfl⟩ := h.of_declare
    exact ⟨m, fun _ => if_pos (name_of_declaredMember hm), makes_of_declaredMember value hn hm⟩
  | @assigned targets value hmem =>
    obtain rfl := h.of_assign
    have hnone : ∀ type free, ¬ MakesProperty n (.assign targets value) type free :=
      fun _ _ => nofun
    refine ⟨variableMember n unknownType, fun entry => ?_, ?_, fun type free hp => ?_⟩
    · rw [foldl_variables, if_pos (mem_targetNames.mpr hmem)]
    · refine iff_of_false Bool.false_ne_true ?_
      rintro ⟨type, free, hp⟩
      exact hnone type free hp
    · exact absurd hp (hnone type free)
  | read parameters result body hmark =>
    obtain ⟨text, ht, rfl⟩ := h.of_reads hmark
    have heligible : (readMember n text).eligible = true := by
      simp [Member.eligible, readMember, accessibilityOfName_eq hn]
    refine ⟨readMember n text, fun _ => if_pos rfl,
      iff_of_true heligible ⟨_, _, .read parameters _ body hmark⟩, fun type free hp => ?_⟩
    cases hp
    exact ⟨text, ht, rfl⟩

/-! ## Whole bodies -/

variable {body after : List Statement} {collected : List (List Contribution)}

/-- A body adds what its statements add, one after the other. -/
theorem contributes_of_mapM (h : body.mapM (Statement.contributions frozen) = .ok collected) :
    List.Forall₂ (Contributes frozen) body collected :=
  (mapM_eq_ok_iff.mp h).imp fun _ _ => contributes_of_eq_ok

private theorem foldl_of_not_defines (h : List.Forall₂ (Contributes frozen) after collected)
    (hd : ∀ later ∈ after, ¬ Defines n later) (entry : Option Member) :
    ((∃ later ∈ after, WritesTo n later) ∧
        collected.flatten.foldl (entryAfter n) entry = entry.map assignable) ∨
      (¬ (∃ later ∈ after, WritesTo n later) ∧
        collected.flatten.foldl (entryAfter n) entry = entry) := by
  induction h generalizing entry with
  | nil => exact .inr ⟨nofun, rfl⟩
  | @cons s first after others hfirst hothers ih =>
    rw [List.flatten_cons, List.foldl_append]
    have hs := hd s List.mem_cons_self
    have hrest := ih fun later hl => hd later (List.mem_cons_of_mem _ hl)
    by_cases hw : WritesTo n s
    · rw [hfirst.foldl_of_writesTo hw]
      refine .inl ⟨⟨s, List.mem_cons_self, hw⟩, ?_⟩
      rcases hrest (entry.map assignable) with ⟨-, he⟩ | ⟨-, he⟩
      · rw [he]
        cases entry <;> rfl
      · exact he
    · rw [hfirst.foldl_of_neither hs hw]
      refine (hrest entry).imp (fun ⟨⟨later, hl, hlater⟩, he⟩ => ?_) fun ⟨hno, he⟩ => ⟨?_, he⟩
      · exact ⟨⟨later, List.mem_cons_of_mem _ hl, hlater⟩, he⟩
      · rintro ⟨later, hl, hlater⟩
        rcases List.mem_cons.mp hl with rfl | hl
        · exact hw hlater
        · exact hno ⟨later, hl, hlater⟩

private theorem exists_of_forall₂_append {before : List Statement}
    (h : List.Forall₂ (Contributes frozen) (before ++ body) collected) :
    ∃ front back, List.Forall₂ (Contributes frozen) body back ∧ collected = front ++ back := by
  induction before generalizing collected with
  | nil => exact ⟨[], collected, h, rfl⟩
  | cons s before ih =>
    obtain _ | ⟨-, hothers⟩ := h
    obtain ⟨front, back, hback, rfl⟩ := ih hothers
    exact ⟨_ :: front, back, hback, rfl⟩

/-- A name that is defined is defined by a last statement. -/
theorem exists_lastDefinition (h : ∃ s ∈ body, Defines n s) :
    ∃ s after, LastDefinition n body s after := by
  induction body with
  | nil =>
    obtain ⟨s, hs, -⟩ := h
    cases hs
  | cons first body ih =>
    by_cases hlater : ∃ s ∈ body, Defines n s
    · obtain ⟨s, after, ⟨before, rfl⟩, hs, hafter⟩ := ih hlater
      exact ⟨s, after, ⟨first :: before, rfl⟩, hs, hafter⟩
    · obtain ⟨s, hs, hd⟩ := h
      rcases List.mem_cons.mp hs with rfl | hs
      · exact ⟨s, body, ⟨[], rfl⟩, hd, fun later hl hd' => hlater ⟨later, hl, hd'⟩⟩
      · exact (hlater ⟨s, hs, hd⟩).elim

private theorem foldl_eq_none (h : List.Forall₂ (Contributes frozen) body collected)
    (hd : ∀ s ∈ body, ¬ Defines n s) : collected.flatten.foldl (entryAfter n) none = none := by
  rcases foldl_of_not_defines h hd none with ⟨-, he⟩ | ⟨-, he⟩ <;> exact he

/-- The last statement that defines a name makes its member, and only the setters behind that
statement change it. -/
theorem LastDefinition.exists_member (hlast : LastDefinition n body s after)
    (h : List.Forall₂ (Contributes frozen) body collected) (hn : n.toList.head? ≠ some '_') :
    ∃ m, Makes frozen n s m ∧
      (((∃ later ∈ after, WritesTo n later) ∧
          collected.flatten.foldl (entryAfter n) none = some (assignable m)) ∨
        (¬ (∃ later ∈ after, WritesTo n later) ∧
          collected.flatten.foldl (entryAfter n) none = some m)) := by
  obtain ⟨⟨before, rfl⟩, hd, hafter⟩ := hlast
  obtain ⟨front, _, _ | ⟨hfirst, hothers⟩, rfl⟩ := exists_of_forall₂_append h
  obtain ⟨m, hm, hmakes⟩ := hfirst.exists_of_defines hd hn
  refine ⟨m, hmakes, ?_⟩
  -- whatever the statements before it made of the name is replaced
  rw [List.flatten_append, List.flatten_cons, List.foldl_append, List.foldl_append, hm]
  exact foldl_of_not_defines hothers hafter (some m)

/-- What a body adds without a name is no property. -/
theorem eligible_of_adds (h : List.Forall₂ (Contributes frozen) body collected) {m : Member}
    (hm : .adds m ∈ collected.flatten) : m.eligible = false := by
  induction h with
  | nil => cases hm
  | cons hfirst _ ih =>
    rcases List.mem_append.mp hm with hm | hm
    · exact hfirst.eligible_of_adds hm
    · exact ih hm

/-! ## Classes -/

variable {module : Option String} {decorators bases : List Expr} {name : String}
  {named : List NamedArgument} {d : Declaration}

/-- A class is a declaration exactly if its members and its bases can be written. -/
theorem declaration_eq_ok_iff :
    (Statement.class decorators name bases named body).declaration module = .ok (some d) ↔
      ∃ collected texts,
        body.mapM (Statement.contributions (decorators.any Expr.freezes)) = .ok collected ∧
        bases.mapM Expr.text = .ok texts ∧
        d = { identifier := name, scope := properScope module
              members := (collected.flatten.foldl Script.contribute []).map (·.member)
              bases := texts
              augmentable := decorators.any fun d => d.markName == some completionMark } := by
  simp only [Statement.declaration, membersOf, bind_eq_ok_iff]
  constructor
  · rintro ⟨_, ⟨collected, hcollected, ⟨⟩⟩, texts, htexts, ⟨⟩⟩
    exact ⟨collected, texts, hcollected, htexts, rfl⟩
  · rintro ⟨collected, texts, hcollected, htexts, rfl⟩
    exact ⟨_, ⟨collected, hcollected, rfl⟩, texts, htexts, rfl⟩

/-- The properties of a name in a class are those of its member in the body. -/
theorem filter_properties_of_declaration
    (h : (Statement.class decorators name bases named body).declaration module = .ok (some d)) :
    ∃ collected, List.Forall₂ (Contributes (decorators.any Expr.freezes)) body collected ∧
      ∀ n, d.describe.properties.filter (·.name == n) =
        ((collected.flatten.foldl (entryAfter n) none).filter Member.eligible).toList.map
          Member.toProperty := by
  obtain ⟨collected, texts, hmapped, -, rfl⟩ := declaration_eq_ok_iff.mp h
  have hcollected := contributes_of_mapM hmapped
  refine ⟨collected, hcollected, fun n => ?_⟩
  exact filter_properties (tracks_foldl n _)
    (reachedByName_foldl fun m hm => eligible_of_adds hcollected hm)

/-- A class has a declaration exactly if the types in its body and its bases can be written. -/
theorem exists_declaration_iff :
    (∃ d, (Statement.class decorators name bases named body).declaration module = .ok (some d)) ↔
      (∀ s ∈ body, ∀ type, WritesType s type → ∃ text, type.text = .ok text) ∧
        ∀ base ∈ bases, ∃ text, base.text = .ok text := by
  have hbody : (∀ s ∈ body, ∀ type, WritesType s type → ∃ text, type.text = .ok text) ↔
      ∃ collected, body.mapM (Statement.contributions (decorators.any Expr.freezes)) =
        .ok collected := by
    rw [exists_mapM_iff]
    exact forall₂_congr fun _ _ => exists_contributions_iff.symm
  rw [hbody, ← exists_mapM_iff]
  simp only [declaration_eq_ok_iff]
  constructor
  · rintro ⟨_, collected, texts, hcollected, htexts, -⟩
    exact ⟨⟨collected, hcollected⟩, texts, htexts⟩
  · rintro ⟨⟨collected, hcollected⟩, texts, htexts⟩
    exact ⟨_, collected, texts, hcollected, htexts, rfl⟩

/-- The properties of a name that is not defined. -/
theorem filter_properties_of_not_defines
    (h : (Statement.class decorators name bases named body).declaration module = .ok (some d))
    (hd : ∀ s ∈ body, ¬ Defines n s) : d.describe.properties.filter (·.name == n) = [] := by
  obtain ⟨collected, hcollected, hproperties⟩ := filter_properties_of_declaration h
  rw [hproperties, foldl_eq_none hcollected hd]
  rfl

/-- The properties of a name are what its last definition makes of it, unless a setter behind that
definition makes it writable. -/
theorem LastDefinition.exists_filter_properties (hlast : LastDefinition n body s after)
    (h : (Statement.class decorators name bases named body).declaration module = .ok (some d))
    (hn : n.toList.head? ≠ some '_') :
    ∃ m, Makes (decorators.any Expr.freezes) n s m ∧ ∃ writable,
      d.describe.properties.filter (·.name == n) =
        (if m.eligible then [{ m.toProperty with writable }] else []) ∧
      (writable = true ↔ m.toProperty.writable = true ∨ ∃ later ∈ after, WritesTo n later) := by
  obtain ⟨collected, hcollected, hproperties⟩ := filter_properties_of_declaration h
  obtain ⟨m, hm, hentry⟩ := hlast.exists_member hcollected hn
  refine ⟨m, hm, ?_⟩
  rw [hproperties]
  rcases hentry with ⟨hwritten, he⟩ | ⟨hwritten, he⟩
  · have hkept : (assignable m).eligible = m.eligible := rfl
    refine ⟨true, ?_, iff_of_true rfl (.inr hwritten)⟩
    rw [he, Option.filter_some, hkept]
    cases m.eligible <;> rfl
  · refine ⟨m.toProperty.writable, ?_, (or_iff_left hwritten).symm⟩
    rw [he, Option.filter_some]
    cases m.eligible <;> rfl

/-- Keyed access reaches a name of a class exactly if the last statement that defines the name makes
it a property. Then it can be read, its type is the one that this statement gives, and it can be
assigned exactly if neither this statement nor the class forbids it or a setter comes behind the
statement. Nothing else in the body counts. -/
theorem properties_of_class (module : Option String) (decorators : List Expr) (name : String)
    (bases : List Expr) (named : List NamedArgument) (body : List Statement) :
    ((∃ d, (Statement.class decorators name bases named body).declaration module = .ok (some d)) ↔
      (∀ s ∈ body, ∀ type, WritesType s type → ∃ text, type.text = .ok text) ∧
        ∀ base ∈ bases, ∃ text, base.text = .ok text) ∧
    ∀ d, (Statement.class decorators name bases named body).declaration module = .ok (some d) →
      ∀ n : String, n.toList.head? ≠ some '_' →
        ((∃ p ∈ d.describe.properties, p.name = n) ↔
          ∃ s after type free, LastDefinition n body s after ∧ MakesProperty n s type free) ∧
        ∀ s after type free, LastDefinition n body s after → MakesProperty n s type free →
          ∃ text writable, typeText type = .ok text ∧
            d.describe.properties.filter (·.name == n) = [⟨n, text, true, writable⟩] ∧
            (writable = true ↔
              (free = true ∧ ¬ decorators.any Expr.freezes) ∨
                ∃ later ∈ after, WritesTo n later) := by
  refine ⟨exists_declaration_iff, fun d h n hn => ?_⟩
  have hlisted : (∃ p ∈ d.describe.properties, p.name = n) ↔
      d.describe.properties.filter (·.name == n) ≠ [] := by
    simp [List.filter_eq_nil_iff]
  have hmade : ∀ s after type free, LastDefinition n body s after → MakesProperty n s type free →
      ∃ text writable, typeText type = .ok text ∧
        d.describe.properties.filter (·.name == n) = [⟨n, text, true, writable⟩] ∧
        (writable = true ↔
          (free = true ∧ ¬ decorators.any Expr.freezes) ∨ ∃ later ∈ after, WritesTo n later) := by
    intro s after type free hlast hp
    obtain ⟨m, hm, writable, hproperties, hwritable⟩ := hlast.exists_filter_properties h hn
    obtain ⟨text, ht, hproperty⟩ := hm.toProperty_eq type free hp
    rw [if_pos (hm.eligible_iff.mpr ⟨type, free, hp⟩), hproperty] at hproperties
    rw [hproperty, Bool.and_eq_true, Bool.not_eq_true'] at hwritable
    refine ⟨text, writable, ht, hproperties, ?_⟩
    rw [hwritable, Bool.not_eq_true]
  refine ⟨hlisted.trans ⟨fun hne => ?_, ?_⟩, hmade⟩
  · by_cases hd : ∃ s ∈ body, Defines n s
    · obtain ⟨s, after, hlast⟩ := exists_lastDefinition hd
      obtain ⟨m, hm, _, hproperties, -⟩ := hlast.exists_filter_properties h hn
      have heligible : m.eligible = true := by
        by_contra hnot
        exact hne (hproperties.trans (if_neg hnot))
      obtain ⟨type, free, hp⟩ := hm.eligible_iff.mp heligible
      exact ⟨s, after, type, free, hlast, hp⟩
    · refine (hne (filter_properties_of_not_defines h fun s hs hds => hd ⟨s, hs, hds⟩)).elim
  · rintro ⟨s, after, type, free, hlast, hp⟩
    obtain ⟨text, writable, -, hproperties, -⟩ := hmade s after type free hlast hp
    rw [hproperties]
    exact List.cons_ne_nil _ _

/-- The body of a class with a setter that comes too early. -/
def dialBody : List Statement := [
  .function false [.member (.name "angle") "setter"] "turn" [] none [],
  .declare (.name "angle") (.name "int") none,
  .function false [.name "property"] "angle" [] (some (.name "float")) [],
  .function false [.member (.name "angle") "getter"] "angle" [] none []]

/-- The function that reads the angle is its last definition, so neither the type before it nor the
setter before that counts. -/
theorem angle_of_dial : ∃ d,
    (Statement.class [] "Dial" [] [] dialBody).declaration none = .ok (some d) ∧
      d.describe.properties.filter (·.name == "angle") = [⟨"angle", "float", true, false⟩] := by
  have hclass := properties_of_class none [] "Dial" [] [] dialBody
  have hfirst {mark : Expr} {r : Role} (h : AccessorMark mark r) : FirstMark [mark] r :=
    ⟨[], mark, [], rfl, h, nofun⟩
  have hread := hfirst .property
  have hother := hfirst (.getter "angle")
  have hwritten : ∀ s ∈ dialBody, ∀ type, WritesType s type → ∃ text, type.text = .ok text := by
    intro s hs type hw
    simp only [dialBody, List.mem_cons, List.not_mem_nil, or_false] at hs
    rcases hs with rfl | rfl | rfl | rfl
    · cases hw
    · cases hw with
      | plain => exact ⟨_, rfl⟩
      | within _ hq | alone _ hq => cases hq
    · cases hw
      exact ⟨_, rfl⟩
    · cases hw
  obtain ⟨d, hd⟩ := hclass.1.mpr ⟨hwritten, nofun⟩
  have hlast : LastDefinition "angle" dialBody
      (.function false [.name "property"] "angle" [] (some (.name "float")) [])
      [.function false [.member (.name "angle") "getter"] "angle" [] none []] := by
    refine ⟨⟨dialBody.take 2, rfl⟩, .read _ _ _ hread, fun later hl hdef => ?_⟩
    cases List.mem_singleton.mp hl
    cases hdef with
    | read _ _ _ hmark => cases hmark.unique hother
  obtain ⟨text, writable, ht, hproperties, hwritable⟩ :=
    (hclass.2 d hd "angle" (by decide)).2 _ _ _ _ hlast (.read _ _ _ hread)
  obtain rfl : "float" = text := Except.ok.inj ht
  have hfixed : writable = false := by
    rw [← Bool.not_eq_true, hwritable]
    rintro (⟨hfree, -⟩ | ⟨later, hl, hw⟩)
    · cases hfree
    · cases List.mem_singleton.mp hl
      cases hw with
      | mk _ _ _ _ hmark => cases hmark.unique hother
  exact ⟨d, hd, hfixed ▸ hproperties⟩

end KeyedAccess.Script
