import KeyedAccess.Proofs.Target.CompanionTree
import Mathlib.Data.List.Nodup
import Mathlib.Logic.Function.Basic

/-!
# Companions at work

A simple name in an accessor stands for a parameter if one has this name, and for a member of the
object otherwise. The accessors of a companion mention the members by their simple names alone, so a
member that is named like a parameter is out of reach, and every other one is reached by its key.
-/

namespace KeyedAccess.Companion

variable {W : Type}

/-- What a name can stand for: nothing, a text, or a value of another type. -/
inductive Object (W : Type) where
  /-- The null reference. -/
  | null
  /-- A text. -/
  | text (s : String)
  /-- Any other value. -/
  | other (w : W)

/-- The object of a key, which may be null. -/
def Object.ofKey : Option String → Object W
  | none => .null
  | some key => .text key

/-- Whether an object is a given text. -/
def Object.isText : Object W → String → Bool
  | .text s, label => s == label
  | _, _ => false

/-- Why an accessor fails. -/
inductive Failure (W : Type) where
  /-- The key names no property; the argument is what the exception carries. -/
  | outOfRange (argument : Object W)
  /-- The value cannot be converted. -/
  | invalidCast

/-- What the names of an accessor stand for. -/
structure Frame (W : Type) where
  /-- The parameters, which hide members of the same name. -/
  parameters : List (String × Object W)
  /-- The members of the object. -/
  members : String → Object W

/-- What a simple name stands for. -/
def Frame.look (frame : Frame W) (x : Identifier) : Object W :=
  match frame.parameters.lookup x.name with
  | some w => w
  | none => frame.members x.name

/-- Assigns to what a simple name stands for. -/
def Frame.assign (frame : Frame W) (x : Identifier) (w : Object W) : Frame W :=
  match frame.parameters.lookup x.name with
  | some _ =>
    { frame with parameters := frame.parameters.map fun b => if b.1 == x.name then (b.1, w) else b }
  | none => { frame with members := Function.update frame.members x.name w }

section

variable (cast : String → Object W → Option (Object W))

/-- The value of an expression; `cast` converts to the type of a text. -/
def Expression.eval (frame : Frame W) : Expression → Except (Failure W) (Object W)
  | .name x => .ok (frame.look x)
  | .cast type operand => do
    match cast type (← operand.eval frame) with
    | some w => .ok w
    | none => .error .invalidCast
  | .fail argument => do
    .error (.outOfRange (← argument.eval frame))

/-- The members that an accessor leaves, and the failure that ended it. -/
structure Outcome (W : Type) where
  /-- The members of the object. -/
  members : String → Object W
  /-- The failure. -/
  failure : Option (Failure W)

/-- Executes the statements of a section. -/
def Statement.run (frame : Frame W) : List Statement → Outcome W
  | [] => ⟨frame.members, none⟩
  | .assign target value :: rest =>
    match value.eval cast frame with
    | .ok w => Statement.run (frame.assign target w) rest
    | .error failure => ⟨frame.members, some failure⟩
  | .leave :: _ => ⟨frame.members, none⟩
  | .fail argument :: _ =>
    match argument.eval cast frame with
    | .ok w => ⟨frame.members, some (.outOfRange w)⟩
    | .error failure => ⟨frame.members, some failure⟩

/-- The value of a switch expression. -/
def SwitchExpression.eval (frame : Frame W) (s : SwitchExpression) :
    Except (Failure W) (Object W) := do
  let subject ← s.subject.eval cast frame
  match s.arms.find? fun arm => subject.isText arm.key.word with
  | some arm => arm.result.eval cast frame
  | none => s.otherwise.eval cast frame

/-- Executes a switch statement. -/
def SwitchStatement.run (frame : Frame W) (s : SwitchStatement) : Outcome W :=
  match s.subject.eval cast frame with
  | .ok subject =>
    match s.sections.find? fun block => subject.isText block.key.word with
    | some block => Statement.run cast frame block.body
    | none => Statement.run cast frame [s.otherwise]
  | .error failure => ⟨frame.members, some failure⟩

/-- Reads a key of an object. -/
def Part.get (part : Part) (members : String → Object W) (key : Option String) :
    Except (Failure W) (Object W) :=
  part.getter.eval cast ⟨[(part.parameter.name, .ofKey key)], members⟩

/-- Assigns a value to a key of an object. -/
def Part.set (part : Part) (members : String → Object W) (key : Option String) (w : Object W) :
    Outcome W :=
  part.setter.run cast
    ⟨[(part.parameter.name, .ofKey key), (valueParameter.name, w)], members⟩

/-- What reading a key is to give: the value of the member with this name. -/
def fetched (t : Descriptor) (members : String → Object W) (key : Option String) :
    Except (Failure W) (Object W) :=
  match t.readable.find? fun p => key == some p.name with
  | some p => .ok (members (simpleName p.name))
  | none => .error (.outOfRange (.ofKey key))

/-- What assigning to a key is to do: the member with this name gets the converted value, and no
other member changes. -/
def stored (t : Descriptor) (members : String → Object W) (key : Option String) (w : Object W) :
    Outcome W :=
  match t.writable.find? fun p => key == some p.name with
  | some p =>
    match cast p.type w with
    | some converted => ⟨Function.update members (simpleName p.name) converted, none⟩
    | none => ⟨members, some .invalidCast⟩
  | none => ⟨members, some (.outOfRange (.ofKey key))⟩

private theorem isText_ofKey (key : Option String) (label : String) :
    (Object.ofKey key : Object W).isText label = (key == some label) := by
  cases key with
  | none => rfl
  | some key => rfl

/-- A name that a parameter has stands for the parameter. -/
theorem Frame.look_of_lookup {frame : Frame W} {x : Identifier} {w : Object W}
    (hx : frame.parameters.lookup x.name = some w) : frame.look x = w := by
  rw [Frame.look, hx]

/-- A name that no parameter has stands for the member. -/
theorem Frame.look_of_lookup_eq_none {frame : Frame W} {x : Identifier}
    (hx : frame.parameters.lookup x.name = none) : frame.look x = frame.members x.name := by
  rw [Frame.look, hx]

/-- An assignment to a name that a parameter has leaves the members alone. -/
theorem Frame.members_assign_of_lookup {frame : Frame W} {x : Identifier} {v : Object W}
    (hx : frame.parameters.lookup x.name = some v) (w : Object W) :
    (frame.assign x w).members = frame.members := by
  rw [Frame.assign, hx]

/-- An assignment to a name that no parameter has changes the member. -/
theorem Frame.members_assign_of_lookup_eq_none {frame : Frame W} {x : Identifier}
    (hx : frame.parameters.lookup x.name = none) (w : Object W) :
    (frame.assign x w).members = Function.update frame.members x.name w := by
  rw [Frame.assign, hx]

private theorem run_sectionOf {frame : Frame W} {p : Property} (hp : isIdentifier p.name = true)
    {w : Object W} (hv : frame.parameters.lookup valueParameter.name = some w) :
    Statement.run cast frame (sectionOf p hp).body =
      match cast p.type w with
      | some converted => ⟨(frame.assign ⟨p.name, hp⟩ converted).members, none⟩
      | none => ⟨frame.members, some .invalidCast⟩ := by
  have he : (Expression.cast p.type (.name valueParameter)).eval cast frame =
      match cast p.type w with
      | some converted => .ok converted
      | none => .error .invalidCast := by
    rw [Expression.eval, Expression.eval, Frame.look_of_lookup hv]
    rfl
  rw [sectionOf, Statement.run, he]
  cases cast p.type w with
  | none => rfl
  | some converted => rfl

variable {t : Descriptor}

private theorem find?_pmap_key {B : Type} {properties : List Property}
    (hp : ∀ p ∈ properties, isIdentifier p.name = true)
    (make : ∀ p : Property, isIdentifier p.name = true → B) (label : B → String)
    (hl : ∀ p hp, label (make p hp) = p.name) (key : Option String) :
    ((properties.find? fun p => key == some p.name) = none ∧
        (properties.pmap make hp).find?
          (fun b => (Object.ofKey key : Object W).isText (label b)) = none) ∨
      ∃ p hn, (properties.find? fun p => key == some p.name) = some p ∧
        (properties.pmap make hp).find? (fun b => (Object.ofKey key : Object W).isText (label b)) =
          some (make p hn) := by
  induction properties with
  | nil => exact .inl ⟨rfl, rfl⟩
  | cons p properties ih =>
    rw [List.pmap_cons, List.find?_cons, List.find?_cons, hl, isText_ofKey]
    cases key == some p.name with
    | false => exact ih fun q hq => hp q (List.mem_cons_of_mem _ hq)
    | true => exact .inr ⟨p, hp p List.mem_cons_self, rfl, rfl⟩

@[simp] private theorem name_keyParameter : keyParameter.name = "name" := by decide

@[simp] private theorem name_valueParameter : valueParameter.name = "value" := by decide

private theorem look_getter (members : String → Object W) (k : Object W) (x : Identifier) :
    (Frame.mk [(keyParameter.name, k)] members).look x =
      if x.name = "name" then k else members x.name := by
  rw [name_keyParameter]
  split
  · next hx => exact Frame.look_of_lookup (by rw [hx]; rfl)
  · next hx =>
    refine Frame.look_of_lookup_eq_none ?_
    rw [List.lookup_cons, beq_false_of_ne hx]
    rfl

private theorem members_assign_setter (members : String → Object W) (k v w : Object W)
    (x : Identifier) :
    ((Frame.mk [(keyParameter.name, k), (valueParameter.name, v)] members).assign x w).members =
      if x.name ∈ ["name", "value"] then members else Function.update members x.name w := by
  rw [name_keyParameter, name_valueParameter]
  by_cases hk : x.name = "name"
  · rw [if_pos (by rw [hk]; decide)]
    exact Frame.members_assign_of_lookup (by rw [hk]; rfl) w
  by_cases hv : x.name = "value"
  · rw [if_pos (by rw [hv]; decide)]
    exact Frame.members_assign_of_lookup (by rw [hv]; rfl) w
  · rw [if_neg (by simp [hk, hv])]
    refine Frame.members_assign_of_lookup_eq_none ?_ w
    rw [List.lookup_cons, beq_false_of_ne hk, List.lookup_cons, beq_false_of_ne hv]
    rfl

/-- A switch expression on a key gives what belongs to the arm of the key. -/
theorem SwitchExpression.eval_of_subject {s : SwitchExpression} {frame : Frame W} {k : Object W}
    (hk : s.subject.eval cast frame = .ok k) :
    s.eval cast frame =
      match s.arms.find? fun arm => k.isText arm.key.word with
      | some arm => arm.result.eval cast frame
      | none => s.otherwise.eval cast frame := by
  rw [SwitchExpression.eval, hk]
  rfl

/-- A switch statement on a key executes the section of the key. -/
theorem SwitchStatement.run_of_subject {s : SwitchStatement} {frame : Frame W} {k : Object W}
    (hk : s.subject.eval cast frame = .ok k) :
    s.run cast frame =
      match s.sections.find? fun block => k.isText block.key.word with
      | some block => Statement.run cast frame block.body
      | none => Statement.run cast frame [s.otherwise] := by
  rw [SwitchStatement.run, hk]

/-- The getter of a companion gives the member of the key, unless the parameter hides it. -/
theorem get_partOf (h : Nameable t) (members : String → Object W) (key : Option String) :
    (partOf h).get cast members key =
      match t.readable.find? fun p => key == some p.name with
      | some p =>
        .ok (if simpleName p.name = "name" then .ofKey key else members (simpleName p.name))
      | none => .error (.outOfRange (.ofKey key)) := by
  have hk : (Expression.name keyParameter).eval cast
      ⟨[(keyParameter.name, .ofKey key)], members⟩ = .ok (.ofKey key) := by
    rw [Expression.eval, look_getter, if_pos name_keyParameter]
  refine (SwitchExpression.eval_of_subject cast hk).trans ?_
  rcases find?_pmap_key (W := W) h.readable armOf (·.key.word) (fun _ _ => rfl) key with
    ⟨hnone, hswitch⟩ | ⟨p, hn, hsome, hswitch⟩
  · simp only [getterOf, partOf, hnone, hswitch]
    rw [Expression.eval, hk]
    rfl
  · simp only [getterOf, partOf, hsome, hswitch]
    exact congrArg _ (look_getter members _ _)

/-- The setter of a companion assigns to the member of the key, unless a parameter hides it. -/
theorem set_partOf (h : Nameable t) (members : String → Object W) (key : Option String)
    (w : Object W) :
    (partOf h).set cast members key w =
      match t.writable.find? fun p => key == some p.name with
      | some p =>
        match cast p.type w with
        | some converted =>
          ⟨if simpleName p.name ∈ ["name", "value"] then members
            else Function.update members (simpleName p.name) converted, none⟩
        | none => ⟨members, some .invalidCast⟩
      | none => ⟨members, some (.outOfRange (.ofKey key))⟩ := by
  let frame : Frame W := ⟨[(keyParameter.name, .ofKey key), (valueParameter.name, w)], members⟩
  have hk : (Expression.name keyParameter).eval cast frame = .ok (.ofKey key) := by
    rw [Expression.eval, Frame.look_of_lookup List.lookup_cons_self]
  have hv : frame.parameters.lookup valueParameter.name = some w := by
    simp only [frame, name_keyParameter, name_valueParameter]
    rfl
  refine (SwitchStatement.run_of_subject cast hk).trans ?_
  rcases find?_pmap_key (W := W) h.writable sectionOf (·.key.word) (fun _ _ => rfl) key with
    ⟨hnone, hswitch⟩ | ⟨p, hn, hsome, hswitch⟩
  · simp only [setterOf, partOf, hnone, hswitch]
    rw [Statement.run, hk]
  · simp only [setterOf, partOf, hsome, hswitch]
    rw [run_sectionOf cast hn hv]
    cases cast p.type w with
    | none => rfl
    | some converted =>
      exact congrArg (Outcome.mk · none) (members_assign_setter members _ w converted ⟨p.name, hn⟩)

private theorem eq_some_name_of_find? {properties : List Property} {key : Option String}
    {p : Property}
    (hf : (properties.find? fun p => key == some p.name) = some p) : key = some p.name :=
  beq_iff_eq.mp (@List.find?_some _ (fun p : Property => key == some p.name) _ _ hf)

private theorem ne_of_find?_eq_none {properties : List Property} {key : Option String}
    (hf : (properties.find? fun p => key == some p.name) = none) :
    ∀ p ∈ properties, key ≠ some p.name := fun p hp he =>
  List.find?_eq_none.mp hf p hp (beq_iff_eq.mpr he)

/-- The name tells the properties apart. -/
theorem Nameable.eq_of_name (h : Nameable t) {p q : Property} (hp : p ∈ t.properties)
    (hq : q ∈ t.properties) (he : p.name = q.name) : p = q :=
  List.inj_on_of_nodup_map h.distinct hp hq he

/-- Reading a key gives the value of the member exactly if the member is not called as the parameter
is, or happens to hold the key itself. -/
theorem get_eq_fetched_iff (h : Nameable t) (members : String → Object W) (key : Option String) :
    (partOf h).get cast members key = fetched t members key ↔
      ∀ p ∈ t.readable, key = some p.name → simpleName p.name = "name" →
        members "name" = .text p.name := by
  rw [get_partOf, fetched]
  cases hf : t.readable.find? fun p => key == some p.name with
  | none =>
    exact iff_of_true rfl fun p hp he => absurd he (ne_of_find?_eq_none hf p hp)
  | some p =>
    obtain rfl := eq_some_name_of_find? hf
    have hp : p ∈ t.readable := List.mem_of_find?_eq_some hf
    constructor
    · intro he q hq hname hs
      have hv := Except.ok.inj he
      rw [Option.some.inj hname, if_pos hs, hs] at hv
      exact hv.symm
    · intro hall
      have hheld : simpleName p.name = "name" → members "name" = .text p.name := hall p hp rfl
      refine congrArg Except.ok ?_
      split
      · next hs =>
        rw [hs]
        exact (hheld hs).symm
      · rfl

/-- Assigning to a key sets the member exactly if the member is not called as a parameter is, or
happens to hold the converted value already, or the value cannot be converted. -/
theorem set_eq_stored_iff (h : Nameable t) (members : String → Object W) (key : Option String)
    (w : Object W) :
    (partOf h).set cast members key w = stored cast t members key w ↔
      ∀ p ∈ t.writable, key = some p.name → simpleName p.name ∈ ["name", "value"] →
        ∀ converted, cast p.type w = some converted →
          members (simpleName p.name) = converted := by
  rw [set_partOf, stored]
  cases hf : t.writable.find? fun p => key == some p.name with
  | none =>
    exact iff_of_true rfl fun p hp he => absurd he (ne_of_find?_eq_none hf p hp)
  | some p =>
    obtain rfl := eq_some_name_of_find? hf
    have hp : p ∈ t.writable := List.mem_of_find?_eq_some hf
    have honly : ∀ q ∈ t.writable, some p.name = some q.name → q = p := fun q hq he =>
      h.eq_of_name (List.mem_filter.mp hq).1 (List.mem_filter.mp hp).1 (Option.some.inj he).symm
    dsimp only
    cases hc : cast p.type w with
    | none =>
      refine ⟨fun _ q hq he _ converted hq' => ?_, fun _ => rfl⟩
      rw [honly q hq he, hc] at hq'
      cases hq'
    | some converted =>
      constructor
      · intro he q hq hname hs converted' hc'
        obtain rfl := honly q hq hname
        obtain rfl := Option.some.inj (hc.symm.trans hc')
        have hm := congrArg Outcome.members he
        simp only [if_pos hs] at hm
        exact Function.eq_update_self_iff.mp hm
      · intro hall
        refine congrArg (Outcome.mk · none) ?_
        split
        · next hs =>
          exact Function.eq_update_self_iff.mpr (hall p hp rfl hs converted hc)
        · rfl

/-- A getter gives the member of every key, whatever the object holds, exactly if no readable
property is called as the parameter is. -/
theorem get_eq_fetched_always_iff (h : Nameable t) :
    (∀ (members : String → Object W) (key : Option String),
        (partOf h).get cast members key = fetched t members key) ↔
      ∀ p ∈ t.readable, simpleName p.name ≠ "name" := by
  constructor
  · intro hall p hp hs
    have hheld := (get_eq_fetched_iff cast h (fun _ => .null) (some p.name)).mp
        (hall _ _) p hp rfl hs
    cases hheld
  · intro hall members key
    refine (get_eq_fetched_iff cast h members key).mpr fun p hp _ hs => ?_
    exact absurd hs (hall p hp)

/-- There is always a value apart from a given one. -/
theorem Object.exists_ne (w : Object W) : ∃ v : Object W, v ≠ w := by
  cases w with
  | null => exact ⟨.text "", by rintro ⟨⟩⟩
  | text s => exact ⟨.null, by rintro ⟨⟩⟩
  | other w => exact ⟨.null, by rintro ⟨⟩⟩

/-- A setter sets the member of every key, whatever the object holds and whatever is assigned,
exactly if no value can be converted for a writable property that is called as a parameter is. -/
theorem set_eq_stored_always_iff (h : Nameable t) :
    (∀ (members : String → Object W) (key : Option String) (w : Object W),
        (partOf h).set cast members key w = stored cast t members key w) ↔
      ∀ p ∈ t.writable, simpleName p.name ∈ ["name", "value"] → ∀ w, cast p.type w = none := by
  constructor
  · intro hall p hp hs w
    cases hc : cast p.type w with
    | none => rfl
    | some converted =>
      obtain ⟨held, hne⟩ := converted.exists_ne
      exact absurd ((set_eq_stored_iff cast h (fun _ => held) (some p.name) w).mp (hall _ _ _)
        p hp rfl hs converted hc) hne
  · intro hall members key w
    refine (set_eq_stored_iff cast h members key w).mpr fun p hp _ hs converted hc => ?_
    rw [hall p hp hs w] at hc
    cases hc

/-- The accessors in the text of a companion reach the member of a key exactly if no parameter hides
it, or the object cannot tell: the member holds what the parameter gives or would be assigned. -/
theorem accessors_reach_member_iff (h : Nameable t) (members : String → Object W)
    (key : Option String) (w : Object W) :
    (partOf h).text = render t ∧
    ((partOf h).get cast members key = fetched t members key ↔
      ∀ p ∈ t.readable, key = some p.name → simpleName p.name = "name" →
        members "name" = .text p.name) ∧
    ((partOf h).set cast members key w = stored cast t members key w ↔
      ∀ p ∈ t.writable, key = some p.name → simpleName p.name ∈ ["name", "value"] →
        ∀ converted, cast p.type w = some converted →
          members (simpleName p.name) = converted) :=
  ⟨text_partOf h, get_eq_fetched_iff cast h members key, set_eq_stored_iff cast h members key w⟩

end

/-- The conversions to texts and to numbers. -/
def convert : String → Object Int → Option (Object Int)
  | "string", .null => some .null
  | "string", .text s => some (.text s)
  | "int", .other n => some (.other n)
  | _, _ => none

/-- A type with a name, a value and a rank. -/
def badge : Descriptor :=
  { identifier := "Badge"
    header := "class Badge"
    properties :=
      [⟨"name", "string", true, true⟩, ⟨"value", "int", true, true⟩, ⟨"rank", "int", true, true⟩] }

private theorem nameable_badge : Nameable badge := ⟨by decide, by decide⟩

/-- The key hides the name, and the value to be assigned hides the value, but the rank is
reached. -/
theorem badge_reaches_rank :
    (partOf nameable_badge).text = render badge ∧
    (partOf nameable_badge).get convert (fun _ => .null) (some "name") ≠
      fetched badge (fun _ => .null) (some "name") ∧
    (partOf nameable_badge).set convert (fun _ => .null) (some "value") (.other 7) ≠
      stored convert badge (fun _ => .null) (some "value") (.other 7) ∧
    (partOf nameable_badge).get convert (fun _ => .null) (some "rank") =
      fetched badge (fun _ => .null) (some "rank") ∧
    (partOf nameable_badge).set convert (fun _ => .null) (some "rank") (.other 7) =
      stored convert badge (fun _ => .null) (some "rank") (.other 7) := by
  have hname := accessors_reach_member_iff convert nameable_badge (fun _ => .null)
      (some "name") .null
  have hvalue := accessors_reach_member_iff convert nameable_badge (fun _ => .null) (some "value")
    (.other 7)
  have hrank := accessors_reach_member_iff convert nameable_badge (fun _ => .null) (some "rank")
    (.other 7)
  refine ⟨hname.1, fun hget => ?_, fun hset => ?_, hrank.2.1.mpr ?_, hrank.2.2.mpr ?_⟩
  · have hheld := hname.2.1.mp hget ⟨"name", "string", true, true⟩ (by decide) rfl (by decide)
    cases hheld
  · have hheld := hvalue.2.2.mp hset ⟨"value", "int", true, true⟩ (by decide) rfl (by decide)
      (.other 7) rfl
    cases hheld
  · intro p hp he hs
    rw [← Option.some.inj he] at hs
    exact absurd hs (by decide)
  · intro p hp he hs
    rw [← Option.some.inj he] at hs
    exact absurd hs (by decide)

end KeyedAccess.Companion
