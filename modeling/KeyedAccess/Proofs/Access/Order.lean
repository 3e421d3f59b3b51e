import KeyedAccess.Proofs.Access.Isolation

/-!
# The order of the cases

A dispatch takes the first case that covers a key. Cases for one key use the same attribute, even if
they come from different properties, so the order of the properties shows in the text of a mixin and
nowhere else. This needs a scope and a name that stay where they are written: a scope that ends the
remark it stands in, or a name that is no identifier, can make the types part of the program.
-/

namespace KeyedAccess.Access

open Script Text Mixin

/-- Two dispatches have the same first case for every key. -/
structure Dispatch.Agrees (d d' : Dispatch) : Prop where
  /-- The case for reading. -/
  reads : ∀ key, d.reads.find? (·.covers key) = d'.reads.find? (·.covers key)
  /-- The case for assignment. -/
  writes : ∀ key, d.writes.find? (·.covers key) = d'.writes.find? (·.covers key)

section Agrees

variable {V : Type} {d d' : Dispatch}

/-- Then every step does the same. -/
theorem Dispatch.Agrees.step (h : d.Agrees d') (attributes : Attributes V) (step : Step V) :
    d.step attributes step = d'.step attributes step := by
  cases step with
  | get key => rw [Dispatch.step, Dispatch.step, Dispatch.get, Dispatch.get, h.reads]
  | set key v => rw [Dispatch.step, Dispatch.step, Dispatch.set, Dispatch.set, h.writes]

/-- So every run gives the same answers. -/
theorem Dispatch.Agrees.run (h : d.Agrees d') (attributes : Attributes V) (steps : List (Step V)) :
    d.run attributes steps = d'.run attributes steps := by
  induction steps generalizing attributes with
  | nil => rfl
  | cons step rest ih => rw [Dispatch.run, Dispatch.run, h.step, ih]

/-- It leaves the same attributes. -/
theorem Dispatch.Agrees.after (h : d.Agrees d') (attributes : Attributes V)
    (steps : List (Step V)) : d.after attributes steps = d'.after attributes steps := by
  induction steps generalizing attributes with
  | nil => rfl
  | cons step rest ih => rw [Dispatch.after, Dispatch.after, h.step, ih]

end Agrees

/-! ## Reordered properties -/

/-- The same type with other properties. -/
def withProperties (t : Descriptor) (properties : List Property) : Descriptor :=
  { t with properties }

variable {t : Descriptor} {properties : List Property}

/-- The same properties can be read. -/
theorem readable_perm (h : properties.Perm t.properties) :
    (withProperties t properties).readable.Perm t.readable := h.filter _

/-- The same properties can be written. -/
theorem writable_perm (h : properties.Perm t.properties) :
    (withProperties t properties).writable.Perm t.writable := h.filter _

/-- The names stay identifiers. -/
theorem spelled_withProperties (ht : Spelled t) (h : properties.Perm t.properties) :
    Spelled (withProperties t properties) where
  identifier := ht.identifier
  scope := ht.scope
  readable p hp := ht.readable p ((readable_perm h).mem_iff.mp hp)
  writable p hp := ht.writable p ((writable_perm h).mem_iff.mp hp)

/-- The names stay unreserved. -/
theorem free_withProperties_iff (h : properties.Perm t.properties) :
    Free (withProperties t properties) ↔ Free t := by
  constructor
  · intro hf
    exact ⟨fun p hp => hf.readable p ((readable_perm h).mem_iff.mpr hp),
      fun p hp => hf.writable p ((writable_perm h).mem_iff.mpr hp)⟩
  · intro hf
    exact ⟨fun p hp => hf.readable p ((readable_perm h).mem_iff.mp hp),
      fun p hp => hf.writable p ((writable_perm h).mem_iff.mp hp)⟩

private theorem find?_caseFor_perm {front others : List Property} (h : front.Perm others)
    (key : Key) :
    (front.map fun p => caseFor t p.name).find? (·.covers key) =
      (others.map fun p => caseFor t p.name).find? (·.covers key) := by
  cases key with
  | text name =>
    have hmem : name ∈ front.map (·.name) ↔ name ∈ others.map (·.name) := (h.map _).mem_iff
    rw [find?_caseFor, find?_caseFor]
    simp only [hmem]
  | number | truth | nothing =>
    rw [find?_covers_eq_none _ (fun _ => Key.noConfusion),
      find?_covers_eq_none _ (fun _ => Key.noConfusion)]

private theorem agrees_withProperties (h : properties.Perm t.properties) :
    (dispatchFor (withProperties t properties)).Agrees (dispatchFor t) where
  reads := find?_caseFor_perm (readable_perm h)
  writes := find?_caseFor_perm (writable_perm h)

/-- The mixin can be used in either order or in none. -/
theorem compile_withProperties_iff (ht : Spelled t) (h : properties.Perm t.properties) :
    compile (render (withProperties t properties) triedSupport) =
        .ok (dispatchFor (withProperties t properties)) ↔
      compile (render t triedSupport) = .ok (dispatchFor t) := by
  rw [compile_spelled_eq_ok_iff (spelled_withProperties ht h), compile_spelled_eq_ok_iff ht,
    free_withProperties_iff h]
  simp only [and_true, (writable_perm h).mem_iff]

/-- A mixin of a spelled type can be used only as the dispatch of that type. -/
theorem eq_dispatchFor_of_compile (ht : Spelled t) {d : Dispatch}
    (h : compile (render t triedSupport) = .ok d) : d = dispatchFor t :=
  ((compile_spelled_eq_ok_iff ht).mp h).2.2

/-- A computation succeeds if it leaves a value. -/
theorem exists_ok_iff {ε α : Type} {r : Except ε α} :
    (∃ value, r = .ok value) ↔ r.toOption.isSome = true := by
  cases r <;> simp [Except.toOption]

/-- Trying a mixin gives answers exactly if it can be used. -/
theorem toOption_tryAccess {V : Type} (t : Descriptor) (attributes : Attributes V)
    (steps : List (Step V)) :
    (tryAccess t attributes steps).toOption =
      (compile (render t triedSupport)).toOption.map fun d => d.run attributes steps := by
  unfold tryAccess
  generalize compile (render t triedSupport) = compiled
  cases compiled with
  | error e => rfl
  | ok d => rfl

/-- A mixin of a spelled type can be used as its dispatch or not at all. -/
theorem toOption_compile (ht : Spelled t) :
    (compile (render t triedSupport)).toOption = none ∨
      compile (render t triedSupport) = .ok (dispatchFor t) := by
  generalize hc : compile (render t triedSupport) = compiled
  cases compiled with
  | error e => exact .inl rfl
  | ok d => exact .inr (congrArg _ (eq_dispatchFor_of_compile ht hc))

/-- So either both mixins can be used, or none. -/
theorem toOption_compile_withProperties (ht : Spelled t) (h : properties.Perm t.properties) :
    ((compile (render (withProperties t properties) triedSupport)).toOption = none ∧
      (compile (render t triedSupport)).toOption = none) ∨
    (compile (render (withProperties t properties) triedSupport) =
        .ok (dispatchFor (withProperties t properties)) ∧
      compile (render t triedSupport) = .ok (dispatchFor t)) := by
  have hiff := compile_withProperties_iff ht h
  rcases toOption_compile ht with hc | hc
  · rcases toOption_compile (spelled_withProperties ht h) with hc' | hc'
    · exact .inl ⟨hc', hc⟩
    · rw [hiff.mp hc'] at hc
      cases hc
  · exact .inr ⟨hiff.mpr hc, hc⟩

private theorem typingImport_withProperties (h : properties.Perm t.properties) :
    typingImport ((withProperties t properties).setClauses setCase) =
      typingImport (t.setClauses setCase) := by
  have hempty : (withProperties t properties).writable.isEmpty = t.writable.isEmpty :=
    (writable_perm h).isEmpty_eq
  rw [typingImport, typingImport, Descriptor.setClauses, Descriptor.setClauses, List.isEmpty_map,
    List.isEmpty_map, hempty]

/-- The cases of a mixin stand between parts that do not depend on their order. -/
theorem render_withProperties (h : properties.Perm t.properties) (support : String) :
    ∃ front middle back : String,
      render t support = front ++ clauseLines (t.getClauses getCase) (spaces 12) ++ middle ++
        clauseLines (t.setClauses setCase) (spaces 12) ++ back ∧
      render (withProperties t properties) support = front ++
        clauseLines ((withProperties t properties).getClauses getCase) (spaces 12) ++ middle ++
        clauseLines ((withProperties t properties).setClauses setCase) (spaces 12) ++ back := by
  have hmiddle : ∀ front reads after before writes back : String,
      front ++ reads ++ after ++ before ++ writes ++ back =
        front ++ reads ++ (after ++ before) ++ writes ++ back := by
    intro front reads after before writes back
    simp only [String.append_assoc]
  unfold render
  rw [typingImport_withProperties h]
  exact ⟨_, _, _, hmiddle _ _ _ _ _ _, hmiddle _ _ _ _ _ _⟩

/-- The order of the properties of a type does not matter where its name is an identifier and its
scope stays in its remark. The mixin can be used in either order or in none; every run answers the
same and leaves the same attributes; and the texts differ in nothing but the order of the cases. -/
theorem order_of_properties_irrelevant (ht : Spelled t) (h : properties.Perm t.properties) :
    ((∃ d, compile (render (withProperties t properties) triedSupport) = .ok d) ↔
      ∃ d, compile (render t triedSupport) = .ok d) ∧
    (∀ (V : Type) (attributes : Attributes V) (steps : List (Step V)),
      (tryAccess (withProperties t properties) attributes steps).toOption =
          (tryAccess t attributes steps).toOption ∧
        (compile (render (withProperties t properties) triedSupport)).toOption.map
            (fun d => d.after attributes steps) =
          (compile (render t triedSupport)).toOption.map fun d => d.after attributes steps) ∧
    ∀ support, ∃ front middle back : String,
      render t support = front ++ clauseLines (t.getClauses getCase) (spaces 12) ++ middle ++
        clauseLines (t.setClauses setCase) (spaces 12) ++ back ∧
      render (withProperties t properties) support = front ++
        clauseLines ((withProperties t properties).getClauses getCase) (spaces 12) ++ middle ++
        clauseLines ((withProperties t properties).setClauses setCase) (spaces 12) ++ back ∧
      ((withProperties t properties).getClauses getCase).Perm (t.getClauses getCase) ∧
      ((withProperties t properties).setClauses setCase).Perm (t.setClauses setCase) := by
  have hagrees := agrees_withProperties h
  refine ⟨?_, fun V attributes steps => ?_, fun support => ?_⟩
  · rw [exists_ok_iff, exists_ok_iff]
    rcases toOption_compile_withProperties ht h with ⟨hc', hc⟩ | ⟨hc', hc⟩
    · rw [hc', hc]
    · rw [hc', hc]
      exact Iff.rfl
  · rw [toOption_tryAccess, toOption_tryAccess]
    rcases toOption_compile_withProperties ht h with ⟨hc', hc⟩ | ⟨hc', hc⟩
    · rw [hc', hc]
      exact ⟨rfl, rfl⟩
    · rw [hc', hc]
      exact ⟨congrArg some (hagrees.run attributes steps),
        congrArg some (hagrees.after attributes steps)⟩
  · obtain ⟨front, middle, back, hrender, hrender'⟩ := render_withProperties h support
    exact ⟨front, middle, back, hrender, hrender', (readable_perm h).map _, (writable_perm h).map _⟩

/-- A type with two properties of one name, of which one can be read and the other one written. -/
def parcel : Descriptor :=
  { identifier := "Parcel", header := "class Parcel", scope := some "depot of the shop"
    properties := [⟨"size", "int", true, false⟩, ⟨"owner", "str", true, true⟩,
      ⟨"size", "str", false, true⟩] }

/-- Its properties in reverse order give other cases, but the same answers. -/
theorem parcel_reversed :
    (withProperties parcel parcel.properties.reverse).getClauses getCase ≠
        parcel.getClauses getCase ∧
      (tryAccess (withProperties parcel parcel.properties.reverse) [("size", 1)]
          [.set (.text "size") 2, .get (.text "size"), .get (.text "owner")]).toOption =
        some [.state [("size", 2)], .value 2, .missing "owner"] := by
  have hspelled : Spelled parcel := ⟨by decide, by decide, by decide, by decide⟩
  have hcompile : compile (render parcel triedSupport) = .ok (dispatchFor parcel) :=
    (compile_spelled_eq_ok_iff hspelled).mpr ⟨⟨by decide, by decide⟩, by decide, rfl⟩
  have hsame := order_of_properties_irrelevant hspelled (List.reverse_perm _)
  refine ⟨by decide, (hsame.2.1 Nat _ _).1.trans ?_⟩
  rw [toOption_tryAccess, hcompile]
  rfl

/-! ## Names that do not stay where they are written -/

private theorem toOption_compile_eq (hr : ∀ p ∈ t.readable, isIdentifier p.name.toList = true)
    (hw : ∀ p ∈ t.writable, isIdentifier p.name.toList = true) :
    (compile (render t triedSupport)).toOption =
      (readModule (moduleChars t)).toOption.bind fun statements =>
        (dispatchOf statements).toOption := by
  unfold compile
  rw [toList_render hr hw]
  generalize readModule (moduleChars t) = statements
  cases statements with
  | error e => rfl
  | ok statements => rfl

/-- A scope that ends its remark and defines a mixin of its own, in front of the beginning of a
text. -/
def openScope : String :=
  "\"\"\"\nfrom indexgen.runtime import OutOfRangeError\nclass TIndexer:\n" ++
  (" def __getitem__(self, name):\n  match name:\n" ++
    "   case \"a\": return self.a\n   case _: raise OutOfRangeError(name)\n") ++
  (" def __setitem__(self, name, value):\n  match name:\n" ++
    "   case \"a\": self.a = value\n   case _: raise OutOfRangeError(name)\n" ++
    "if 0:\n match '''")

/-- A name that ends its remark, too. -/
def openName : String := "\"\"\"\nif 0:\n match ''':\n  case "

/-- A property whose type ends the text and begins a comment. -/
def closingProperty : Property := ⟨"a", "''': #", true, true⟩

/-- A property whose type ends the text and begins another one. -/
def reopeningProperty : Property := ⟨"b", "'''", true, true⟩

/-- A type with such a scope. -/
def openlyScoped : Descriptor :=
  { identifier := "T", header := "class T", scope := some openScope
    properties := [closingProperty, reopeningProperty] }

/-- A type with such a name. -/
def openlyNamed : Descriptor :=
  { identifier := openName, header := "class T"
    properties := [closingProperty, reopeningProperty] }

private theorem toList_append₃ (first second third : String) :
    (first ++ second ++ third).toList = first.toList ++ (second.toList ++ third.toList) := by
  rw [String.toList_append, String.toList_append, List.append_assoc]

private theorem moduleRemark_of_scope {scope : String} (hs : t.scope = some scope)
    (hne : scope ≠ "") :
    moduleRemark t = "String-keyed member access for ".toList ++
      (scope.toList ++ (".".toList ++ t.identifier.toList)) ++ ['.'] := by
  have hname : t.qualifiedName = scope ++ "." ++ t.identifier := by
    rw [Descriptor.qualifiedName, properScope, hs, Option.filter_some, if_pos (bne_iff_ne.mpr hne)]
  have hchars : t.qualifiedName.toList = _ :=
    (congrArg String.toList hname).trans (toList_append₃ _ _ _)
  exact congrArg (fun chars => "String-keyed member access for ".toList ++ chars ++ ['.']) hchars

private theorem toList_openScope : openScope.toList =
    "\"\"\"\nfrom indexgen.runtime import OutOfRangeError\nclass TIndexer:\n".toList ++
      ((" def __getitem__(self, name):\n  match name:\n" ++
          "   case \"a\": return self.a\n   case _: raise OutOfRangeError(name)\n").toList ++
        (" def __setitem__(self, name, value):\n  match name:\n" ++
          "   case \"a\": self.a = value\n   case _: raise OutOfRangeError(name)\n" ++
          "if 0:\n match '''").toList) := toList_append₃ _ _ _

private theorem compile_openlyScoped : (compile (render openlyScoped triedSupport)).toOption =
    some ⟨[⟨[97], "a", true⟩], [⟨[97], "a", true⟩]⟩ := by
  have hremark := moduleRemark_of_scope (t := openlyScoped) rfl (by decide)
  simp only [toList_openScope, String.reduceAppend, String.reduceToList] at hremark
  rewrite [toOption_compile_eq (by decide) (by decide), moduleChars, hremark]
  decide +kernel

private theorem compile_openlyScoped_reversed :
    (compile (render (withProperties openlyScoped openlyScoped.properties.reverse)
      triedSupport)).toOption = none := by
  have hremark := moduleRemark_of_scope
    (t := withProperties openlyScoped openlyScoped.properties.reverse) rfl (by decide)
  simp only [toList_openScope, String.reduceAppend, String.reduceToList] at hremark
  rewrite [toOption_compile_eq (by decide) (by decide), moduleChars, hremark]
  decide +kernel

/-- Where a scope or a name does not stay where it is written, the order of the properties decides
whether the mixin can be used, and even whether its text is a module, although the names of the
properties are plain. -/
theorem order_matters_unless_spelled :
    (∀ p ∈ openlyScoped.properties,
      isIdentifier p.name.toList = true ∧ ∀ c ∈ p.name.toList, c.toNat < 128) ∧
    openlyNamed.properties = openlyScoped.properties ∧
    (tryAccess openlyScoped [("a", 1)] [.get (.text "a")]).toOption = some [.value 1] ∧
    (tryAccess (withProperties openlyScoped openlyScoped.properties.reverse) [("a", 1)]
      [.get (.text "a")]).toOption = none ∧
    (readModule (render openlyNamed triedSupport).toList).toOption.isSome = true ∧
    (readModule (render (withProperties openlyNamed openlyNamed.properties.reverse)
      triedSupport).toList).toOption.isSome = false := by
  refine ⟨by decide, rfl, ?_, ?_, ?_, ?_⟩
  · rw [toOption_tryAccess, compile_openlyScoped]
    rfl
  · rw [toOption_tryAccess, compile_openlyScoped_reversed]
    rfl
  · rewrite [toList_render (by decide) (by decide)]
    decide +kernel
  · rewrite [toList_render (by decide) (by decide)]
    decide +kernel

end KeyedAccess.Access
