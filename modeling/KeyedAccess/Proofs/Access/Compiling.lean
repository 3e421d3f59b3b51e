import KeyedAccess.Proofs.Target.MixinReserved

/-!
# What a mixin defines

The statements of a mixin define a dispatch with one case for each property, in the same order. The
key of a case is the text that the literal stands for, and the case does nothing else than to use
the attribute.
-/

namespace KeyedAccess.Access

open Script Text Mixin

/-- The attribute that a property is kept under. -/
def attributeFor (t : Descriptor) (name : String) : String :=
  attributeIn (nameOf (className t.identifier).toList) (nameOf name.toList)

/-- The case for a property. -/
def caseFor (t : Descriptor) (name : String) : Case :=
  ⟨name.toList.flatMap units, attributeFor t name, true⟩

/-- The dispatch that the mixin of a descriptor should define. -/
def dispatchFor (t : Descriptor) : Dispatch :=
  ⟨t.readable.map fun p => caseFor t p.name, t.writable.map fun p => caseFor t p.name⟩

/-- Values that can all be found are found together. -/
private theorem mapM_map_eq_some {α β γ : Type} {f : α → β} {find : β → Option γ} {g : α → γ}
    (h : ∀ a, find (f a) = some (g a)) (values : List α) :
    (values.map f).mapM find = some (values.map g) := by
  induction values with
  | nil => rfl
  | cons a values ih =>
    rw [List.map_cons, List.mapM_cons, h, ih]
    rfl

/-! ## The methods of a mixin -/

@[simp] private theorem raisesForKey_defaultCase : raisesForKey defaultCase = true := rfl

private theorem keyedBlocks_eq (properties : List Property) (statementOf : Property → Statement) :
    keyedBlocks (properties.map (fun p => keyCase p.name (statementOf p)) ++ [defaultCase]) =
      some (properties.map fun p => (p.name.toList.flatMap units, [statementOf p])) := by
  have hcase : ∀ p, keyedBlock (keyCase p.name (statementOf p)) =
      some (p.name.toList.flatMap units, [statementOf p]) := fun _ => rfl
  rw [keyedBlocks, List.getLast?_concat, List.dropLast_concat, Option.any_some,
    if_pos raisesForKey_defaultCase]
  exact mapM_map_eq_some (g := fun p : Property => (p.name.toList.flatMap units, [statementOf p]))
    hcase properties

/-- What the class of a mixin does for keys. -/
def mixinClass (t : Descriptor) : KeyedClass where
  name := nameOf (className t.identifier).toList
  reads := t.readable.map fun p => (p.name.toList.flatMap units, [readStatement p.name])
  writes := t.writable.map fun p => (p.name.toList.flatMap units, [writeStatement p.name p.type])

/-- The methods of a mixin are found in its class. -/
theorem keyedClass_moduleStatements (t : Descriptor) :
    keyedClass (moduleStatements t) = some (mixinClass t) := by
  have hclass : lastClass (moduleStatements t) =
      some (nameOf (className t.identifier).toList,
        [remarkStatement (classRemark t), slotsStatement, getMethod t, setMethod t]) := rfl
  have hreads : methodBlocks "__getitem__" ["self", "name"]
      [remarkStatement (classRemark t), slotsStatement, getMethod t, setMethod t] =
      some (mixinClass t).reads :=
    keyedBlocks_eq t.readable fun p => readStatement p.name
  have hwrites : methodBlocks "__setitem__" ["self", "name", "value"]
      [remarkStatement (classRemark t), slotsStatement, getMethod t, setMethod t] =
      some (mixinClass t).writes :=
    keyedBlocks_eq t.writable fun p => writeStatement p.name p.type
  have himports : imports triedSupport "OutOfRangeError" (moduleStatements t) = true := rfl
  simp only [keyedClass, hclass, hreads, hwrites, himports, Option.bind_eq_bind, Option.bind_some,
    if_true]
  rfl

private theorem imports_cast (t : Descriptor) :
    imports "typing" "cast" (moduleStatements t) = !t.writable.isEmpty := by
  rw [moduleStatements, typingStatement]
  cases t.writable <;> rfl

private theorem mapM_readCase (t : Descriptor) :
    (mixinClass t).reads.mapM (fun block => readCase (mixinClass t).name block.1 block.2) =
      some (t.readable.map fun p => caseFor t p.name) := by
  refine mapM_map_eq_some (g := fun p : Property => caseFor t p.name) (fun p => ?_) t.readable
  rfl

private theorem mapM_writeCase (t : Descriptor) :
    (mixinClass t).writes.mapM (fun block =>
        writeCase (mixinClass t).name (!t.writable.isEmpty) block.1 block.2) =
      some (t.writable.map fun p => caseFor t p.name) := by
  dsimp only [mixinClass]
  cases t.writable with
  | nil => rfl
  | cons p others =>
    refine mapM_map_eq_some (g := fun p : Property => caseFor t p.name) (fun p => ?_) (p :: others)
    rfl

/-- The statements of a mixin define a case for each property, unless they assign to a constant of
the language. -/
theorem dispatchOf_moduleStatements (t : Descriptor) :
    dispatchOf (moduleStatements t) =
      if t.writable.any (fun p => nameOf p.name.toList == "__debug__") then
        .error .constantTarget
      else .ok (dispatchFor t) := by
  have hconstant : (mixinClass t).writes.any (fun block => block.2.any assignsConstant) =
      t.writable.any fun p => nameOf p.name.toList == "__debug__" := by
    have hone : ∀ p : Property, [writeStatement p.name p.type].any assignsConstant =
        (nameOf p.name.toList == "__debug__") := by
      intro p
      simp [assignsConstant, writeStatement]
    simp only [mixinClass, List.any_map, Function.comp_def, hone]
  simp only [dispatchOf, keyedClass_moduleStatements, imports_cast, mapM_readCase, mapM_writeCase,
    hconstant]
  rfl

/-- The text of a mixin defines a case for each property, unless it assigns to a constant of the
language. -/
theorem compile_render {t : Descriptor} (ht : Spelled t) (hf : Free t) :
    compile (render t triedSupport) =
      if t.writable.any (fun p => nameOf p.name.toList == "__debug__") then
        .error .constantTarget
      else .ok (dispatchFor t) := by
  rw [compile, readModule_render ht hf]
  exact dispatchOf_moduleStatements t

/-- A mixin can be used exactly if no name in it is reserved and it assigns to no constant of the
language. -/
theorem compile_spelled_eq_ok_iff {t : Descriptor} (ht : Spelled t) {d : Dispatch} :
    compile (render t triedSupport) = .ok d ↔
      Free t ∧ (∀ p ∈ t.writable, nameOf p.name.toList ≠ "__debug__") ∧ d = dispatchFor t := by
  constructor
  · intro h
    have hf : Free t := by
      refine Classical.byContradiction fun hf => ?_
      obtain ⟨e, he⟩ := exists_error_of_readModule_render ht hf
      rw [compile, he] at h
      cases h
    rw [compile_render ht hf] at h
    split at h
    · cases h
    · next hconstant =>
      cases h
      refine ⟨hf, fun p hp he => hconstant ?_, rfl⟩
      exact List.any_eq_true.mpr ⟨p, hp, beq_iff_eq.mpr he⟩
  · rintro ⟨hf, hconstant, rfl⟩
    rw [compile_render ht hf, if_neg]
    intro hany
    obtain ⟨p, hp, he⟩ := List.any_eq_true.mp hany
    exact hconstant p hp (beq_iff_eq.mp he)

/-- In particular this holds where the scope joins identifiers by dots. -/
theorem compile_render_eq_ok_iff {t : Descriptor} (ht : Named t) {d : Dispatch} :
    compile (render t triedSupport) = .ok d ↔
      Free t ∧ (∀ p ∈ t.writable, nameOf p.name.toList ≠ "__debug__") ∧ d = dispatchFor t :=
  compile_spelled_eq_ok_iff ht.spelled

end KeyedAccess.Access
