import KeyedAccess.Generation
import KeyedAccess.Proofs.Access.Refinement

/-!
# Which mixins are accepted

A mixin is generated for every parsed declaration. Its text is a module exactly if no key is a
reserved word, whatever else is declared. A module can still fail to compile where it assigns to the
one name that is a constant of the language; without a key of this name every module compiles, to
the dispatch of its declaration.
-/

namespace KeyedAccess.Access

open Script Text Mixin

/-- The options under which mixins are tried. -/
def triedOptions : List (String × String) := [("runtime_import", triedSupport)]

/-- The names under which a descriptor gives access. -/
def keyNames (t : Descriptor) : List String :=
  (t.properties.filter fun p => p.readable || p.writable).map (·.name)

/-- A name gives access exactly if a property of this name can be read or written. -/
theorem mem_keyNames_iff {t : Descriptor} {name : String} :
    name ∈ keyNames t ↔ (∃ p ∈ t.readable, p.name = name) ∨ ∃ p ∈ t.writable, p.name = name := by
  simp only [keyNames, Descriptor.readable, Descriptor.writable, List.mem_map, List.mem_filter,
    Bool.or_eq_true, and_or_left, or_and_right, exists_or]

/-- The names in a mixin are free exactly if no key is reserved. -/
theorem free_iff {t : Descriptor} : Free t ↔ ∀ name ∈ keyNames t, name ∉ reservedWords := by
  constructor
  · intro hf name hn
    obtain ⟨p, hp, rfl⟩ | ⟨p, hp, rfl⟩ := mem_keyNames_iff.mp hn
    · exact hf.readable p hp
    · exact hf.writable p hp
  · intro h
    exact ⟨fun p hp => h _ (mem_keyNames_iff.mpr (.inl ⟨p, hp, rfl⟩)),
      fun p hp => h _ (mem_keyNames_iff.mpr (.inr ⟨p, hp, rfl⟩))⟩

/-- The text of a mixin is a module exactly if no key is reserved. -/
theorem isModule_render_iff {t : Descriptor} (ht : Named t) :
    (∃ statements, readModule (render t triedSupport).toList = .ok statements) ↔
      ∀ name ∈ keyNames t, name ∉ reservedWords := by
  rw [← free_iff]
  constructor
  · rintro ⟨statements, hs⟩
    refine Classical.byContradiction fun hf => ?_
    obtain ⟨e, he⟩ := exists_error_of_readModule_render ht.spelled hf
    cases hs.symm.trans he
  · intro hf
    exact ⟨_, readModule_render ht.spelled hf⟩

/-- The mixin that is generated for a parsed declaration is a module exactly if no key is a reserved
word, and every such module compiles, to the dispatch of the declaration. -/
theorem accepts_synthesize_iff {text : String} {out : List Declaration}
    (hp : Schema.parse text = .ok out) {d : Declaration} (hd : d ∈ out)
    (hc : "__debug__" ∉ keyNames d.describe) :
    ∃ source, (synthesize d.describe "python" triedOptions).result = .ok source ∧
      ((∃ statements, readModule source.toList = .ok statements) ↔
        ∀ name ∈ keyNames d.describe, name ∉ reservedWords) ∧
      ∀ dispatch, compile source = .ok dispatch ↔
        (∀ name ∈ keyNames d.describe, name ∉ reservedWords) ∧
        dispatch = dispatchFor d.describe := by
  have hw := Schema.wellNamed_of_parse hp d hd
  have ht : Named d.describe := named_describe hw
  have hconstant : ∀ p ∈ d.describe.writable, nameOf p.name.toList ≠ "__debug__" := by
    intro p hm he
    have hname := isName_of_mem_describe hw p (List.mem_filter.mp hm).1
    rw [nameOf_of_ascii (toNat_lt_of_isName hname)] at he
    exact hc (mem_keyNames_iff.mpr (.inr ⟨p, hm, he⟩))
  refine ⟨render d.describe triedSupport, rfl, isModule_render_iff ht, fun dispatch => ?_⟩
  rw [compile_render_eq_ok_iff ht, ← free_iff]
  exact and_congr_right fun _ => and_iff_right hconstant

/-- A class whose only property has a reserved name. -/
def rule : Schema.TypeDeclaration :=
  { header := ⟨[], .cls, "Rule"⟩
    parameters := none
    bases := []
    members :=
      [⟨[.access .everyone], .property "lambda" (.mk ⟨"int", []⟩ [] [] false) [⟨.get, true⟩]⟩] }

/-- A reserved name does no harm where it is private, but nothing compiles with it as a key. -/
theorem accepts_account_not_rule :
    (∃ source, (synthesize (account.meaning none).describe "python" triedOptions).result =
        .ok source ∧ compile source = .ok (dispatchFor (account.meaning none).describe)) ∧
      ∃ source, (synthesize (rule.meaning none).describe "python" triedOptions).result =
        .ok source ∧ ∀ dispatch, compile source ≠ .ok dispatch := by
  have hm : Schema.meaning [.type account, .type rule] =
      .ok [account.meaning none, rule.meaning none] := rfl
  have hp := Schema.File.parse_text (f := [.type account, .type rule])
    ⟨by decide +kernel, (Schema.meaning_eq_ok_iff.mp hm).1⟩
  constructor
  · obtain ⟨source, hs, -, hcompile⟩ :=
      accepts_synthesize_iff hp List.mem_cons_self (by decide +kernel)
    exact ⟨source, hs, (hcompile _).mpr ⟨by decide +kernel, rfl⟩⟩
  · obtain ⟨source, hs, -, hcompile⟩ :=
      accepts_synthesize_iff hp (List.mem_cons_of_mem _ List.mem_cons_self) (by decide +kernel)
    refine ⟨source, hs, fun dispatch h => ?_⟩
    exact ((hcompile dispatch).mp h).1 "lambda" (by decide +kernel) (by decide +kernel)

end KeyedAccess.Access
