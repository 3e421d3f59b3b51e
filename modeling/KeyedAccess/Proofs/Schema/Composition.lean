import KeyedAccess.Proofs.Schema.Concatenation
import KeyedAccess.Proofs.Schema.Faults

/-!
# Declarations of texts one behind the other

The declarations of two texts, one behind the other, are those of the first and those of the second,
which begin in the namespace that the first one leaves. A name that both declare is an error. This
holds for all texts but those that run on from one another.
-/

namespace KeyedAccess.Schema

/-- The number of declarations in front of the first namespace statement. -/
def leading (f : File) : Nat := (f.takeWhile (·.path?.isNone)).length

/-- The declarations of a file behind other statements: those in front of its first namespace
statement are in the namespace that the other statements leave. -/
def continued (before f : File) (out : List Declaration) : List Declaration :=
  (out.take (leading f)).map (fun d => { d with scope := scopeBehind before }) ++
    out.drop (leading f)

/-- Nothing but the namespace of the first declarations depends on what stands in front. -/
theorem declarationsFrom_eq_continued (before f : File) (scope : Option String) :
    declarationsFrom (scopeBehind before) f = continued before f (declarationsFrom scope f) := by
  induction f with
  | nil => rfl
  | cons item f ih =>
    cases item with
    | scope path terminated => rfl
    | type d => exact congrArg (d.meaning (scopeBehind before) :: ·) ih

/-- Two meaningful files, one behind the other, have a meaning unless a name is repeated. -/
theorem meaning_append {f g : File} (hf : f.Meaningful) (hg : g.Meaningful) :
    meaning (f ++ g) =
      (firstRepeated [] ((declarationsFrom none f).map (·.identifier) ++
        (declarationsFrom none g).map (·.identifier))).elim
        (.ok (declarationsFrom none f ++ continued f g (declarationsFrom none g)))
        fun name => .error (.redeclared name) := by
  have hblocks : (blocksOfFile (f ++ g)).findSome? blockFault = none := by
    refine findSome?_blockFault_eq_none_iff.mpr fun block hb => ?_
    rw [blocksOfFile, List.flatMap_append] at hb
    exact (List.mem_append.mp hb).elim (hf.blocks block) (hg.blocks block)
  have hnames : (declarationsFrom (scopeBehind f) g).map (·.identifier) =
      (declarationsFrom none g).map (·.identifier) := by
    rw [map_identifier_declarationsFrom, map_identifier_declarationsFrom]
  simp only [meaning, hblocks, declarationsFrom_append, Option.or_none, List.map_append, hnames]
  rw [declarationsFrom_eq_continued f g none]
  cases firstRepeated [] ((declarationsFrom none f).map (·.identifier) ++
    (declarationsFrom none g).map (·.identifier)) <;> rfl

/-- The result for two texts, one behind the other, composes the results for each of them. -/
structure Composes (f g : File) (outF outG : List Declaration)
    (result : Except ParseError (List Declaration)) : Prop where
  /-- Without a common name, the declarations follow one another. -/
  distinct : (∀ d ∈ outG, d.identifier ∉ outF.map (·.identifier)) →
    result = .ok (outF ++ continued f g outG)
  /-- The first name of the second text that the first text declares is an error. -/
  clashing : ∀ before d after, outG = before ++ d :: after →
    (∀ e ∈ before, e.identifier ∉ outF.map (·.identifier)) →
    d.identifier ∈ outF.map (·.identifier) → result = .error (.invalid (.redeclared d.identifier))

/-- The meanings of two files compose. -/
theorem composes_meaning {f g : File} (hf : f.Meaningful) (hg : g.Meaningful) :
    Composes f g (declarationsFrom none f) (declarationsFrom none g)
      ((meaning (f ++ g)).mapError .invalid) := by
  have hnodup : ∀ {f : File}, f.Meaningful →
      ((declarationsFrom none f).map (·.identifier)).Nodup := fun h => by
    rw [map_identifier_declarationsFrom]
    exact h.distinct
  constructor
  · intro hd
    have hnone : firstRepeated [] ((declarationsFrom none f).map (·.identifier) ++
        (declarationsFrom none g).map (·.identifier)) = none := by
      refine firstRepeated_nil_eq_none_iff.mpr (List.nodup_append.mpr ⟨hnodup hf, hnodup hg, ?_⟩)
      rintro name hname other hother rfl
      obtain ⟨d, hmem, rfl⟩ := List.mem_map.mp hother
      exact hd d hmem hname
    rw [meaning_append hf hg, hnone]
    rfl
  · intro before d after hout hbefore hd
    have hbeforeNodup : (before.map (·.identifier)).Nodup := by
      have hall := hnodup hg
      rw [hout, List.map_append] at hall
      exact (List.nodup_append.mp hall).1
    have hsome : firstRepeated [] ((declarationsFrom none f).map (·.identifier) ++
        (declarationsFrom none g).map (·.identifier)) = some d.identifier := by
      refine firstRepeated_eq_some_iff.mpr ⟨(declarationsFrom none f).map (·.identifier) ++
        before.map (·.identifier), after.map (·.identifier), ?_,
        .inr (List.mem_append_left _ hd), ?_⟩
      · rw [hout, List.map_append, List.map_cons, List.append_assoc]
      · refine firstRepeated_nil_eq_none_iff.mpr
          (List.nodup_append.mpr ⟨hnodup hf, hbeforeNodup, ?_⟩)
        rintro name hname other hother rfl
        obtain ⟨e, hmem, rfl⟩ := List.mem_map.mp hother
        exact hbefore e hmem hname
    rw [meaning_append hf hg, hsome]
    rfl

/-- A result that composes others is no error of syntax. -/
theorem Composes.position?_eq_none {f g : File} {outF outG : List Declaration} {e : ParseError}
    (h : Composes f g outF outG (.error e)) : e.position? = none := by
  cases hd : outG.find? fun d => decide (d.identifier ∈ outF.map (·.identifier)) with
  | none =>
    have hdistinct : ∀ d ∈ outG, d.identifier ∉ outF.map (·.identifier) := fun d hm =>
      of_decide_eq_false (Bool.eq_false_iff.mpr (List.find?_eq_none.mp hd d hm))
    cases h.distinct hdistinct
  | some d =>
    obtain ⟨hmem, before, after, hout, hbefore⟩ := List.find?_eq_some_iff_append.mp hd
    have hfirst : ∀ e ∈ before, e.identifier ∉ outF.map (·.identifier) := fun e hm => by
      simpa only [Bool.not_eq_true', decide_eq_false_iff_not] using hbefore e hm
    cases h.clashing before d after hout hfirst (of_decide_eq_true hmem)
    rfl

/-- Two texts that are parsed compose, one behind the other, exactly if the second one does not run
on from the first. If it does, its first word is refused as a name. -/
theorem composes_parse_iff {a b : String} {outA outB : List Declaration}
    (ha : parse a = .ok outA) (hb : parse b = .ok outB) :
    ∃ f g, readFile a.toList = .ok f ∧ readFile b.toList = .ok g ∧
      (Composes f g outA outB (parse (a ++ "\n" ++ b)) ↔ ¬ RunsOn f b.toList) ∧
      (RunsOn f b.toList → ∃ name position,
        parse (a ++ "\n" ++ b) = .error (.unexpectedToken (.name name) position)) := by
  obtain ⟨f, hf, hmf⟩ := exists_readFile_of_parse ha
  obtain ⟨g, hg, hmg⟩ := exists_readFile_of_parse hb
  obtain ⟨hf', rfl⟩ := meaning_eq_ok_iff.mp hmf
  obtain ⟨hg', rfl⟩ := meaning_eq_ok_iff.mp hmg
  obtain ⟨hcompose, hrefuse⟩ := readFile_append hf hg
  have htext : (a ++ "\n" ++ b).toList = a.toList ++ '\n' :: b.toList := by
    simp
  have hrefused : RunsOn f b.toList → ∃ name position,
      parse (a ++ "\n" ++ b) = .error (.unexpectedToken (.name name) position) := by
    intro h
    obtain ⟨name, rest, he⟩ := hrefuse h
    exact ⟨name, _, parse_of_error (htext ▸ he)⟩
  refine ⟨f, g, hf, hg, ⟨fun h hr => ?_, fun h => ?_⟩, hrefused⟩
  · obtain ⟨name, position, he⟩ := hrefused hr
    rw [he] at h
    cases h.position?_eq_none
  · rw [parse_of_ok (htext ▸ hcompose h)]
    exact composes_meaning hf' hg'

/-- A class that is declared without a blank behind its keyword is read alone, but not behind a
namespace of two names. -/
theorem not_composes_gluedClass : ∃ outA outB f g,
    parse "namespace A.B" = .ok outA ∧ parse "classFoo \x7b\x7d" = .ok outB ∧
      ¬ Composes f g outA outB (parse ("namespace A.B" ++ "\n" ++ "classFoo \x7b\x7d")) := by
  have hfirst : readFile "namespace A.B".toList = .ok [.scope ⟨"A", ["B"]⟩ false] := by
    rw [readFile, readFrom_token rfl rfl rfl, readFrom_token rfl rfl rfl,
      readFrom_token rfl rfl rfl, readFrom_token rfl rfl rfl]
    exact readFrom_blank rfl rfl
  have hsecond : readFile "classFoo \x7b\x7d".toList =
      .ok [.type ⟨⟨[], .cls, "Foo"⟩, none, [], []⟩] := by
    rw [readFile, readFrom_token rfl rfl rfl, readFrom_token rfl rfl rfl,
      readFrom_token rfl rfl rfl, readFrom_token rfl rfl rfl]
    exact readFrom_blank rfl rfl
  have hruns : RunsOn [.scope ⟨"A", ["B"]⟩ false] "classFoo \x7b\x7d".toList :=
    ⟨⟨_, rfl, List.cons_ne_nil _ _⟩, .cls, 'F', _, rfl, rfl⟩
  obtain ⟨f, g, hf, hg, hiff, -⟩ := composes_parse_iff (parse_of_ok hfirst) (parse_of_ok hsecond)
  obtain rfl := Except.ok.inj (hfirst.symm.trans hf)
  exact ⟨_, _, _, _, parse_of_ok hfirst, parse_of_ok hsecond, fun h => hiff.mp h hruns⟩

end KeyedAccess.Schema
