import KeyedAccess.Proofs.Script.Refusing
import KeyedAccess.Proofs.Target.MixinTree

/-!
# Mixins with reserved names

A reserved word cannot stand behind a dot. So the text of a mixin is no module if a name that it
reads or assigns is reserved: the reading fails in the first case with such a name.
-/

namespace KeyedAccess.Mixin

open Script Text

section Blocks

variable {depth level : Nat}

private theorem fails_member (word : String) (rest : List Token) :
    Fails (expressionOf (grammarWithin depth))
      (.name "self".toList :: .op "." :: .word word :: rest) :=
  fails_expressionOf rfl ⟨_, rfl⟩

private theorem fails_readLine {name : String} (h : name ∈ reservedWords) (rest : List Token) :
    Fails (lineOf (readersBelow (depth + 3) level)) ((readLine name).tokens ++ rest) := by
  have hvalue : Fails (expressionsOf (grammarWithin (depth + 3)))
      (.name "self".toList :: .op "." :: .word name :: .newline :: rest) :=
    fails_expressionsOf rfl (fails_member name _)
  have hreturn : Fails (expressionsOf (grammarWithin (depth + 3)) >>= fun e =>
      pure (Statement.return (some e)))
      (.name "self".toList :: .op "." :: .word name :: .newline :: rest) := fails_bind hvalue
  rw [readLine, Lexeme.ofName, if_pos h]
  exact fails_lineOf_of_simpleStatement rfl (hreturn.of_eq rfl)

private theorem fails_writeLine {name : String} (h : name ∈ reservedWords) (type : String)
    (rest : List Token) :
    Fails (lineOf (readersBelow (depth + 3) level)) ((writeLine name type).tokens ++ rest) := by
  rw [writeLine, Lexeme.ofName, if_pos h]
  exact fails_lineOf_of_simpleStatement rfl (fails_simpleStatement rfl
    (fails_assigned rfl (fails_member name _)))

/-- A case fails where its line does. -/
theorem fails_caseOf_written {c : WrittenCase}
    (hf : ∀ rest, Fails (lineOf (readersBelow (depth + 3) level)) (c.body.tokens ++ rest))
    (rest : List Token) :
    Fails (caseOf (readersBelow (depth + 3) (level + 1))) (c.tokens ++ rest) := by
  have htokens : c.tokens ++ rest = .name "case".toList :: (literal c.key).token ::
      .op ":" :: .newline :: .indent :: (c.body.tokens ++ rest) := by
    rw [WrittenCase.tokens, List.append_assoc]
    rfl
  rw [htokens]
  exact fails_caseOf (casePattern_quotation (points_asciiForm c.key.toList) _)
    (fails_blockOf (hf rest))

section Cases

variable {properties : List Property} {write : Property → Line}
  {statementOf : Property → Statement}
  (hr : ∀ p ∈ properties, p.name ∉ reservedWords → ∀ rest,
    lineOf (readersBelow (depth + 3) level) ((write p).tokens ++ rest) =
      .ok ([statementOf p], rest))
  (hf : ∀ p ∈ properties, p.name ∈ reservedWords → ∀ rest,
    Fails (lineOf (readersBelow (depth + 3) level)) ((write p).tokens ++ rest))
  (hn : ∃ p ∈ properties, p.name ∈ reservedWords)

include hr hf hn

/-- The first case with a reserved name fails, and those in front of it are read. -/
theorem breaks_cases (rest : List Token) :
    Breaks (caseOf (readersBelow (depth + 3) (level + 1)))
      (casesTokens (properties.map fun p => ⟨p.name, write p⟩) ++ rest) := by
  induction properties with
  | nil =>
    obtain ⟨p, hp, -⟩ := hn
    cases hp
  | cons p properties ih =>
    have htokens : ∀ (c : WrittenCase) (cases : List WrittenCase),
        casesTokens (c :: cases) ++ rest = c.tokens ++ .dedent :: (casesTokens cases ++ rest) := by
      intro c cases
      simp only [casesTokens, List.flatMap_cons, List.append_assoc, List.cons_append,
        List.nil_append]
    rw [List.map_cons, htokens]
    by_cases hp : p.name ∈ reservedWords
    · exact .now (fails_caseOf_written (hf p List.mem_cons_self hp) _)
    · refine .later (caseOf_written (hr p List.mem_cons_self hp) _) ?_
        (ih (fun q hq => hr q (List.mem_cons_of_mem _ hq))
          (fun q hq => hf q (List.mem_cons_of_mem _ hq)) ?_)
      · simp only [List.length_append, List.length_cons]
        omega
      · obtain ⟨q, hq, hm⟩ := hn
        rcases List.mem_cons.mp hq with rfl | hq
        · exact absurd hm hp
        · exact ⟨q, hq, hm⟩

/-- A method with such a case fails. -/
theorem fails_methodTokens {name : String} {parameters : List Part} {result : Lexeme}
    {statement : List Statement → Statement}
    (hh : ∀ rest, functionAfter (readersBelow (depth + 3) (level + 2)) false []
        ((methodLine name parameters result).tokens.tail ++ rest) =
      (blockOf (readersBelow (depth + 3) (level + 2)) >>= fun body => pure (statement body))
        (.op ":" :: .newline :: rest)) (rest : List Token) :
    Fails (lineOf (readersBelow (depth + 3) (level + 2)))
      (methodTokens (methodLine name parameters result)
        (properties.map fun p => ⟨p.name, write p⟩) ++ rest) := by
  have hmatch : Fails (readersBelow (depth + 3) (level + 2)).line (matchLine.tokens ++ .indent ::
      (casesTokens (properties.map fun p => ⟨p.name, write p⟩) ++ rest)) :=
    fails_lineOf_match rfl (breaks_cases hr hf hn rest) "name".toList
  have htokens : ∀ header cases, methodTokens header cases ++ rest =
      header.tokens ++ .indent :: (matchLine.tokens ++ .indent :: (casesTokens cases ++ rest)) := by
    intro header cases
    simp only [methodTokens, List.append_assoc, List.cons_append]
  have hfunction := (fails_bind (fails_blockOf hmatch)).of_eq (hh _)
  have hline := fails_bind (k := fun s => pure [s]) hfunction
  rw [htokens]
  exact hline.of_eq (lineOf_methodLine name parameters result _)

end Cases

private theorem fails_getMethod {t : Descriptor} (h : ∃ p ∈ t.readable, p.name ∈ reservedWords)
    (rest : List Token) :
    Fails (lineOf (readersBelow (depth + 3) (level + 2)))
      (methodTokens getLine (readCases t) ++ rest) :=
  fails_methodTokens (fun _ _ => lineOf_readLine) (fun _ _ => fails_readLine) h
    functionAfter_getLine rest

private theorem fails_setMethod {t : Descriptor} (h : ∃ p ∈ t.writable, p.name ∈ reservedWords)
    (rest : List Token) :
    Fails (lineOf (readersBelow (depth + 3) (level + 2)))
      (methodTokens setLine (writeCases t) ++ rest) :=
  fails_methodTokens (fun p _ hp => lineOf_writeLine hp p.type)
    (fun p _ hp => fails_writeLine hp p.type) h functionAfter_setLine rest

/-- The class fails with a reserved name. -/
theorem fails_classTokens {t : Descriptor} (h : ¬ Free t) (hr : ∀ c ∈ classRemark t, c ≠ '\\')
    (rest : List Token) :
    Fails (lineOf (readersBelow (depth + 3) (level + 3))) (classTokens t ++ rest) := by
  have htokens : classTokens t ++ rest =
      (classLine t.identifier).tokens ++ .indent :: ((remarkLine 4 (classRemark t)).tokens ++
        (slotsLine.tokens ++ (methodTokens getLine (readCases t) ++ .dedent :: .dedent ::
          .dedent :: (methodTokens setLine (writeCases t) ++ rest)))) := by
    simp only [classTokens, List.append_assoc, List.cons_append]
  have hmethods : Breaks (nextLine (readersBelow (depth + 3) (level + 3)))
      (methodTokens getLine (readCases t) ++ .dedent :: .dedent :: .dedent ::
        (methodTokens setLine (writeCases t) ++ rest)) := by
    by_cases hreads : ∃ p ∈ t.readable, p.name ∈ reservedWords
    · exact .now (fails_nextLine (beginsLine_method _ _ _) (fails_getMethod hreads _))
    · have hfree : ∀ p ∈ t.readable, p.name ∉ reservedWords := fun p hp hm => hreads ⟨p, hp, hm⟩
      have hwrites : ∃ p ∈ t.writable, p.name ∈ reservedWords :=
        Classical.byContradiction fun hno => h ⟨hfree, fun p hp hm => hno ⟨p, hp, hm⟩⟩
      refine .later (nextLine_of_ok (beginsLine_method _ _ _) (lineOf_getMethod hfree _)) ?_
        (.now (fails_nextLine (beginsLine_method _ _ _) (fails_setMethod hwrites _)))
      simp only [List.length_append, List.length_cons]
      omega
  have hlines : Breaks (nextLine (readersBelow (depth + 3) (level + 3))) (slotsLine.tokens ++ _) :=
    .later (nextLine_of_ok (beginsLine_line _ _) (lineOf_slotsLine _)) (length_lt_line _ _) hmethods
  have hblock := fails_blockOf_of_ok (r := readersBelow (depth + 3) (level + 3))
    (lineOf_remarkLine 4 hr _) hlines
  have hclass := (fails_bind hblock).of_eq (classAfter_classLine t.identifier _)
  have hline := fails_bind (k := fun s => pure [s]) hclass
  rw [htokens]
  exact hline.of_eq (lineOf_classLine t.identifier _)

/-- The tokens of a mixin with a reserved name are no module. -/
theorem fails_moduleTokens {t : Descriptor} (ht : Spelled t) (h : ¬ Free t) (rest : List Token) :
    Fails (moduleOf (depth + 4)) (moduleTokens t ++ rest) := by
  have hmodule : ∀ c ∈ moduleRemark t, c ≠ '\\' := fun c hc => (inRemark_moduleRemark ht c hc).2.1
  have hclass : ∀ c ∈ classRemark t, c ≠ '\\' := fun c hc => (inRemark_classRemark ht c hc).2.1
  have hlast : Breaks (nextLine (readersBelow (depth + 4) (depth + 4))) (classTokens t ++ rest) :=
    .now (fails_nextLine (beginsLine_class t rest) (fails_classTokens h hclass rest))
  have hsupport : Breaks (nextLine (readersBelow (depth + 4) (depth + 4)))
      (supportLine.tokens ++ _) :=
    .later (nextLine_of_ok (beginsLine_line _ _) (lineOf_supportLine _)) (length_lt_line _ _) hlast
  have htyping : Breaks (nextLine (readersBelow (depth + 4) (depth + 4)))
      ((typingLine !t.writable.isEmpty).tokens ++ _) :=
    .later (nextLine_of_ok (beginsLine_line _ _) (lineOf_typingLine _ _)) (length_lt_line _ _)
      hsupport
  have hlines : Breaks (nextLine (readersBelow (depth + 4) (depth + 4)))
      ((remarkLine 0 (moduleRemark t)).tokens ++ _) :=
    .later (nextLine_of_ok (beginsLine_line _ _) (lineOf_remarkLine 0 hmodule _))
      (length_lt_line _ _) htyping
  have htokens : moduleTokens t ++ rest =
      (remarkLine 0 (moduleRemark t)).tokens ++ ((typingLine !t.writable.isEmpty).tokens ++
        (supportLine.tokens ++ (classTokens t ++ rest))) := by
    simp only [moduleTokens, List.append_assoc]
  rw [htokens]
  exact fails_bind (fails_bind (fails_many hlines))

end Blocks

/-- The text of a mixin with a reserved name is no module. -/
theorem exists_error_of_readModule_render {t : Descriptor} (ht : Spelled t) (h : ¬ Free t) :
    ∃ e, readModule (render t Access.triedSupport).toList = .error e := by
  obtain ⟨depth, hdepth⟩ := Nat.exists_eq_add_of_le' (two_le_length_render ht)
  have hmodule : Fails (moduleOf (depth + 4))
      (moduleTokens t ++ [Token.dedent, .dedent, .dedent, .dedent, .finish]) :=
    fails_moduleTokens ht h _
  obtain ⟨f, hf⟩ := hmodule
  refine ⟨f.error, ?_⟩
  rw [readModule, not_nul_of_render ht, if_neg Bool.false_ne_true, tokenize_render ht, hdepth, hf]

end KeyedAccess.Mixin
