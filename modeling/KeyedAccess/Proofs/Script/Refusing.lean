import KeyedAccess.Proofs.Script.Reading

/-!
# Readings that fail

A reading fails where a part of it does that nothing else is tried for. The only other attempt in
the grammar of lines is to read a choice by patterns as an expression, which ends at the name behind
its first word.
-/

namespace KeyedAccess.Script

section Readers

variable {α β : Type}

/-- A reading that fails. -/
def Fails (r : Reader α) (tokens : List Token) : Prop := ∃ f, r tokens = .error f

/-- A reading fails if its first part does. -/
theorem fails_bind {first : Reader α} {k : α → Reader β} {tokens : List Token}
    (h : Fails first tokens) : Fails (first >>= k) tokens := by
  obtain ⟨f, hf⟩ := h
  refine ⟨f, ?_⟩
  change (first tokens >>= fun p => k p.1 p.2) = .error f
  rw [hf]
  rfl

/-- A reading fails if what follows its first part does. -/
theorem fails_bind_of_ok {first : Reader α} {next : α → Reader β} {tokens rest : List Token}
    {value : α} (h : first tokens = .ok (value, rest)) (hn : Fails (next value) rest) :
    Fails (first >>= next) tokens := by
  obtain ⟨f, hf⟩ := hn
  exact ⟨f, (bind_of_ok h).trans hf⟩

/-- A reading fails where it does the same as one that fails. -/
theorem Fails.of_eq {r other : Reader α} {tokens behind : List Token} (h : Fails other behind)
    (he : r tokens = other behind) : Fails r tokens := by
  obtain ⟨f, hf⟩ := h
  exact ⟨f, he.trans hf⟩

/-- A repetition that fails in some round. -/
inductive Breaks (step : Reader (Option α)) : List Token → Prop where
  /-- It fails in the next round. -/
  | now {tokens : List Token} (h : Fails step tokens) : Breaks step tokens
  /-- It fails behind a round that gives a value. -/
  | later {tokens between : List Token} {value : α} (h : step tokens = .ok (some value, between))
    (hlt : between.length < tokens.length) (hb : Breaks step between) : Breaks step tokens

/-- A repetition that fails in some round fails if enough rounds are allowed. -/
theorem fails_manyWithin {step : Reader (Option α)} {tokens : List Token} (h : Breaks step tokens)
    {count : Nat} (hc : tokens.length < count) : Fails (manyWithin step count) tokens := by
  induction h generalizing count with
  | now h =>
    obtain ⟨count, rfl⟩ : ∃ n, count = n + 1 := ⟨count - 1, by omega⟩
    exact fails_bind h
  | later h hlt _ ih =>
    obtain ⟨count, rfl⟩ : ∃ n, count = n + 1 := ⟨count - 1, by omega⟩
    exact fails_bind_of_ok h (fails_bind (ih (by omega)))

/-- A repetition that fails in some round fails. -/
theorem fails_many {step : Reader (Option α)} {tokens : List Token} (h : Breaks step tokens) :
    Fails (many step) tokens := by
  cases h with
  | now h => exact fails_bind h
  | later h hlt hb =>
    exact fails_bind_of_ok h (fails_bind (fails_manyWithin hb (Nat.lt_succ_self _)))

end Readers

section Levels

variable {g : Grammar} {first : Token} {more : List Token}

/-- An expression fails where the atom at its front does, with what is behind the atom. -/
theorem fails_expressionOf (hf : beginsAtom first = true)
    (h : Fails (primary g) (first :: more)) : Fails (expressionOf g) (first :: more) := by
  have haccept : ∀ word, acceptWord word (first :: more) = .ok (false, first :: more) := by
    intro word
    cases first <;> first | rfl | cases hf
  have hpower : Fails (powerOf g) (first :: more) :=
    fails_bind_of_ok (haccept "await") (fails_bind h)
  have hfactor : Fails (factorOf g) (first :: more) := by
    have hpeek : peek (first :: more) = .ok (first, first :: more) := rfl
    have hsign : signOf first = none := by
      cases first <;> first | rfl | cases hf
    refine fails_bind_of_ok (many_of_none (?_ : _ = Except.ok (none, first :: more)))
      (fails_bind hpower)
    rw [bind_of_ok hpeek, hsign]
    rfl
  have hoperand : ∀ (rs : List (List (String × BinaryOp))) (operand : Reader Expr),
      Fails operand (first :: more) →
        Fails (rs.foldl (fun operand ops => leftChain ops operand) operand) (first :: more) := by
    intro rs
    induction rs with
    | nil => exact fun _ h => h
    | cons ops rs ih => exact fun operand h => ih _ (fails_bind h)
  have hcomparison : Fails (comparisonOf g) (first :: more) :=
    fails_bind (hoperand ranks _ hfactor)
  have hinversion : Fails (inversionOf g) (first :: more) := by
    refine fails_bind_of_ok (many_of_none (?_ : _ = Except.ok (none, first :: more)))
      (fails_bind hcomparison)
    rw [bind_of_ok (haccept "not")]
    rfl
  have hdisjunction : Fails (disjunctionOf g) (first :: more) := fails_bind (fails_bind hinversion)
  exact fails_bind_of_ok (haccept "lambda") (fails_bind hdisjunction)

/-- So do expressions between commas. -/
theorem fails_expressionsOf (hf : beginsAtom first = true)
    (h : Fails (g .expression) (first :: more)) : Fails (expressionsOf g) (first :: more) := by
  have hstar : acceptOp "*" (first :: more) = .ok (false, first :: more) := by
    cases first <;> first | rfl | cases hf
  exact fails_bind (fails_bind_of_ok hstar h)

/-- So does the right side of an assignment, or its target. -/
theorem fails_assigned {r : Readers} (hf : beginsAtom first = true)
    (h : Fails (r.grammar .expression) (first :: more)) : Fails r.assigned (first :: more) := by
  have hyield : nextIsWord "yield" (first :: more) = .ok (false, first :: more) := by
    cases first <;> first | rfl | cases hf
  exact fails_bind_of_ok hyield (fails_expressionsOf hf h)

end Levels

section Statements

variable {r : Readers} {tokens : List Token}

/-- A line that begins no statement with blocks fails if its statement does. -/
theorem fails_lineOf_of_simpleStatement (hl : lineOf r tokens = simpleLine r tokens)
    (h : Fails (simpleStatement r) tokens) : Fails (lineOf r) tokens := (fails_bind h).of_eq hl

/-- A statement that begins with an expression fails if the expression does. -/
theorem fails_simpleStatement (hs : simpleStatement r tokens = expressionStatement r tokens)
    (h : Fails r.assigned tokens) : Fails (simpleStatement r) tokens := (fails_bind h).of_eq hs

/-- A block fails if its first line does. -/
theorem fails_blockOf (h : Fails r.line tokens) :
    Fails (blockOf r) (.op ":" :: .newline :: .indent :: tokens) :=
  (fails_bind h).of_eq (blockOf_indented r tokens)

/-- So it does if its first line is read and one of the others fails. -/
theorem fails_blockOf_of_ok {between : List Token} {first : List Statement}
    (h : r.line tokens = .ok (first, between)) (hb : Breaks (nextLine r) between) :
    Fails (blockOf r) (.op ":" :: .newline :: .indent :: tokens) := by
  have hlines : Fails (linesOf r) between := fails_bind (fails_many hb)
  exact (fails_bind_of_ok h (fails_bind hlines)).of_eq (blockOf_indented r tokens)

/-- A line fails as one of several. -/
theorem fails_nextLine (hb : BeginsLine tokens) (h : Fails r.line tokens) :
    Fails (nextLine r) tokens := (fails_bind h).of_eq (nextLine_eq hb)

/-- A case fails if its block does. -/
theorem fails_caseOf {pattern : Pattern} {block : List Token}
    (hp : casePattern r.pattern tokens = .ok (pattern, .op ":" :: block))
    (hb : Fails (blockOf r) (.op ":" :: block)) :
    Fails (caseOf r) (.name "case".toList :: tokens) := by
  have hpeek : peek (.name "case".toList :: tokens) =
      .ok (.name "case".toList, .name "case".toList :: tokens) := rfl
  have hadvance : advance (.name "case".toList :: tokens) = .ok ((), tokens) := rfl
  have hif : acceptWord "if" (.op ":" :: block) = .ok (false, .op ":" :: block) := rfl
  have hguard : (pure none : Reader (Option Expr)) (.op ":" :: block) =
      .ok (none, .op ":" :: block) := rfl
  exact fails_bind_of_ok hpeek (fails_bind_of_ok hadvance (fails_bind_of_ok hp
    (fails_bind_of_ok hif (fails_bind_of_ok hguard (fails_bind hb)))))

/-- A choice by patterns fails if one of its cases does. -/
theorem fails_matchStatement {depth : Nat} (hg : r.grammar = grammarWithin (depth + 1))
    (hb : Breaks (caseOf r) tokens) (text : List Char) :
    Fails (matchStatement r)
      (.name "match".toList :: .name text :: .op ":" :: .newline :: .indent :: tokens) := by
  have hmatch : expect (.name "match".toList)
      (.name "match".toList :: .name text :: .op ":" :: .newline :: .indent :: tokens) =
      .ok ((), .name text :: .op ":" :: .newline :: .indent :: tokens) := rfl
  have hsubject : subjectOf r.grammar (.name text :: .op ":" :: .newline :: .indent :: tokens) =
      .ok (.name (nameOf text), .op ":" :: .newline :: .indent :: tokens) := by
    rw [hg]
    rfl
  have hcolon : expectOp ":" (.op ":" :: .newline :: .indent :: tokens) =
      .ok ((), .newline :: .indent :: tokens) := rfl
  have hopen : openBlock (.newline :: .indent :: tokens) = .ok ((), tokens) := rfl
  refine fails_bind_of_ok hmatch (fails_bind_of_ok hsubject (fails_bind_of_ok hcolon
    (fails_bind_of_ok hopen ?_)))
  cases hb with
  | now h => exact fails_bind h
  | later h _ hb => exact fails_bind_of_ok h (fails_bind (fails_many hb))

/-- Two names behind one another are no line. -/
theorem fails_simpleLine_names {depth : Nat} (hg : r.grammar = grammarWithin (depth + 1))
    (first second : List Char) (rest : List Token) :
    Fails (simpleLine r) (.name first :: .name second :: rest) := by
  have hname : expressionOf (grammarWithin depth) (.name first :: .name second :: rest) =
      .ok (.name (nameOf first), .name second :: rest) :=
    expressionOf_of_primary rfl (primary_of_atom (atom_name first _) rfl) rfl
  have hassigned : r.assigned (.name first :: .name second :: rest) =
      .ok (.name (nameOf first), .name second :: rest) :=
    assigned_of_ok rfl nofun (by rw [hg]; exact hname)
  have hstatement : simpleStatement r (.name first :: .name second :: rest) =
      .ok (.expression (.name (nameOf first)), .name second :: rest) := by
    have hread : simpleStatement r (.name first :: .name second :: rest) =
        expressionStatement r (.name first :: .name second :: rest) := rfl
    rw [hread, expressionStatement, bind_of_ok hassigned]
    rfl
  refine fails_bind_of_ok hstatement ?_
  exact fails_bind ⟨_, rfl⟩

/-- A line fails where the choice by patterns does that it begins with. -/
theorem fails_lineOf_match {depth : Nat} (hg : r.grammar = grammarWithin (depth + 1))
    (hb : Breaks (caseOf r) tokens) (text : List Char) :
    Fails (lineOf r)
      (.name "match".toList :: .name text :: .op ":" :: .newline :: .indent :: tokens) := by
  have hchoice : Fails (matchStatement r >>= fun s => pure [s])
      (.name "match".toList :: .name text :: .op ":" :: .newline :: .indent :: tokens) :=
    fails_bind (fails_matchStatement hg hb text)
  obtain ⟨f, hf⟩ := hchoice
  obtain ⟨f', hf'⟩ := fails_simpleLine_names hg "match".toList text
    (.op ":" :: .newline :: .indent :: tokens)
  have hline : Fails (orElse (matchStatement r >>= fun s => pure [s]) (simpleLine r))
      (.name "match".toList :: .name text :: .op ":" :: .newline :: .indent :: tokens) := by
    refine ⟨f.further f', ?_⟩
    simp only [orElse, hf, hf']
  exact hline.of_eq rfl

end Statements

end KeyedAccess.Script
