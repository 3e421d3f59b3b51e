import KeyedAccess.Script.Statement

/-!
# Readings of tokens

How readers behave on tokens that they take. An expression that no operator, comparison or
connective goes on with is read rank by rank as what stands at its front. Repetitions are read round
by round as long as each round takes a token.
-/

namespace KeyedAccess.Script

section Readers

variable {α β : Type}

/-- A reading that succeeds leads on. -/
theorem bind_of_ok {first : Reader α} {next : α → Reader β} {tokens rest : List Token} {value : α}
    (h : first tokens = .ok (value, rest)) : (first >>= next) tokens = next value rest := by
  change (first tokens >>= fun p => next p.1 p.2) = next value rest
  rw [h]
  rfl

/-- A repetition, round by round; every round takes a token. -/
inductive Repeats (step : Reader (Option α)) : List Token → List α → List Token → Prop where
  /-- The last round gives nothing. -/
  | stop {tokens rest : List Token} (h : step tokens = .ok (none, rest)) :
    Repeats step tokens [] rest
  /-- A round gives a value. -/
  | more {tokens between rest : List Token} {value : α} {values : List α}
    (h : step tokens = .ok (some value, between)) (hlt : between.length < tokens.length)
    (hr : Repeats step between values rest) : Repeats step tokens (value :: values) rest

private theorem manyWithin_of_repeats {step : Reader (Option α)} {tokens rest : List Token}
    {values : List α} (h : Repeats step tokens values rest) {count : Nat}
    (hc : tokens.length < count) : manyWithin step count tokens = .ok (values, rest) := by
  induction h generalizing count with
  | stop h =>
    obtain ⟨count, rfl⟩ : ∃ n, count = n + 1 := ⟨count - 1, by omega⟩
    rw [manyWithin, bind_of_ok h]
    rfl
  | more h hlt _ ih =>
    obtain ⟨count, rfl⟩ : ∃ n, count = n + 1 := ⟨count - 1, by omega⟩
    rw [manyWithin, bind_of_ok h]
    exact bind_of_ok (ih (by omega))

/-- A repetition is read. -/
theorem many_of_repeats {step : Reader (Option α)} {tokens rest : List Token} {values : List α}
    (h : Repeats step tokens values rest) : many step tokens = .ok (values, rest) := by
  cases h with
  | stop h =>
    rw [many, bind_of_ok h]
    rfl
  | more h hlt hr =>
    rw [many, bind_of_ok h]
    exact bind_of_ok (manyWithin_of_repeats hr (Nat.lt_succ_self _))

/-- Nothing is repeated where the first round gives nothing. -/
theorem many_of_none {step : Reader (Option α)} {tokens rest : List Token}
    (h : step tokens = .ok (none, rest)) : many step tokens = .ok ([], rest) :=
  many_of_repeats (.stop h)

private theorem many_bind_of_none {step : Reader (Option α)} {next : List α → Reader β}
    {tokens rest : List Token} (h : step tokens = .ok (none, rest)) :
    (many step >>= next) tokens = next [] rest := bind_of_ok (many_of_none h)

end Readers

/-! ## Expressions -/

/-- Tokens that go on with no expression. -/
def endsExpression : Token → Bool
  | .newline | .name _ => true
  | .op symbol => [")", ",", ":", "="].contains symbol
  | _ => false

/-- Tokens that begin an atom and nothing else. -/
def beginsAtom : Token → Bool
  | .name _ | .quotation _ => true
  | _ => false

private theorem eq_of_endsExpression {t : Token} (h : endsExpression t = true) :
    t = .newline ∨ t = .op ")" ∨ t = .op "," ∨ t = .op ":" ∨ t = .op "=" ∨
      ∃ text, t = .name text := by
  cases t with
  | op symbol =>
    simp only [endsExpression, List.contains_iff_mem, List.mem_cons, List.not_mem_nil,
      or_false] at h
    rcases h with rfl | rfl | rfl | rfl <;> simp
  | newline => exact Or.inl rfl
  | name text => exact Or.inr (Or.inr (Or.inr (Or.inr (Or.inr ⟨text, rfl⟩))))
  | word | number | quotation | indent | dedent | finish | fault => cases h

section Levels

variable {g : Grammar} {first t : Token} {more rest : List Token} {value : Expr}

/-- Nothing goes on with an atom. -/
theorem primary_of_atom (h : atom g (first :: more) = .ok (value, t :: rest))
    (ht : endsExpression t = true) : primary g (first :: more) = .ok (value, t :: rest) := by
  rw [primary, bind_of_ok h]
  rcases eq_of_endsExpression ht with rfl | rfl | rfl | rfl | rfl | ⟨_, rfl⟩ <;> rfl

/-- No power goes on with it. -/
theorem powerOf_of_primary (hf : beginsAtom first = true)
    (h : primary g (first :: more) = .ok (value, t :: rest)) (ht : endsExpression t = true) :
    powerOf g (first :: more) = .ok (value, t :: rest) := by
  have hawait : acceptWord "await" (first :: more) = .ok (false, first :: more) := by
    cases first <;> first | rfl | cases hf
  rw [powerOf, bind_of_ok hawait]
  simp only [Bool.false_eq_true, if_false]
  rw [bind_of_ok h]
  rcases eq_of_endsExpression ht with rfl | rfl | rfl | rfl | rfl | ⟨_, rfl⟩ <;> rfl

/-- No sign stands in front of it. -/
theorem factorOf_of_primary (hf : beginsAtom first = true)
    (h : primary g (first :: more) = .ok (value, t :: rest)) (ht : endsExpression t = true) :
    factorOf g (first :: more) = .ok (value, t :: rest) := by
  have hpeek : peek (first :: more) = .ok (first, first :: more) := rfl
  have hsign : signOf first = none := by
    cases first <;> first | rfl | cases hf
  refine (many_bind_of_none (?_ : _ = Except.ok (none, first :: more))).trans ?_
  · rw [bind_of_ok hpeek, hsign]
    rfl
  · rw [bind_of_ok (powerOf_of_primary hf h ht)]
    rfl

/-- No operator of a rank goes on with an operand. -/
theorem leftChain_of_ok {ops : List (String × BinaryOp)} {operand : Reader Expr}
    {tokens : List Token} (h : operand tokens = .ok (value, t :: rest))
    (ht : ∀ symbol, t = .op symbol → ops.lookup symbol = none) :
    leftChain ops operand tokens = .ok (value, t :: rest) := by
  have hpeek : peek (t :: rest) = .ok (t, t :: rest) := rfl
  rw [leftChain, bind_of_ok h]
  refine many_bind_of_none ?_
  rw [bind_of_ok hpeek]
  split
  · next symbol =>
    rw [ht symbol rfl]
    rfl
  · rfl

/-- No operator goes on with it. -/
theorem operandOf_of_primary (hf : beginsAtom first = true)
    (h : primary g (first :: more) = .ok (value, t :: rest)) (ht : endsExpression t = true) :
    operandOf g (first :: more) = .ok (value, t :: rest) := by
  have hrank : ∀ ops ∈ ranks, ∀ symbol, t = .op symbol → ops.lookup symbol = none := by
    intro ops ho symbol hs
    have hall : ∀ symbol ∈ [")", ",", ":", "="], ∀ ops ∈ ranks, ops.lookup symbol = none := by
      decide
    subst hs
    exact hall symbol (List.contains_iff_mem.mp ht) ops ho
  have hfold : ∀ rs : List (List (String × BinaryOp)), (∀ ops ∈ rs, ops ∈ ranks) →
      ∀ operand : Reader Expr, operand (first :: more) = .ok (value, t :: rest) →
        rs.foldl (fun operand ops => leftChain ops operand) operand (first :: more) =
          .ok (value, t :: rest) := by
    intro rs
    induction rs with
    | nil => exact fun _ operand ho => ho
    | cons ops rs ih =>
      intro hm operand ho
      exact ih (fun o h => hm o (List.mem_cons_of_mem _ h)) _
        (leftChain_of_ok ho (hrank ops (hm ops List.mem_cons_self)))
  exact hfold ranks (fun _ h => h) _ (factorOf_of_primary hf h ht)

/-- No comparison goes on with it. -/
theorem comparisonOf_of_primary (hf : beginsAtom first = true)
    (h : primary g (first :: more) = .ok (value, t :: rest)) (ht : endsExpression t = true) :
    comparisonOf g (first :: more) = .ok (value, t :: rest) := by
  have hsign : comparisonSign (t :: rest) = .ok (none, t :: rest) := by
    rcases eq_of_endsExpression ht with rfl | rfl | rfl | rfl | rfl | ⟨_, rfl⟩ <;> rfl
  rw [comparisonOf, bind_of_ok (operandOf_of_primary hf h ht)]
  refine (many_bind_of_none (?_ : _ = Except.ok (none, t :: rest))).trans rfl
  rw [bind_of_ok hsign]
  rfl

/-- No negation stands in front of it. -/
theorem inversionOf_of_primary (hf : beginsAtom first = true)
    (h : primary g (first :: more) = .ok (value, t :: rest)) (ht : endsExpression t = true) :
    inversionOf g (first :: more) = .ok (value, t :: rest) := by
  have hnot : acceptWord "not" (first :: more) = .ok (false, first :: more) := by
    cases first <;> first | rfl | cases hf
  refine (many_bind_of_none (?_ : _ = Except.ok (none, first :: more))).trans ?_
  · rw [bind_of_ok hnot]
    rfl
  · rw [bind_of_ok (comparisonOf_of_primary hf h ht)]
    rfl

/-- No connective of a kind goes on with an operand. -/
theorem connectedBy_of_ok {word : String} {op : Connective} {operand : Reader Expr}
    {tokens : List Token} (h : operand tokens = .ok (value, t :: rest))
    (ht : endsExpression t = true) :
    connectedBy word op operand tokens = .ok (value, t :: rest) := by
  have hword : acceptWord word (t :: rest) = .ok (false, t :: rest) := by
    rcases eq_of_endsExpression ht with rfl | rfl | rfl | rfl | rfl | ⟨_, rfl⟩ <;> rfl
  rw [connectedBy, bind_of_ok h]
  refine (many_bind_of_none (?_ : _ = Except.ok (none, t :: rest))).trans rfl
  rw [bind_of_ok hword]
  rfl

/-- An atom with what is behind it is an expression where nothing goes on with that. -/
theorem expressionOf_of_primary (hf : beginsAtom first = true)
    (h : primary g (first :: more) = .ok (value, t :: rest)) (ht : endsExpression t = true) :
    expressionOf g (first :: more) = .ok (value, t :: rest) := by
  have hlambda : acceptWord "lambda" (first :: more) = .ok (false, first :: more) := by
    cases first <;> first | rfl | cases hf
  have hdisjunction : disjunctionOf g (first :: more) = .ok (value, t :: rest) :=
    connectedBy_of_ok (connectedBy_of_ok (inversionOf_of_primary hf h ht) ht) ht
  have hif : acceptWord "if" (t :: rest) = .ok (false, t :: rest) := by
    rcases eq_of_endsExpression ht with rfl | rfl | rfl | rfl | rfl | ⟨_, rfl⟩ <;> rfl
  rw [expressionOf, bind_of_ok hlambda]
  simp only [Bool.false_eq_true, if_false]
  rw [bind_of_ok hdisjunction, bind_of_ok hif]
  rfl

end Levels

/-- A name is an atom. -/
theorem atom_name {g : Grammar} (text : List Char) (rest : List Token) :
    atom g (.name text :: rest) = .ok (.name (nameOf text), rest) := rfl

/-- A parenthesis behind an expression begins the arguments of a call. -/
theorem trailersWithin_call {g : Grammar} (count : Nat) (value : Expr) (rest : List Token) :
    trailersWithin g (count + 1) value (.op "(" :: rest) =
      (callAfter g value >>= fun value => trailersWithin g count value) rest := rfl

/-- One expression without a comma behind it. -/
theorem assigned_of_ok {r : Readers} {first t : Token} {more rest : List Token} {value : Expr}
    (hf : beginsAtom first = true) (ht : t ≠ .op ",")
    (h : r.grammar .expression (first :: more) = .ok (value, t :: rest)) :
    r.assigned (first :: more) = .ok (value, t :: rest) := by
  have hyield : nextIsWord "yield" (first :: more) = .ok (false, first :: more) := by
    cases first <;> first | rfl | cases hf
  have hstar : acceptOp "*" (first :: more) = .ok (false, first :: more) := by
    cases first <;> first | rfl | cases hf
  have hcomma : nextIsOp "," (t :: rest) = .ok (false, t :: rest) := by
    have hne : (t == .op ",") = false := beq_eq_false_iff_ne.mpr ht
    exact congrArg (fun b => Except.ok (b, t :: rest)) hne
  have hitem : starredOr (r.grammar .operand) (r.grammar .expression) (first :: more) =
      .ok (value, t :: rest) := by
    rw [starredOr, bind_of_ok hstar]
    exact h
  rw [Readers.assigned, bind_of_ok hyield]
  simp only [Bool.false_eq_true, if_false]
  rw [expressionsOf, looseTuple, bind_of_ok hitem, bind_of_ok hcomma]
  rfl

/-- A literal text stands for its code points. -/
theorem quotationValue_eq {g : Grammar} {body : List Char} {points : List Nat}
    (h : (⟨[], body⟩ : Quotation).points = some points) :
    quotationValue g ⟨[], body⟩ [] = some (.constant (.text points false)) := by
  have hpieces : [(⟨[], body⟩ : Quotation)].mapM Quotation.rawPieces = some [[.text points]] := by
    have hraw : (⟨[], body⟩ : Quotation).rawPieces = some [.text points] := by
      rw [Quotation.rawPieces, if_neg (by exact Bool.false_ne_true), h]
      rfl
    rw [List.mapM_cons, hraw]
    rfl
  have hmerged : ∀ chosen : RawPiece → List Nat, (∀ points, chosen (.text points) = points) →
      (mergePieces [.text points]).flatMap chosen = points := by
    intro chosen hchosen
    cases points with
    | nil => rfl
    | cons point points => simp [mergePieces, hchosen]
  have hbytes : [(⟨[], body⟩ : Quotation)].any (·.has 'b') = false := rfl
  have hformat : [(⟨[], body⟩ : Quotation)].any (·.has 'f') = false := rfl
  simp only [quotationValue, hbytes, hpieces, hformat, Bool.false_eq_true, if_false,
    Option.bind_eq_bind, Option.bind_some, List.flatten_cons, List.flatten_nil, List.append_nil]
  exact congrArg (fun points => some (Expr.constant (.text points false)))
    (hmerged _ fun _ => rfl)

/-- A literal text is read where no other one follows. -/
theorem quotations_eq {g : Grammar} {body : List Char} {points : List Nat}
    (h : (⟨[], body⟩ : Quotation).points = some points) {t : Token} (ht : endsExpression t = true)
    (rest : List Token) : quotations g (.quotation ⟨[], body⟩ :: t :: rest) =
      .ok (.constant (.text points false), t :: rest) := by
  have hround : ∀ step : Reader (Option Quotation),
      step (.quotation ⟨[], body⟩ :: t :: rest) = .ok (some ⟨[], body⟩, t :: rest) →
      step (t :: rest) = .ok (none, t :: rest) →
      many step (.quotation ⟨[], body⟩ :: t :: rest) = .ok ([⟨[], body⟩], t :: rest) :=
    fun step hfirst hsecond =>
      many_of_repeats (.more hfirst (Nat.lt_succ_self _) (.stop hsecond))
  rw [quotations]
  refine (bind_of_ok (hround _ rfl ?_)).trans ?_
  · rcases eq_of_endsExpression ht with rfl | rfl | rfl | rfl | rfl | ⟨_, rfl⟩ <;> rfl
  · simp only [quotationValue_eq h]
    rfl

/-- A literal text is an expression where nothing goes on with it. -/
theorem expressionOf_quotation {g : Grammar} {body : List Char} {points : List Nat}
    (h : (⟨[], body⟩ : Quotation).points = some points) {t : Token} (ht : endsExpression t = true)
    (rest : List Token) : expressionOf g (.quotation ⟨[], body⟩ :: t :: rest) =
      .ok (.constant (.text points false), t :: rest) :=
  expressionOf_of_primary rfl (primary_of_atom (quotations_eq h ht rest) ht) ht

/-! ## Statements -/

/-- A line of one statement. -/
theorem simpleLine_of_ok {r : Readers} {tokens rest : List Token} {statement : Statement}
    (h : simpleStatement r tokens = .ok (statement, .newline :: rest)) :
    simpleLine r tokens = .ok ([statement], rest) := by
  rw [simpleLine, bind_of_ok h]
  rfl

/-- An assignment to one target. -/
theorem expressionStatement_assign {r : Readers} {tokens more rest : List Token}
    {target value : Expr} (ht : target.isTarget = true)
    (h : r.assigned tokens = .ok (target, .op "=" :: more))
    (hv : r.assigned more = .ok (value, .newline :: rest)) (hne : more ≠ []) :
    expressionStatement r tokens = .ok (.assign [target] value, .newline :: rest) := by
  obtain ⟨count, hcount⟩ : ∃ count, more.length = count + 1 :=
    ⟨more.length - 1, (Nat.succ_pred_eq_of_pos (List.length_pos_iff.mpr hne)).symm⟩
  have hchain : expressionStatement r tokens =
      chainWithin r (more.length + 1) [] target (.op "=" :: more) := by
    rw [expressionStatement, bind_of_ok h]
    rfl
  have hnext : nextIsOp "=" (.op "=" :: more) = .ok (true, .op "=" :: more) := rfl
  have hadvance : advance (.op "=" :: more) = .ok ((), more) := rfl
  rw [hchain, hcount, chainWithin, bind_of_ok hnext]
  simp only [ht, if_true, List.nil_append]
  rw [bind_of_ok hadvance, bind_of_ok hv]
  rfl

/-- A line that begins no statement with blocks. -/
theorem lineOf_of_simpleStatement {r : Readers} {tokens rest : List Token} {statement : Statement}
    (hl : lineOf r tokens = simpleLine r tokens)
    (h : simpleStatement r tokens = .ok (statement, .newline :: rest)) :
    lineOf r tokens = .ok ([statement], rest) := hl.trans (simpleLine_of_ok h)

/-- One line, unless the block or the text ends. -/
def nextLine (r : Readers) : Reader (Option (List Statement)) := do
  match ← peek with
  | .dedent | .finish => return none
  | _ => return some (← r.line)

/-- Tokens in front of which neither a block nor the text ends. -/
def BeginsLine (tokens : List Token) : Prop :=
  ∃ first more, tokens = first :: more ∧ first ≠ .dedent ∧ first ≠ .finish

/-- Such tokens begin a line. -/
theorem nextLine_eq {r : Readers} {tokens : List Token} (hb : BeginsLine tokens) :
    nextLine r tokens = (r.line >>= fun statements => pure (some statements)) tokens := by
  obtain ⟨first, more, rfl, hd, hf⟩ := hb
  have hpeek : peek (first :: more) = .ok (first, first :: more) := rfl
  rw [nextLine, bind_of_ok hpeek]
  split
  · exact absurd rfl hd
  · exact absurd rfl hf
  · rfl

/-- A line that is read. -/
theorem nextLine_of_ok {r : Readers} {tokens rest : List Token} (hb : BeginsLine tokens)
    {statements : List Statement} (h : r.line tokens = .ok (statements, rest)) :
    nextLine r tokens = .ok (some statements, rest) := (nextLine_eq hb).trans (bind_of_ok h)

/-- Lines up to the end of a block or of the text. -/
theorem linesOf_of_repeats {r : Readers} {tokens rest : List Token}
    {found : List (List Statement)} (h : Repeats (nextLine r) tokens found rest) :
    linesOf r tokens = .ok (found.flatten, rest) := bind_of_ok (many_of_repeats h)

/-- A block on lines of its own is read from its first line on. -/
theorem blockOf_indented (r : Readers) (tokens : List Token) :
    blockOf r (.op ":" :: .newline :: .indent :: tokens) =
      (do
        let first ← r.line
        let others ← linesOf r
        expect .dedent
        return first ++ others : Reader (List Statement)) tokens := by
  have hcolon : expectOp ":" (.op ":" :: .newline :: .indent :: tokens) =
      .ok ((), .newline :: .indent :: tokens) := rfl
  have hpeek : peek (.newline :: .indent :: tokens) =
      .ok (.newline, .newline :: .indent :: tokens) := rfl
  have hopen : openBlock (.newline :: .indent :: tokens) = .ok ((), tokens) := rfl
  rw [blockOf, bind_of_ok hcolon, bind_of_ok hpeek]
  simp only [BEq.rfl, if_true]
  rw [bind_of_ok hopen]

/-- A block of lines. -/
theorem blockOf_of_repeats {r : Readers} {tokens between rest : List Token}
    {first : List Statement} {others : List (List Statement)}
    (h : r.line tokens = .ok (first, between))
    (hr : Repeats (nextLine r) between others (.dedent :: rest)) :
    blockOf r (.op ":" :: .newline :: .indent :: tokens) = .ok (first ++ others.flatten, rest) := by
  rw [blockOf_indented, bind_of_ok h, bind_of_ok (linesOf_of_repeats hr)]
  rfl

/-- A block of one line. -/
theorem blockOf_line {r : Readers} {tokens rest : List Token} {body : List Statement}
    (h : r.line tokens = .ok (body, .dedent :: rest)) :
    blockOf r (.op ":" :: .newline :: .indent :: tokens) = .ok (body, rest) := by
  have hend : nextLine r (.dedent :: rest) = .ok (none, .dedent :: rest) := rfl
  rw [blockOf_of_repeats h (.stop hend), List.flatten_nil, List.append_nil]

/-- A pattern that is a literal text. -/
theorem casePattern_quotation {g : Grammar} {depth : Nat} {body : List Char} {points : List Nat}
    (h : (⟨[], body⟩ : Quotation).points = some points) (rest : List Token) :
    casePattern (patternWithin g (depth + 1)) (.quotation ⟨[], body⟩ :: .op ":" :: rest) =
      .ok (.value (.constant (.text points false)), .op ":" :: rest) := by
  have hliteral : patternLiteral g (.quotation ⟨[], body⟩ :: .op ":" :: rest) =
      .ok (some (.constant (.text points false)), .op ":" :: rest) := by
    have hpeek : peek (.quotation ⟨[], body⟩ :: .op ":" :: rest) =
        .ok (.quotation ⟨[], body⟩, .quotation ⟨[], body⟩ :: .op ":" :: rest) := rfl
    rw [patternLiteral, bind_of_ok hpeek]
    exact bind_of_ok (quotations_eq h rfl rest)
  have hclosed : closedPattern g (patternWithin g depth)
      (.quotation ⟨[], body⟩ :: .op ":" :: rest) =
      .ok (.value (.constant (.text points false)), .op ":" :: rest) := bind_of_ok hliteral
  have hpattern : patternOf g (patternWithin g depth) (.quotation ⟨[], body⟩ :: .op ":" :: rest) =
      .ok (.value (.constant (.text points false)), .op ":" :: rest) := bind_of_ok hclosed
  have hstar : acceptOp "*" (.quotation ⟨[], body⟩ :: .op ":" :: rest) =
      .ok (false, .quotation ⟨[], body⟩ :: .op ":" :: rest) := rfl
  have hitem : sequenceItem (patternWithin g (depth + 1))
      (.quotation ⟨[], body⟩ :: .op ":" :: rest) =
        .ok (.value (.constant (.text points false)), .op ":" :: rest) := by
    rw [sequenceItem, bind_of_ok hstar]
    exact hpattern
  rw [casePattern, bind_of_ok hitem]
  rfl

/-- A case without a condition. -/
theorem caseOf_of_ok {r : Readers} {pattern : Pattern} {body : List Statement}
    {tokens block rest : List Token}
    (hp : casePattern r.pattern tokens = .ok (pattern, .op ":" :: block))
    (hb : blockOf r (.op ":" :: block) = .ok (body, rest)) :
    caseOf r (.name "case".toList :: tokens) = .ok (some (.mk pattern none body), rest) := by
  have hpeek : peek (.name "case".toList :: tokens) =
      .ok (.name "case".toList, .name "case".toList :: tokens) := rfl
  have hadvance : advance (.name "case".toList :: tokens) = .ok ((), tokens) := rfl
  have hif : acceptWord "if" (.op ":" :: block) = .ok (false, .op ":" :: block) := rfl
  rw [caseOf, bind_of_ok hpeek]
  simp only [bne_self_eq_false, Bool.false_eq_true, if_false]
  rw [bind_of_ok hadvance, bind_of_ok hp, bind_of_ok hif]
  simp only [Bool.false_eq_true, if_false, pure_bind]
  rw [bind_of_ok hb]
  rfl

/-- The subject of a choice that is a name. -/
theorem subjectOf_name {depth : Nat} (text : List Char) (rest : List Token) :
    subjectOf (grammarWithin (depth + 1)) (.name text :: .op ":" :: rest) =
      .ok (.name (nameOf text), .op ":" :: rest) := rfl

/-- A choice by patterns over a name. -/
theorem matchStatement_of_ok {r : Readers} {depth : Nat}
    (hg : r.grammar = grammarWithin (depth + 1))
    {tokens rest : List Token} {cases : List Case} (hne : cases ≠ [])
    (hr : Repeats (caseOf r) tokens cases (.dedent :: rest)) (text : List Char) :
    matchStatement r
        (.name "match".toList :: .name text :: .op ":" :: .newline :: .indent :: tokens) =
      .ok (.match (.name (nameOf text)) cases, rest) := by
  have hmatch : expect (.name "match".toList)
      (.name "match".toList :: .name text :: .op ":" :: .newline :: .indent :: tokens) =
      .ok ((), .name text :: .op ":" :: .newline :: .indent :: tokens) := rfl
  have hcolon : expectOp ":" (.op ":" :: .newline :: .indent :: tokens) =
      .ok ((), .newline :: .indent :: tokens) := rfl
  have hopen : openBlock (.newline :: .indent :: tokens) = .ok ((), tokens) := rfl
  cases hr with
  | stop => exact absurd rfl hne
  | more hc _ hr =>
    rw [matchStatement, bind_of_ok hmatch, hg, bind_of_ok (subjectOf_name text _),
      bind_of_ok hcolon, bind_of_ok hopen, bind_of_ok hc]
    simp only
    rw [bind_of_ok (many_of_repeats hr)]
    rfl

/-- Where a choice by patterns can be read, it is. -/
theorem lineOf_of_matchStatement {r : Readers} {tokens rest : List Token} {s : Statement}
    (h : matchStatement r (.name "match".toList :: tokens) = .ok (s, rest)) :
    lineOf r (.name "match".toList :: tokens) = .ok ([s], rest) := by
  have hpeek : peek (.name "match".toList :: tokens) =
      .ok (.name "match".toList, .name "match".toList :: tokens) := rfl
  rw [lineOf, bind_of_ok hpeek]
  simp only [if_true]
  rw [orElse, bind_of_ok h]
  rfl

end KeyedAccess.Script
