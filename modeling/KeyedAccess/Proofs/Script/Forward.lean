import KeyedAccess.Proofs.Computation
import KeyedAccess.Script.Statement

/-!
# Readers take tokens from the front

Whatever a reader leaves behind is an end of the tokens that it was given: no reader puts a token
back or makes one up. This holds for the few readers that look at tokens themselves and is kept by
everything that readers are composed with, so it holds for the whole grammar. The instances follow
the readers one by one.
-/

namespace KeyedAccess.Script

variable {α β : Type}

/-- A reader that takes tokens from the front. -/
class Forward (r : Reader α) : Prop where
  /-- What it leaves is an end of what it was given. -/
  suffix : ∀ {tokens value rest}, r tokens = .ok (value, rest) → rest <:+ tokens

/-! ## Single tokens and combinations -/

instance (value : α) : Forward (pure value) where
  suffix := by
    intro tokens _ _ h
    cases h
    exact List.suffix_refl tokens

instance (cause : Cause) : Forward (refuse cause : Reader α) where
  suffix := by
    intro _ _ _ h
    cases h

/-- Where two readers in a row succeed, both do. -/
theorem exists_of_bind {first : Reader α} {next : α → Reader β} {tokens rest : List Token}
    {value : β} (h : (first >>= next) tokens = .ok (value, rest)) :
    ∃ found between, first tokens = .ok (found, between) ∧
      next found between = .ok (value, rest) := by
  change (first tokens >>= fun p => next p.1 p.2) = .ok (value, rest) at h
  obtain ⟨⟨found, between⟩, hfirst, hnext⟩ := bind_eq_ok_iff.mp h
  exact ⟨found, between, hfirst, hnext⟩

/-- What the second reader leaves is an end of what the first one leaves. -/
theorem Forward.bind {first : Reader α} {next : α → Reader β} (hf : Forward first)
    (hn : ∀ value, Forward (next value)) : Forward (first >>= next) where
  suffix := by
    intro tokens value rest h
    obtain ⟨found, between, hfirst, hnext⟩ := exists_of_bind h
    exact ((hn found).suffix hnext).trans (hf.suffix hfirst)

instance {first : Reader α} {next : α → Reader β} [hf : Forward first]
    [hn : ∀ value, Forward (next value)] : Forward (first >>= next) := hf.bind hn

instance {r : Reader α} (f : α → β) [Forward r] : Forward (f <$> r) :=
  inferInstanceAs (Forward (r >>= fun value => pure (f value)))

instance {r : Reader α} [Forward r] : Forward (discard r) :=
  inferInstanceAs (Forward ((fun _ => ()) <$> r))

/-- Either branch of a condition takes tokens from the front. -/
theorem Forward.ite {p : Prop} {_ : Decidable p} {first second : Reader α} (hf : Forward first)
    (hs : Forward second) : Forward (if p then first else second) := by
  split
  · exact hf
  · exact hs

instance {p : Prop} {_ : Decidable p} {first second : Reader α} [hf : Forward first]
    [hs : Forward second] : Forward (if p then first else second) := hf.ite hs

/-- A reader may depend on the tokens in front of which it stands. -/
theorem Forward.of_tokens {r : List Token → Reader α} (h : ∀ tokens, Forward (r tokens)) :
    Forward fun tokens => r tokens tokens where
  suffix := fun {tokens _ _} hr => (h tokens).suffix hr

/-- What one of two readers gives is given by the first or by the second of them. -/
theorem orElse_cases {first second : Reader α} {tokens rest : List Token} {value : α}
    (h : orElse first second tokens = .ok (value, rest)) :
    first tokens = .ok (value, rest) ∨ second tokens = .ok (value, rest) := by
  rw [orElse] at h
  cases hfirst : first tokens with
  | ok p =>
    rw [hfirst] at h
    exact Or.inl h
  | error a =>
    rw [hfirst] at h
    cases hsecond : second tokens with
    | ok p =>
      rw [hsecond] at h
      exact Or.inr h
    | error b =>
      rw [hsecond] at h
      cases h

instance {first second : Reader α} [hf : Forward first] [hs : Forward second] :
    Forward (orElse first second) where
  suffix := fun h => (orElse_cases h).elim hf.suffix hs.suffix

instance : Forward peek where
  suffix := by
    intro tokens _ _ h
    cases h
    exact List.suffix_refl tokens

instance : Forward advance where
  suffix := by
    intro tokens _ _ h
    cases h
    exact List.tail_suffix tokens

instance (t : Token) : Forward (accept t) where
  suffix := by
    intro tokens _ _ h
    cases tokens with
    | nil =>
      cases h
      exact List.suffix_refl []
    | cons next behind =>
      simp only [accept] at h
      split at h
      · cases h
        exact List.suffix_cons next _
      · cases h
        exact List.suffix_refl _

instance (t : Token) : Forward (expect t) := by
  dsimp only [expect]
  infer_instance

instance (op : String) : Forward (acceptOp op) := inferInstanceAs (Forward (accept _))

instance (op : String) : Forward (expectOp op) := inferInstanceAs (Forward (expect _))

instance (word : String) : Forward (acceptWord word) := inferInstanceAs (Forward (accept _))

instance (word : String) : Forward (expectWord word) := inferInstanceAs (Forward (expect _))

instance (op : String) : Forward (nextIsOp op) := by
  dsimp only [nextIsOp]
  infer_instance

instance (word : String) : Forward (nextIsWord word) := by
  dsimp only [nextIsWord]
  infer_instance

instance : Forward identifier :=
  .bind inferInstance fun next => by split <;> infer_instance

instance (op : String) : Forward (nextIsNameThen op) where
  suffix := by
    intro tokens _ _ h
    simp only [nextIsNameThen] at h
    split at h <;> cases h <;> exact List.suffix_refl _

section Repetitions

variable {step : Reader (Option α)} {item : Reader α}

instance (count : Nat) [hs : Forward step] : Forward (manyWithin step count) := by
  induction count with
  | zero => exact inferInstanceAs (Forward (pure []))
  | succ count ih => exact .bind hs fun first => by split <;> infer_instance

/-- A repetition takes tokens from the front if each round does. -/
theorem Forward.many (hs : Forward step) : Forward (many step) := by
  refine .bind hs fun first => ?_
  split
  · next value =>
    exact .of_tokens (r := fun tokens => do
      return value :: (← manyWithin step (tokens.length + 1))) fun tokens => inferInstance
  · infer_instance

instance [hs : Forward step] : Forward (many step) := hs.many

instance [Forward item] : Forward (commaSeparated item) := by
  dsimp only [commaSeparated]
  infer_instance

instance (close : String) [Forward item] : Forward (commaList close item) := by
  dsimp only [commaList]
  infer_instance

end Repetitions

/-! ## Expressions -/

section Expressions

-- the instances of long readers are long
set_option synthInstance.maxSize 4096

instance {item : Reader Expr} [Forward item] (begins : Token → Bool) :
    Forward (looseTuple item begins) := by
  dsimp only [looseTuple]
  infer_instance

instance {operand plain : Reader Expr} [Forward operand] [Forward plain] :
    Forward (starredOr operand plain) := by
  dsimp only [starredOr]
  infer_instance

instance : Forward nextIsClause := by
  dsimp only [nextIsClause]
  infer_instance

instance : Forward comparisonSign :=
  .bind inferInstance fun next => by
    split
    · split <;> infer_instance
    all_goals infer_instance

instance {operand : Reader Expr} [Forward operand] (ops : List (String × BinaryOp)) :
    Forward (leftChain ops operand) := by
  refine .bind inferInstance fun first => .bind (.many ?_) fun others => inferInstance
  refine .bind inferInstance fun next => ?_
  split
  · split <;> infer_instance
  · infer_instance

instance {operand : Reader Expr} [Forward operand] (word : String) (op : Connective) :
    Forward (connectedBy word op operand) := by
  dsimp only [connectedBy]
  infer_instance

instance (g : Grammar) : Forward (quotations g) := by
  refine .bind (.many (.bind inferInstance fun next => ?_)) fun found => ?_
  · split <;> infer_instance
  · split
    · split <;> infer_instance
    · infer_instance

variable {g : Grammar} [hg : ∀ rule, Forward (g rule)]

instance : Forward (expressionsOf g) := by
  dsimp only [expressionsOf]
  infer_instance

instance : Forward (namedExpression g) := by
  dsimp only [namedExpression]
  infer_instance

instance : Forward (displayItem g) := by
  dsimp only [displayItem]
  infer_instance

instance : Forward (yieldExpression g) := by
  dsimp only [yieldExpression]
  infer_instance

instance : Forward (targetsOf g) where
  suffix := by
    intro tokens value rest h
    simp only [targetsOf, bind, Except.bind, pure, Except.pure] at h
    split at h
    · cases h
    · next p hp =>
      split at h
      · cases h
        exact Forward.suffix hp
      · cases h

instance : Forward (forClauses g) := by
  dsimp only [forClauses]
  infer_instance

instance : Forward (parenthesis g) := by
  dsimp only [parenthesis]
  infer_instance

instance : Forward (bracket g) := by
  dsimp only [bracket]
  infer_instance

instance : Forward (dictEntry g) := by
  dsimp only [dictEntry]
  infer_instance

instance (first : Entry) : Forward (dictAfter g first) := by
  dsimp only [dictAfter]
  infer_instance

instance : Forward (brace g) := by
  dsimp only [brace]
  infer_instance

instance (soFar : ArgumentsSoFar) : Forward (argument g soFar) := by
  dsimp only [argument]
  infer_instance

instance (count : Nat) (soFar : ArgumentsSoFar) : Forward (argumentsWithin g count soFar) := by
  induction count generalizing soFar with
  | zero => exact inferInstanceAs (Forward (pure soFar))
  | succ count ih =>
    dsimp only [argumentsWithin]
    infer_instance

instance (soFar : ArgumentsSoFar) : Forward (furtherArguments g soFar) :=
  .of_tokens (r := fun tokens => do
    let read ← if ← acceptOp "," then argumentsWithin g tokens.length soFar else pure soFar
    expectOp ")"
    return read) fun _ => inferInstance

instance : Forward (argumentsOf g) := by
  dsimp only [argumentsOf]
  infer_instance

instance (function : Expr) : Forward (callAfter g function) := by
  refine .bind inferInstance fun empty => .ite inferInstance ?_
  refine .bind inferInstance fun first => .bind inferInstance fun clause => ?_
  split <;> infer_instance

instance : Forward (sliceItem g) := by
  dsimp only [sliceItem]
  infer_instance

instance : Forward (subscriptIndex g) := by
  dsimp only [subscriptIndex]
  infer_instance

instance (count : Nat) (value : Expr) : Forward (trailersWithin g count value) := by
  induction count generalizing value with
  | zero => exact inferInstanceAs (Forward (pure value))
  | succ count ih =>
    dsimp only [trailersWithin]
    infer_instance

instance : Forward (atom g) :=
  .bind inferInstance fun next => by split <;> infer_instance

instance : Forward (primary g) :=
  .bind inferInstance fun value =>
    .of_tokens (r := fun tokens => trailersWithin g tokens.length value) fun _ =>
      inferInstance

instance : Forward (powerOf g) := by
  dsimp only [powerOf]
  infer_instance

instance : Forward (factorOf g) := by
  refine .bind (.many (.bind inferInstance fun next => ?_)) fun signs => inferInstance
  split <;> infer_instance

/-- Every rank of operators is read over the operands of the rank before. -/
instance : Forward (operandOf g) :=
  List.foldlRecOn (motive := Forward) ranks _ inferInstance fun operand _ ops _ =>
    inferInstanceAs (Forward (leftChain ops operand))

instance : Forward (comparisonOf g) := by
  refine .bind inferInstance fun first => .bind (.many ?_) fun others => inferInstance
  exact .bind inferInstance fun sign => by split <;> infer_instance

instance : Forward (inversionOf g) := by
  dsimp only [inversionOf]
  infer_instance

instance : Forward (disjunctionOf g) := by
  dsimp only [disjunctionOf]
  infer_instance

instance (typed starred : Bool) : Forward (parameterType g typed starred) := by
  dsimp only [parameterType]
  infer_instance

instance (typed : Bool) (close : String) (count : Nat) (soFar : ParametersSoFar) :
    Forward (parametersWithin g typed close count soFar) := by
  induction count generalizing soFar with
  | zero => exact inferInstanceAs (Forward (pure soFar.parameters))
  | succ count ih =>
    rw [parametersWithin]
    extract_lets next
    have hnext : ∀ p, Forward (next p) := by
      intro p
      dsimp only [next]
      infer_instance
    clear_value next
    refine .bind inferInstance fun closes => .ite inferInstance ?_
    refine .bind inferInstance fun names => .ite inferInstance ?_
    exact .bind inferInstance fun star => .ite inferInstance inferInstance

instance (typed : Bool) (close : String) : Forward (parametersOf g typed close) :=
  .of_tokens
    (r := fun tokens =>
      parametersWithin g typed close (tokens.length + 1) ⟨[], false, false, false⟩)
    fun _ => inferInstance

instance : Forward (lambdaAfter g) := by
  dsimp only [lambdaAfter]
  infer_instance

instance : Forward (expressionOf g) := by
  dsimp only [expressionOf]
  infer_instance

instance (rule : Rule) : Forward (rule.read g) := by
  cases rule with
  | expression => exact inferInstanceAs (Forward (expressionOf g))
  | disjunction => exact inferInstanceAs (Forward (disjunctionOf g))
  | operand => exact inferInstanceAs (Forward (operandOf g))
  | factor => exact inferInstanceAs (Forward (factorOf g))

end Expressions

/-- Expressions are read forward, however deep they are nested. -/
instance (depth : Nat) (rule : Rule) : Forward (grammarWithin depth rule) := by
  induction depth generalizing rule with
  | zero => exact inferInstanceAs (Forward (refuse _))
  | succ depth ih => exact inferInstanceAs (Forward (rule.read (grammarWithin depth)))

/-! ## Patterns -/

section Patterns

set_option synthInstance.maxSize 4096

instance : Forward signedNumber := by
  refine .bind inferInstance fun negative => .bind inferInstance fun next => ?_
  split <;> infer_instance

instance : Forward patternNumber := by
  refine .bind inferInstance fun first => ?_
  refine .bind inferInstance fun plus => .bind inferInstance fun minus => ?_
  extract_lets sum
  have hsum : ∀ op, Forward (sum op) := by
    intro op
    cases op with
    | none => exact inferInstanceAs (Forward (pure first))
    | some op =>
      have hterm : Forward (do
          advance
          match ← peek with
          | .number (some (.imaginary x)) =>
            advance
            return Expr.binary first op (.constant (.imaginary x))
          | _ => refuse) :=
        .bind inferInstance fun _ => .bind inferInstance fun next => by split <;> infer_instance
      dsimp only [sum]
      infer_instance
  clear_value sum
  infer_instance

instance (g : Grammar) : Forward (patternLiteral g) :=
  .bind inferInstance fun next => by split <;> infer_instance

instance : Forward dottedName := by
  dsimp only [dottedName]
  infer_instance

instance : Forward nextIsWildcard := by
  dsimp only [nextIsWildcard]
  infer_instance

instance : Forward refuseLongerName := by
  dsimp only [refuseLongerName]
  infer_instance

instance : Forward captureTarget := by
  dsimp only [captureTarget]
  infer_instance

variable {pattern : Reader Pattern} [hp : Forward pattern]

instance : Forward (sequenceItem pattern) := by
  dsimp only [sequenceItem]
  infer_instance

instance : Forward (patternParenthesis pattern) := by
  dsimp only [patternParenthesis]
  infer_instance

instance (g : Grammar) (count : Nat) (soFar : MappingSoFar) :
    Forward (mappingWithin g pattern count soFar) := by
  induction count generalizing soFar with
  | zero => exact inferInstanceAs (Forward (pure soFar))
  | succ count ih =>
    refine .bind inferInstance fun closes => .ite inferInstance ?_
    refine .bind inferInstance fun rest => .ite inferInstance ?_
    exact .bind inferInstance fun literal => by split <;> infer_instance

instance (count : Nat) (plain : List Pattern) (named : List (String × Pattern)) :
    Forward (classArguments pattern count plain named) := by
  induction count generalizing plain named with
  | zero => exact inferInstanceAs (Forward (pure (plain, named)))
  | succ count ih =>
    dsimp only [classArguments]
    infer_instance

instance : Forward (namedPattern pattern) := by
  have harguments : Forward fun tokens => classArguments pattern tokens.length [] [] tokens :=
    .of_tokens (r := fun tokens => classArguments pattern tokens.length [] []) fun _ =>
      inferInstance
  refine .bind inferInstance fun wildcard => .ite inferInstance ?_
  refine .bind inferInstance fun name => .bind inferInstance fun called => .ite inferInstance ?_
  exact .bind inferInstance fun _ => by split <;> infer_instance

instance (g : Grammar) : Forward (closedPattern g pattern) := by
  have hmapping :
      Forward fun tokens => mappingWithin g pattern tokens.length ⟨[], [], none⟩ tokens :=
    .of_tokens (r := fun tokens => mappingWithin g pattern tokens.length ⟨[], [], none⟩) fun _ =>
      inferInstance
  refine .bind inferInstance fun literal => ?_
  cases literal with
  | some literal => exact inferInstanceAs (Forward (pure _))
  | none => exact .bind inferInstance fun next => by split <;> infer_instance

instance (g : Grammar) : Forward (patternOf g pattern) := by
  dsimp only [patternOf]
  infer_instance

instance : Forward (casePattern pattern) := by
  dsimp only [casePattern]
  infer_instance

end Patterns

/-- Patterns are read forward, however deep they are nested. -/
instance (g : Grammar) (depth : Nat) : Forward (patternWithin g depth) := by
  induction depth with
  | zero => exact inferInstanceAs (Forward (refuse _))
  | succ depth ih => exact inferInstanceAs (Forward (patternOf g (patternWithin g depth)))

/-! ## Statements -/

section Statements

set_option synthInstance.maxSize 4096

instance {item : Reader Expr} [Forward item] (check : Expr → Bool) :
    Forward (Readers.checked check item) := by
  dsimp only [Readers.checked]
  infer_instance

instance : Forward augmentation := by
  refine .bind inferInstance fun next => ?_
  split
  · split <;> infer_instance
  · infer_instance

instance {name : Reader String} [Forward name] : Forward (aliasOf name) := by
  dsimp only [aliasOf]
  infer_instance

instance : Forward modulePath := by
  dsimp only [modulePath]
  infer_instance

instance : Forward importedNames := by
  dsimp only [importedNames]
  infer_instance

instance : Forward importFromAfter := by
  dsimp only [importFromAfter]
  infer_instance

instance : Forward openBlock := by
  dsimp only [openBlock]
  infer_instance

instance {g : Grammar} [∀ rule, Forward (g rule)] : Forward (subjectOf g) := by
  dsimp only [subjectOf]
  infer_instance

variable {r : Readers} [hg : ∀ rule, Forward (r.grammar rule)] [hp : Forward r.pattern]
  [hl : Forward r.line]

instance : Forward r.expression := hg _

instance : Forward r.assigned := by
  dsimp only [Readers.assigned]
  infer_instance

instance (count : Nat) (targets : List Expr) (value : Expr) :
    Forward (chainWithin r count targets value) := by
  induction count generalizing targets value with
  | zero => exact inferInstanceAs (Forward (pure _))
  | succ count ih =>
    dsimp only [chainWithin]
    infer_instance

instance : Forward (expressionStatement r) := by
  refine .bind inferInstance fun value => .bind inferInstance fun typed => ?_
  refine .ite inferInstance (.bind inferInstance fun next => ?_)
  extract_lets chain augment
  have hchain : ∀ u, Forward (chain u) := fun _ =>
    .of_tokens (r := fun tokens => chainWithin r tokens.length [] value) fun _ => inferInstance
  clear_value chain
  have haugment : ∀ u, Forward (augment u) := fun _ =>
    .bind inferInstance fun op => by split <;> infer_instance
  clear_value augment
  infer_instance

instance : Forward (deletedTargets r) :=
  .bind inferInstance fun targets => by split <;> infer_instance

instance : Forward (simpleStatement r) :=
  .bind inferInstance fun next => by split <;> infer_instance

instance (count : Nat) : Forward (lineAfterWithin r count) := by
  induction count with
  | zero => exact inferInstanceAs (Forward (refuse _))
  | succ count ih =>
    dsimp only [lineAfterWithin]
    infer_instance

instance : Forward (simpleLine r) := by
  refine .bind inferInstance fun first => .bind ?_ fun others => inferInstance
  exact .of_tokens (r := fun tokens => lineAfterWithin r (tokens.length + 1)) fun _ => inferInstance

instance : Forward (linesOf r) := by
  refine .bind (.many (.bind inferInstance fun next => ?_)) fun found => inferInstance
  split <;> infer_instance

instance : Forward (blockOf r) := by
  dsimp only [blockOf]
  infer_instance

instance : Forward (elseBlock r) := by
  dsimp only [elseBlock]
  infer_instance

instance (count : Nat) : Forward (branches r count) := by
  induction count with
  | zero => exact inferInstanceAs (Forward (refuse _))
  | succ count ih =>
    dsimp only [branches]
    infer_instance

instance (isAsync : Bool) : Forward (forAfter r isAsync) := by
  dsimp only [forAfter]
  infer_instance

instance : Forward (withItem r) := by
  dsimp only [withItem]
  infer_instance

instance : Forward (withItems r) := by
  dsimp only [withItems]
  infer_instance

instance (isAsync : Bool) : Forward (withAfter r isAsync) := by
  dsimp only [withAfter]
  infer_instance

instance (kind : Option Bool) : Forward (handlerOf r kind) := by
  dsimp only [handlerOf]
  infer_instance

instance : Forward (tryAfter r) := by
  refine .bind inferInstance fun body => .bind inferInstance fun final => .ite inferInstance ?_
  exact .bind inferInstance fun first => by split <;> infer_instance

instance (decorators : List Expr) : Forward (classAfter r decorators) := by
  dsimp only [classAfter]
  infer_instance

instance (isAsync : Bool) (decorators : List Expr) :
    Forward (functionAfter r isAsync decorators) := by
  dsimp only [functionAfter]
  infer_instance

instance : Forward (decorated r) := by
  dsimp only [decorated]
  infer_instance

instance : Forward (asyncAfter r) := by
  dsimp only [asyncAfter]
  infer_instance

instance : Forward (caseOf r) := by
  dsimp only [caseOf]
  infer_instance

instance : Forward (matchStatement r) := by
  refine .bind inferInstance fun _ => .bind inferInstance fun subject => ?_
  refine .bind inferInstance fun _ => .bind inferInstance fun _ => ?_
  exact .bind inferInstance fun first => by split <;> infer_instance

instance : Forward (lineOf r) := by
  have hbranches : Forward fun tokens => branches r tokens.length tokens :=
    .of_tokens (r := fun tokens => branches r tokens.length) fun _ => inferInstance
  exact .bind inferInstance fun next => by split <;> infer_instance

end Statements

/-- Lines are read forward, however deep they are nested. -/
instance {grammar : Grammar} {pattern : Reader Pattern} [∀ rule, Forward (grammar rule)]
    [Forward pattern] (depth : Nat) : Forward (linesWithin grammar pattern depth) := by
  induction depth with
  | zero => exact inferInstanceAs (Forward (refuse _))
  | succ depth ih =>
    exact inferInstanceAs
      (Forward (lineOf ⟨grammar, pattern, linesWithin grammar pattern depth⟩))

instance (depth : Nat) (rule : Rule) : Forward ((readersWithin depth).grammar rule) :=
  inferInstanceAs (Forward (grammarWithin depth rule))

instance (depth : Nat) : Forward (readersWithin depth).pattern :=
  inferInstanceAs (Forward (patternWithin (grammarWithin depth) depth))

instance (depth : Nat) : Forward (readersWithin depth).line :=
  inferInstanceAs
    (Forward (linesWithin (grammarWithin depth) (patternWithin (grammarWithin depth) depth) depth))

end KeyedAccess.Script
