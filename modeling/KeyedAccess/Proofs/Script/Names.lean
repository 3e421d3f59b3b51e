import KeyedAccess.Proofs.Script.Forward

/-!
# The names in class sources

Only identifiers become names of tokens, and every name that a statement binds is the normal form of
the text of such a token. A class of names says which names a result of a reader is called by, and
the instances follow the readers one by one: if the tokens are named by identifiers, so are the
results.
-/

namespace KeyedAccess.Script

variable {α β : Type}

/-! ## Names among tokens -/

/-- Tokens whose names are identifiers. -/
def NamesIdentifiers (tokens : List Token) : Prop :=
  ∀ text, Token.name text ∈ tokens → Text.isIdentifier text = true

/-- The tokens that the lexer finds at one place. -/
def Scan.found : Scan → List Token
  | .go tokens _ _ => tokens
  | .stop tokens => tokens

theorem namesIdentifiers_scanEnd (s : Layout) : NamesIdentifiers (scanEnd s).found := by
  intro name h
  rw [scanEnd] at h
  split at h <;> simp [Scan.found] at h

theorem namesIdentifiers_scanQuotation (s : Layout) (letters text : List Char) :
    NamesIdentifiers (scanQuotation s letters text).found := by
  intro name h
  cases text with
  | nil => simp [scanQuotation, Scan.found] at h
  | cons quote rest =>
    simp only [scanQuotation] at h
    split at h <;> simp [Scan.found] at h

theorem namesIdentifiers_scanOperator (s : Layout) (text : List Char) :
    NamesIdentifiers (scanOperator s text).found := by
  intro name h
  rw [scanOperator] at h
  split at h
  · split at h <;> simp [Scan.found] at h
  · simp [Scan.found] at h

/-- A word is a name only if it is an identifier. -/
theorem namesIdentifiers_scanWord (s : Layout) (text : List Char) :
    NamesIdentifiers (scanWord s text).found := by
  intro name h
  rw [scanWord] at h
  split at h
  · exact namesIdentifiers_scanQuotation _ _ _ name h
  · split at h
    · simp [Scan.found] at h
    · split at h
      · next hi =>
        obtain rfl : name = text.takeWhile isWordChar := by simpa [Scan.found] using h
        exact hi
      · simp [Scan.found] at h

theorem namesIdentifiers_scanToken (s : Layout) (text : List Char) :
    NamesIdentifiers (scanToken s text).found := by
  intro name h
  rw [scanToken] at h
  split at h
  · exact namesIdentifiers_scanEnd s name h
  · simp [Scan.found] at h
  · simp only [Scan.found] at h
    split at h <;> simp at h
  · simp [Scan.found] at h
  · simp [Scan.found] at h
  · split at h
    · split at h <;> simp [Scan.found] at h
    · split at h
      · exact namesIdentifiers_scanQuotation _ _ _ name h
      · split at h
        · exact namesIdentifiers_scanWord _ _ name h
        · exact namesIdentifiers_scanOperator _ _ name h

private theorem not_mem_closeBlocks (column : Nat) (blocks : List (Nat × Nat)) (name : List Char) :
    Token.name name ∉ (closeBlocks column blocks).1 := by
  induction blocks with
  | nil => simp [closeBlocks]
  | cons block outer ih =>
    rw [closeBlocks]
    split
    · simpa using ih
    · simp

private theorem not_mem_placeLine {columns : Nat × Nat} {blocks after : List (Nat × Nat)}
    {tokens : List Token} (h : placeLine columns blocks = .ok (tokens, after)) (name : List Char) :
    Token.name name ∉ tokens := by
  have hclosed := not_mem_closeBlocks columns.1 blocks name
  simp only [placeLine] at h
  grind

theorem namesIdentifiers_scanLineStart (s : Layout) (text : List Char) :
    NamesIdentifiers (scanLineStart s text).found := by
  intro name h
  rw [scanLineStart] at h
  split at h
  · simp [Scan.found] at h
  · simp only at h
    split at h
    · exact namesIdentifiers_scanEnd s name h
    · simp [Scan.found] at h
    · split at h
      · split at h
        · next hp =>
          exact absurd h (not_mem_placeLine hp name)
        · simp [Scan.found] at h
      · simp [Scan.found] at h

/-- At the beginning of a line or within it, the lexer finds such tokens. -/
theorem namesIdentifiers_of_scan {s : Layout} {text : List Char} {scan : Scan}
    (h : (if _h : s.atLineStart = true then scanLineStart s text else scanToken s text) = scan) :
    NamesIdentifiers scan.found := by
  subst h
  split
  · exact namesIdentifiers_scanLineStart s text
  · exact namesIdentifiers_scanToken s text

theorem namesIdentifiers_tokensFrom (s : Layout) (text : List Char) :
    NamesIdentifiers (tokensFrom s text) := by
  fun_induction tokensFrom s text with
  | case1 s text tokens hscan => exact namesIdentifiers_of_scan hscan
  | case2 s text tokens next rest hscan _ ih =>
    intro name h
    rcases List.mem_append.mp h with h | h
    · exact namesIdentifiers_of_scan hscan name h
    · exact ih name h
  | case3 s text tokens next rest hscan =>
    intro name h
    rcases List.mem_append.mp h with h | h
    · exact namesIdentifiers_of_scan hscan name h
    · cases List.mem_singleton.mp h

/-- All tokens of a text are such tokens. -/
theorem namesIdentifiers_tokenize (text : List Char) : NamesIdentifiers (tokenize text) :=
  namesIdentifiers_tokensFrom .start (uniformLines text)

/-! ## What readers give -/

/-- A name that is the normal form of an identifier. -/
def IsName (n : String) : Prop := ∃ word, Text.isIdentifier word = true ∧ n = nameOf word

/-- Values that are called by names. -/
class HasNames (α : Type) where
  /-- The names of a value. -/
  names : α → List String

/-- A value whose names are normal forms of identifiers. -/
class Named [HasNames α] (value : α) : Prop where
  /-- Every name is one. -/
  isName : ∀ n ∈ HasNames.names value, IsName n

/-- A reader that gives such values where the tokens are named by identifiers. -/
class Gives [HasNames α] (r : Reader α) : Prop where
  /-- Every result is such a value. -/
  named : ∀ {tokens value rest}, NamesIdentifiers tokens → r tokens = .ok (value, rest) →
    Named value

section Names

variable [HasNames α]

instance : HasNames String where
  names n := [n]

instance : HasNames (Option α) where
  names found := found.toList.flatMap HasNames.names

instance : HasNames (List α) where
  names values := values.flatMap HasNames.names

/-- A list has the names of its elements. -/
theorem named_list_iff {values : List α} : Named values ↔ ∀ value ∈ values, Named value := by
  constructor
  · exact fun h value hv => ⟨fun n hn => h.isName n (List.mem_flatMap.mpr ⟨value, hv, hn⟩)⟩
  · intro h
    refine ⟨fun n hn => ?_⟩
    obtain ⟨value, hv, hn⟩ := List.mem_flatMap.mp hn
    exact (h value hv).isName n hn

instance : Named ([] : List α) := named_list_iff.mpr (List.forall_mem_nil _)

instance {first : α} {others : List α} [hf : Named first] [ho : Named others] :
    Named (first :: others) :=
  named_list_iff.mpr (List.forall_mem_cons.mpr ⟨hf, named_list_iff.mp ho⟩)

instance {front back : List α} [hf : Named front] [hb : Named back] : Named (front ++ back) :=
  named_list_iff.mpr (List.forall_mem_append.mpr ⟨named_list_iff.mp hf, named_list_iff.mp hb⟩)

instance {lists : List (List α)} [h : Named lists] : Named lists.flatten :=
  named_list_iff.mpr fun value hv => by
    obtain ⟨values, hvalues, hv⟩ := List.mem_flatten.mp hv
    exact named_list_iff.mp (named_list_iff.mp h values hvalues) value hv

instance : Named (none : Option α) where
  isName _ hn := absurd hn List.not_mem_nil

theorem named_some_iff {value : α} : Named (some value) ↔ Named value := by
  constructor <;> exact fun h => ⟨fun n hn => h.isName n (by simpa [HasNames.names] using hn)⟩

instance {value : α} [h : Named value] : Named (some value) := named_some_iff.mpr h

end Names

/-! ### Combinations -/

section Gives

variable [HasNames β]

/-- Where tokens are named by identifiers, so is every end of them. -/
theorem NamesIdentifiers.of_suffix {front tokens : List Token} (h : NamesIdentifiers tokens)
    (hs : front <:+ tokens) : NamesIdentifiers front :=
  fun text ht => h text (hs.subset ht)

instance (cause : Cause) : Gives (refuse cause : Reader β) where
  named := by
    intro _ _ _ _ h
    cases h

instance {value : β} [hv : Named value] : Gives (pure value : Reader β) where
  named := by
    intro _ _ _ _ h
    cases h
    exact hv

/-- The result is read by the second reader, whatever the first one gives. -/
theorem Gives.bind {first : Reader α} {next : α → Reader β} (hf : Forward first)
    (hn : ∀ value, Gives (next value)) : Gives (first >>= next) where
  named := by
    intro tokens value rest ht h
    obtain ⟨found, between, hfirst, hnext⟩ := exists_of_bind h
    exact (hn found).named (ht.of_suffix (hf.suffix hfirst)) hnext

/-- The second reader may rely on the names of what the first one gives. -/
theorem Gives.bindNamed [HasNames α] {first : Reader α} {next : α → Reader β} (hf : Forward first)
    (hg : Gives first) (hn : ∀ value, Named value → Gives (next value)) :
    Gives (first >>= next) where
  named := by
    intro tokens value rest ht h
    obtain ⟨found, between, hfirst, hnext⟩ := exists_of_bind h
    exact (hn found (hg.named ht hfirst)).named (ht.of_suffix (hf.suffix hfirst)) hnext

instance {first : Reader α} {next : α → Reader β} [hf : Forward first]
    [hn : ∀ value, Gives (next value)] : Gives (first >>= next) := .bind hf hn

/-- Either branch of a condition may be taken. -/
theorem Gives.ite {p : Prop} {_ : Decidable p} {first second : Reader β} (hf : Gives first)
    (hs : Gives second) : Gives (if p then first else second) := by
  split
  · exact hf
  · exact hs

instance {p : Prop} {_ : Decidable p} {first second : Reader β} [hf : Gives first]
    [hs : Gives second] : Gives (if p then first else second) := .ite hf hs

/-- The reader may depend on the tokens in front of which it stands. -/
theorem Gives.of_tokens {r : List Token → Reader β} (h : ∀ tokens, Gives (r tokens)) :
    Gives fun tokens => r tokens tokens where
  named := fun {tokens _ _} ht hr => (h tokens).named ht hr

instance {first second : Reader β} [hf : Gives first] [hs : Gives second] :
    Gives (orElse first second) where
  named := fun ht h => (orElse_cases h).elim (hf.named ht) (hs.named ht)

section Repetitions

variable {step : Reader (Option β)}

instance [hf : Forward step] [hs : Gives step] (count : Nat) : Gives (manyWithin step count) := by
  induction count with
  | zero => exact inferInstanceAs (Gives (pure []))
  | succ count ih =>
    refine .bindNamed hf hs fun found hfound => ?_
    split
    · have hvalue := named_some_iff.mp hfound
      exact .bindNamed inferInstance ih fun _ _ => inferInstance
    · infer_instance

/-- Each value of a repetition is read in one round. -/
theorem Gives.many (hf : Forward step) (hs : Gives step) : Gives (many step) := by
  refine .bindNamed hf hs fun found hfound => ?_
  split
  · next value =>
    have hvalue := named_some_iff.mp hfound
    exact .of_tokens (r := fun tokens => do
      return value :: (← manyWithin step (tokens.length + 1))) fun tokens =>
        .bindNamed inferInstance inferInstance fun _ _ => inferInstance
  · infer_instance

end Repetitions

instance {r : Reader α} {f : α → β} [hf : Forward r] [∀ value, Named (f value)] :
    Gives (f <$> r) :=
  inferInstanceAs (Gives (r >>= fun value => pure (f value)))

/-- A result that is kept as it is has the names that it was read with. -/
instance {r : Reader β} [hf : Forward r] [hr : Gives r] : Gives (do return some (← r)) :=
  .bindNamed hf hr fun _ _ => inferInstance

end Gives

/-! ### Expressions -/

/-- The name of a name, and of the object whose attribute is meant. -/
@[reducible]
def Expr.names : Expr → List String
  | .name n | .member (.name n) _ => [n]
  | _ => []

instance : HasNames Expr where
  names := Expr.names

/-- No names; an instance of it is found by looking at the kind of an expression or a statement. -/
class Nameless (names : List String) : Prop where
  /-- There are none. -/
  eq_nil : names = []

instance : Nameless [] where
  eq_nil := rfl

instance {e : Expr} [h : Nameless e.names] : Named e where
  isName n hn := by
    change n ∈ e.names at hn
    rw [h.eq_nil] at hn
    cases hn

instance {n : String} [h : Named n] : Named (Expr.name n) where
  isName := h.isName

instance {e : Expr} {attr : String} [h : Named e] : Named (Expr.member e attr) where
  isName n hn := by
    cases e with
    | name => exact h.isName n hn
    | _ => cases hn

/-- The name of a token. -/
instance : HasNames Token where
  names
    | .name text => [nameOf text]
    | _ => []

instance {text : List Char} [h : Named (Token.name text)] : Named (nameOf text) where
  isName := h.isName

instance : Gives peek where
  named := by
    intro tokens next _ ht h
    cases h
    cases tokens with
    | nil => exact ⟨fun n hn => absurd hn List.not_mem_nil⟩
    | cons first behind =>
      refine ⟨fun n hn => ?_⟩
      cases first with
      | name text =>
        exact ⟨text, ht text List.mem_cons_self, List.mem_singleton.mp hn⟩
      | _ => cases hn

instance : Gives identifier :=
  .bindNamed inferInstance inferInstance fun next hnext => by split <;> infer_instance

section Expressions

-- the instances of long readers are long
set_option synthInstance.maxSize 4096

instance {item : Reader Expr} [Forward item] [hi : Gives item] (begins : Token → Bool) :
    Gives (looseTuple item begins) :=
  .bindNamed inferInstance hi fun _ _ => inferInstance

instance {operand plain : Reader Expr} [Forward operand] [Forward plain] [Gives plain] :
    Gives (starredOr operand plain) := by
  dsimp only [starredOr]
  infer_instance

private theorem named_foldl {f : Expr → α → Expr} (hf : ∀ e step, Named (f e step)) {first : Expr}
    (h : Named first) (steps : List α) : Named (steps.foldl f first) := by
  induction steps generalizing first with
  | nil => exact h
  | cons step steps ih => exact ih (hf first step)

private theorem named_foldr {f : α → Expr → Expr} (hf : ∀ step e, Named (f step e)) {last : Expr}
    (h : Named last) (steps : List α) : Named (steps.foldr f last) := by
  cases steps with
  | nil => exact h
  | cons step steps => exact hf step _

instance {operand : Reader Expr} [Forward operand] [ho : Gives operand]
    (ops : List (String × BinaryOp)) : Gives (leftChain ops operand) := by
  refine .bindNamed inferInstance ho fun first hfirst => .bind (.many ?_) fun others => ?_
  · refine .bind inferInstance fun next => ?_
    split
    · split <;> infer_instance
    · infer_instance
  · have hchain := named_foldl (f := fun left next => .binary left next.1 next.2)
      (fun _ _ => inferInstance) hfirst others
    infer_instance

instance {operand : Reader Expr} [Forward operand] [ho : Gives operand] (word : String)
    (op : Connective) : Gives (connectedBy word op operand) :=
  .bindNamed inferInstance ho fun _ _ => inferInstance

/-- The value of literal texts has no name. -/
theorem named_of_quotationValue {g : Grammar} {first : Quotation} {others : List Quotation}
    {value : Expr} (h : quotationValue g first others = some value) : Named value := by
  simp only [quotationValue] at h
  split at h
  · split at h
    · obtain ⟨octets, -, h⟩ := Option.bind_eq_some_iff.mp h
      cases h
      infer_instance
    · cases h
  · obtain ⟨pieces, -, h⟩ := Option.bind_eq_some_iff.mp h
    split at h
    · obtain ⟨read, -, h⟩ := Option.bind_eq_some_iff.mp h
      cases h
      infer_instance
    · cases h
      infer_instance

instance (g : Grammar) : Gives (quotations g) := by
  refine .bind (.many (.bind inferInstance fun next => ?_)) fun found => ?_
  · split <;> infer_instance
  · split
    · split
      · next value hvalue =>
        have hnamed : Named value := named_of_quotationValue hvalue
        infer_instance
      · infer_instance
    · infer_instance

variable {g : Grammar} [hg : ∀ rule, Forward (g rule)] [hn : ∀ rule, Gives (g rule)]

instance : Gives (expressionsOf g) := by
  dsimp only [expressionsOf]
  infer_instance

instance : Gives (namedExpression g) := by
  dsimp only [namedExpression]
  infer_instance

instance : Gives (displayItem g) := by
  dsimp only [displayItem]
  infer_instance

omit hn in
instance : Gives (yieldExpression g) := by
  dsimp only [yieldExpression]
  infer_instance

instance : Gives (parenthesis g) := by
  refine .bind inferInstance fun empty => .ite inferInstance ?_
  refine .bind inferInstance fun yields => .ite ?_ ?_
  · exact .bindNamed inferInstance inferInstance fun _ _ => inferInstance
  · exact .bindNamed inferInstance inferInstance fun _ _ => inferInstance

omit hn in
instance : Gives (bracket g) := by
  dsimp only [bracket]
  infer_instance

omit hn in
instance (first : Entry) : Gives (dictAfter g first) := by
  dsimp only [dictAfter]
  infer_instance

omit hn in
instance : Gives (brace g) := by
  refine .bind inferInstance fun empty => .ite inferInstance ?_
  refine .bind inferInstance fun spread => .ite inferInstance ?_
  refine .bind inferInstance fun isNamed => .bind inferInstance fun first => ?_
  refine .bind inferInstance fun colon => .ite ?_ ?_
  · infer_instance
  · infer_instance

omit hn in
instance (function : Expr) : Gives (callAfter g function) := by
  refine .bind inferInstance fun empty => .ite inferInstance ?_
  refine .bind inferInstance fun first => .bind inferInstance fun clause => ?_
  split <;> infer_instance

instance (count : Nat) (value : Expr) [Named value] : Gives (trailersWithin g count value) := by
  induction count generalizing value with
  | zero => exact inferInstanceAs (Gives (pure value))
  | succ count ih =>
    refine .bind inferInstance fun dot => .ite (.bind inferInstance fun _ => inferInstance) ?_
    refine .bind inferInstance fun called => .ite ?_ inferInstance
    exact .bindNamed inferInstance inferInstance fun _ _ => inferInstance

instance : Gives (atom g) :=
  .bindNamed inferInstance inferInstance fun next hnext => by split <;> infer_instance

instance : Gives (primary g) :=
  .bindNamed inferInstance inferInstance fun value _ =>
    .of_tokens (r := fun tokens => trailersWithin g tokens.length value) fun _ =>
      inferInstance

instance : Gives (powerOf g) := by
  refine .bind inferInstance fun awaits => ?_
  extract_lets power
  have hforward : ∀ base, Forward (power base) := fun _ => by
    dsimp only [power]
    infer_instance
  have hpower : ∀ base, Named base → Gives (power base) := fun _ _ => by
    dsimp only [power]
    infer_instance
  exact .ite (.bindNamed inferInstance inferInstance hpower)
    (.bindNamed inferInstance inferInstance hpower)

instance : Gives (factorOf g) := by
  refine .bind (.many (.bind inferInstance fun next => ?_)) fun signs => ?_
  · split <;> infer_instance
  · refine .bindNamed inferInstance inferInstance fun value hvalue => ?_
    have hsigned := named_foldr (f := .unary) (fun _ _ => inferInstance) hvalue signs
    infer_instance

/-- Every rank of operators is read over the operands of the rank before. -/
instance : Gives (operandOf g) :=
  (List.foldlRecOn (motive := fun r : Reader Expr => Forward r ∧ Gives r) ranks _
    ⟨inferInstance, inferInstance⟩ fun operand h ops _ =>
      have _ := h.1
      have _ := h.2
      ⟨inferInstanceAs (Forward (leftChain ops operand)),
        inferInstanceAs (Gives (leftChain ops operand))⟩).2

instance : Gives (comparisonOf g) := by
  refine .bindNamed inferInstance inferInstance fun _ _ => .bind (.many ?_) fun _ => inferInstance
  exact .bind inferInstance fun sign => by split <;> infer_instance

instance : Gives (inversionOf g) := by
  refine .bind inferInstance fun negations => .bindNamed inferInstance inferInstance ?_
  intro value hvalue
  have hnegated := named_foldr (f := fun _ inner => .unary .not inner) (fun _ _ => inferInstance)
    hvalue negations
  infer_instance

instance : Gives (disjunctionOf g) := by
  dsimp only [disjunctionOf]
  infer_instance

omit hn in
instance : Gives (lambdaAfter g) := by
  dsimp only [lambdaAfter]
  infer_instance

instance : Gives (expressionOf g) := by
  refine .bind inferInstance fun word => .ite inferInstance ?_
  exact .bindNamed inferInstance inferInstance fun _ _ => inferInstance

instance (rule : Rule) : Gives (rule.read g) := by
  cases rule with
  | expression => exact inferInstanceAs (Gives (expressionOf g))
  | disjunction => exact inferInstanceAs (Gives (disjunctionOf g))
  | operand => exact inferInstanceAs (Gives (operandOf g))
  | factor => exact inferInstanceAs (Gives (factorOf g))

end Expressions

/-- Expressions have such names, however deep they are nested. -/
instance (depth : Nat) (rule : Rule) : Gives (grammarWithin depth rule) := by
  induction depth generalizing rule with
  | zero => exact inferInstanceAs (Gives (refuse _))
  | succ depth ih => exact inferInstanceAs (Gives (rule.read (grammarWithin depth)))

end KeyedAccess.Script
