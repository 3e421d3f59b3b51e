import KeyedAccess.Proofs.Script.Members
import KeyedAccess.Proofs.Script.Names
import KeyedAccess.Script.Parse
import Mathlib.Data.List.ReduceOption

/-!
# The names that statements bind

A class is named by an identifier, and so is whatever its body binds: targets with a type or a value
and functions. The instances follow the readers of statements. What a source declares is named by
them, so no name of a declaration has a character that no identifier has.

Main statement: all names of the declarations of a source are normal forms of identifiers.
-/

namespace KeyedAccess.Script

/-! ## Statements -/

/-- The names that a statement binds itself. For a function these are also the names in front of its
decorators, since a decorator may say which property the function assigns. -/
@[reducible]
def Statement.bound : Statement → List String
  | .declare target _ _ => HasNames.names target
  | .assign targets _ => HasNames.names targets
  | .function _ decorators name _ _ _ => name :: HasNames.names decorators
  | _ => []

/-- The names that a statement binds, for a class with those that its body binds. -/
@[reducible]
def Statement.names : Statement → List String
  | .class _ name _ _ body => name :: body.flatMap Statement.bound
  | s => s.bound

instance : HasNames Statement where
  names := Statement.names

instance {s : Statement} [h : Nameless s.names] : Named s where
  isName n hn := by
    change n ∈ s.names at hn
    rw [h.eq_nil] at hn
    cases hn

instance {target type : Expr} {value : Option Expr} [h : Named target] :
    Named (Statement.declare target type value) where
  isName := h.isName

instance {targets : List Expr} {value : Expr} [h : Named targets] :
    Named (Statement.assign targets value) where
  isName := h.isName

instance {isAsync : Bool} {decorators : List Expr} {name : String} {parameters : List Parameter}
    {result : Option Expr} {body : List Statement} [hn : Named name] [hd : Named decorators] :
    Named (Statement.function isAsync decorators name parameters result body) where
  isName := List.forall_mem_cons.mpr ⟨hn.isName name List.mem_cons_self, hd.isName⟩

/-- What a statement binds itself is among its names. -/
theorem Named.isName_of_mem_bound {s : Statement} (h : Named s) {n : String} (hn : n ∈ s.bound) :
    IsName n := by
  cases s with
  | «class» => cases hn
  | _ => exact h.isName n hn

instance {decorators bases : List Expr} {name : String} {named : List NamedArgument}
    {body : List Statement} [hn : Named name] [hb : Named body] :
    Named (Statement.class decorators name bases named body) where
  isName := by
    refine List.forall_mem_cons.mpr ⟨hn.isName name List.mem_cons_self, fun n hn => ?_⟩
    obtain ⟨s, hs, hn⟩ := List.mem_flatMap.mp hn
    exact (named_list_iff.mp hb s hs).isName_of_mem_bound hn

section Statements

-- the instances of long readers are long
set_option synthInstance.maxSize 4096

variable {r : Readers} [hg : ∀ rule, Forward (r.grammar rule)] [hp : Forward r.pattern]
  [hl : Forward r.line]

/-! ### Statements without names -/

instance : Gives importFromAfter := by
  dsimp only [importFromAfter]
  infer_instance

instance (count : Nat) : Gives (branches r count) := by
  induction count with
  | zero => exact inferInstanceAs (Gives (refuse _))
  | succ count ih =>
    dsimp only [branches]
    infer_instance

instance (isAsync : Bool) : Gives (forAfter r isAsync) := by
  dsimp only [forAfter]
  infer_instance

instance (isAsync : Bool) : Gives (withAfter r isAsync) := by
  dsimp only [withAfter]
  infer_instance

instance : Gives (tryAfter r) := by
  refine .bind inferInstance fun body => .bind inferInstance fun final => .ite inferInstance ?_
  exact .bind inferInstance fun first => by split <;> infer_instance

instance : Gives (matchStatement r) := by
  refine .bind inferInstance fun _ => .bind inferInstance fun subject => ?_
  refine .bind inferInstance fun _ => .bind inferInstance fun _ => ?_
  exact .bind inferInstance fun first => by split <;> infer_instance

/-! ### Targets and functions -/

variable [hn : ∀ rule, Gives (r.grammar rule)]

omit hp hl in
instance : Gives r.assigned := by
  dsimp only [Readers.assigned]
  infer_instance

omit hp hl in
instance (count : Nat) (targets : List Expr) (value : Expr) [Named targets] [Named value] :
    Gives (chainWithin r count targets value) := by
  induction count generalizing targets value with
  | zero => exact inferInstanceAs (Gives (pure _))
  | succ count ih =>
    have hnext : Gives (do chainWithin r count (targets ++ [value]) (← r.assigned)) :=
      .bindNamed inferInstance inferInstance fun next _ => ih (targets ++ [value]) next
    dsimp only [chainWithin]
    infer_instance

omit hp hl in
instance : Gives (expressionStatement r) := by
  refine .bindNamed inferInstance inferInstance fun value hvalue => ?_
  refine .bind inferInstance fun typed => .ite inferInstance (.bind inferInstance fun next => ?_)
  extract_lets chain augment
  have hchain : ∀ u, Gives (chain u) := fun _ =>
    .of_tokens (r := fun tokens => chainWithin r tokens.length [] value) fun _ => inferInstance
  clear_value chain
  have haugment : ∀ u, Gives (augment u) := fun _ =>
    .bind inferInstance fun op => by split <;> infer_instance
  clear_value augment
  infer_instance

instance : Gives (simpleStatement r) :=
  .bind inferInstance fun next => by split <;> infer_instance

instance (isAsync : Bool) (decorators : List Expr) [Named decorators] :
    Gives (functionAfter r isAsync decorators) :=
  .bindNamed inferInstance inferInstance fun _ _ => inferInstance

instance : Gives (asyncAfter r) := by
  dsimp only [asyncAfter]
  infer_instance

/-! ### Lines and classes -/

instance (count : Nat) : Gives (lineAfterWithin r count) := by
  induction count with
  | zero => exact inferInstanceAs (Gives (refuse _))
  | succ count ih =>
    refine .bind inferInstance fun more => .ite (.bind inferInstance fun ended => ?_) inferInstance
    refine .ite inferInstance (.bindNamed inferInstance inferInstance fun _ _ => ?_)
    exact .bindNamed inferInstance inferInstance fun _ _ => inferInstance

instance : Gives (simpleLine r) := by
  refine .bindNamed inferInstance inferInstance fun _ _ => .bindNamed ?_ ?_ fun _ _ => inferInstance
  · exact .of_tokens (r := fun tokens => lineAfterWithin r (tokens.length + 1)) fun _ =>
      inferInstance
  · exact .of_tokens (r := fun tokens => lineAfterWithin r (tokens.length + 1)) fun _ =>
      inferInstance

variable [hs : Gives r.line]

instance : Gives (linesOf r) := by
  have hforward : Forward (do
      match ← peek with
      | .dedent | .finish => return none
      | _ => return some (← r.line)) :=
    .bind inferInstance fun next => by split <;> infer_instance
  refine .bindNamed (.many hforward) (.many hforward ?_) fun _ _ => inferInstance
  exact .bind inferInstance fun next => by split <;> infer_instance

instance : Gives (blockOf r) := by
  refine .bind inferInstance fun _ => .bind inferInstance fun next => .ite ?_ inferInstance
  refine .bind inferInstance fun _ => .bindNamed inferInstance inferInstance fun _ _ => ?_
  exact .bindNamed inferInstance inferInstance fun _ _ => inferInstance

instance (decorators : List Expr) : Gives (classAfter r decorators) := by
  refine .bindNamed inferInstance inferInstance fun name hname => .bind inferInstance fun call => ?_
  -- with and without arguments the block comes last
  extract_lets finish
  have hfinish : ∀ arguments, Gives (finish arguments) := fun _ =>
    .bindNamed inferInstance inferInstance fun _ _ => inferInstance
  clear_value finish
  infer_instance

instance : Gives (decorated r) := by
  have hforward : Forward (do
      if ← acceptOp "@" then
        let decorator ← namedExpression r.grammar
        expect .newline
        return some decorator
      else return none) := inferInstance
  refine .bindNamed (.many hforward) (.many hforward ?_) fun _ _ => inferInstance
  refine .bind inferInstance fun mark => .ite ?_ inferInstance
  exact .bindNamed inferInstance inferInstance fun _ _ => inferInstance

/-- One statement alone. -/
instance {first : Reader Statement} [hn : Gives first] : Gives (do return [← first]) where
  named := by
    intro tokens statements rest ht h
    obtain ⟨s, between, hfirst, h⟩ := exists_of_bind h
    cases h
    have hs := hn.named ht hfirst
    infer_instance

instance : Gives (lineOf r) := by
  have hbranches : Gives fun tokens => branches r tokens.length tokens :=
    .of_tokens (r := fun tokens => branches r tokens.length) fun _ => inferInstance
  exact .bind inferInstance fun next => by split <;> infer_instance

end Statements

/-- Lines bind such names, however deep they are nested. -/
instance {grammar : Grammar} {pattern : Reader Pattern} [∀ rule, Forward (grammar rule)]
    [∀ rule, Gives (grammar rule)] [Forward pattern] (depth : Nat) :
    Gives (linesWithin grammar pattern depth) := by
  induction depth with
  | zero => exact inferInstanceAs (Gives (refuse _))
  | succ depth ih =>
    exact inferInstanceAs (Gives (lineOf ⟨grammar, pattern, linesWithin grammar pattern depth⟩))

instance (depth : Nat) : Gives (readersWithin depth).line :=
  inferInstanceAs
    (Gives (linesWithin (grammarWithin depth) (patternWithin (grammarWithin depth) depth) depth))

instance (depth : Nat) (rule : Rule) : Gives ((readersWithin depth).grammar rule) :=
  inferInstanceAs (Gives (grammarWithin depth rule))

/-! ## Modules -/

/-- All names of a module that is read are such names. -/
theorem named_of_readModule {text : List Char} {statements : List Statement}
    (h : readModule text = .ok statements) : Named statements := by
  rw [readModule] at h
  split at h
  · cases h
  · split at h
    · next body rest hmodule =>
      cases h
      obtain ⟨lines, between, hlines, hmodule⟩ := exists_of_bind hmodule
      obtain ⟨_, behind, -, hmodule⟩ := exists_of_bind hmodule
      cases hmodule
      have hgives : Gives (linesOf (readersWithin (text.length + 2))) := inferInstance
      exact hgives.named (namesIdentifiers_tokenize text) hlines
    · cases h

/-- Every class of a source that is parsed stands in it as a statement. -/
theorem exists_declaration_of_parse {text : String} {module : Option String}
    {out : List Declaration} (h : parse text module = .ok out) {d : Declaration} (hd : d ∈ out) :
    ∃ statements, readModule text.toList = .ok statements ∧
      ∃ s ∈ statements, s.declaration module = .ok (some d) := by
  rw [parse] at h
  split at h
  · cases h
  · next statements hread =>
    refine ⟨statements, hread, ?_⟩
    cases hmeaning : meaning module statements with
    | error e =>
      rw [hmeaning] at h
      cases h
    | ok found =>
      rw [hmeaning] at h
      cases h
      obtain ⟨_, hm, ⟨⟩⟩ := bind_eq_ok_iff.mp hmeaning
      exact exists_of_mapM hm (List.reduceOption_mem_iff.mp hd)

/-! ## Declarations -/

/-- The name that a contribution is about. -/
instance : HasNames Contribution where
  names
    | .defines m | .adds m => [m.name]
    | .writes name => [name]

/-- What a statement contributes is about names that it binds. -/
theorem Contributes.named {frozen : Bool} {s : Statement} {contributions : List Contribution}
    (h : Contributes frozen s contributions) (hs : ∀ n ∈ s.bound, IsName n) :
    Named contributions := by
  refine ⟨fun n hn => hs n ?_⟩
  obtain ⟨c, hc, hn⟩ := List.mem_flatMap.mp hn
  cases h with
  | declared value hdeclared =>
    obtain rfl := List.mem_singleton.mp hc
    obtain rfl := List.mem_singleton.mp hn
    rcases declaredMember_cases hdeclared with
      ⟨-, _, -, rfl⟩ | ⟨_, -, _, -, rfl⟩ | ⟨_, _, -, -, _, -, rfl⟩ <;> exact List.mem_cons_self
  | assigned targets value =>
    obtain ⟨name, hname, rfl⟩ := List.mem_map.mp hc
    obtain rfl := List.mem_singleton.mp hn
    exact List.mem_flatMap.mpr ⟨_, mem_targetNames.mp hname, List.mem_cons_self⟩
  | function | read =>
    obtain rfl := List.mem_singleton.mp hc
    obtain rfl := List.mem_singleton.mp hn
    exact List.mem_cons_self
  | @writes decorators name parameters result body property hrole =>
    obtain rfl := List.mem_singleton.mp hc
    obtain rfl := List.mem_singleton.mp hn
    obtain ⟨before, mark, after, rfl, hmark, -⟩ := hrole
    cases hmark
    -- the name stands in front of the decorator that makes the function a setter
    have hmem : Expr.member (.name n) "setter" ∈ before ++ .member (.name n) "setter" :: after :=
      List.mem_append_right before List.mem_cons_self
    exact List.mem_cons_of_mem _ (List.mem_flatMap.mpr ⟨_, hmem, List.mem_cons_self⟩)
  | other | rest => cases hc

private theorem named_of_forall₂ {frozen : Bool} {body : List Statement}
    {collected : List (List Contribution)} (h : List.Forall₂ (Contributes frozen) body collected)
    (hbody : ∀ n ∈ body.flatMap Statement.bound, IsName n) : Named collected := by
  induction h with
  | nil => infer_instance
  | cons hfirst _ ih =>
    rw [List.flatMap_cons] at hbody
    obtain ⟨hbound, hrest⟩ := List.forall_mem_append.mp hbody
    have hcontributions := hfirst.named hbound
    have hothers := ih hrest
    infer_instance

private theorem isName_of_mem_contribute {slots : List Slot}
    (hslots : ∀ s ∈ slots, IsName s.member.name)
    {c : Contribution} (hc : Named c) : ∀ s ∈ contribute slots c, IsName s.member.name := by
  have hupdate : ∀ (name : String) (change : Member → Member),
      (∀ m, IsName m.name → IsName (change m).name) →
      ∀ s ∈ slots.map (·.update name change), IsName s.member.name := by
    intro name change hchange s hs
    obtain ⟨old, hold, rfl⟩ := List.mem_map.mp hs
    rw [Slot.update]
    split
    · exact hchange old.member (hslots old hold)
    · exact hslots old hold
  cases c with
  | defines m =>
    have hm : IsName m.name := hc.isName m.name List.mem_cons_self
    rw [contribute]
    split
    · exact hupdate m.name (fun _ => m) fun _ _ => hm
    · exact List.forall_mem_append.mpr ⟨hslots, List.forall_mem_singleton.mpr hm⟩
  | adds m =>
    have hm : IsName m.name := hc.isName m.name List.mem_cons_self
    exact List.forall_mem_append.mpr ⟨hslots, List.forall_mem_singleton.mpr hm⟩
  | writes name => exact hupdate name assignable fun _ hm => hm

private theorem isName_of_mem_foldl {contributions : List Contribution} (h : Named contributions) :
    ∀ s ∈ contributions.foldl contribute [], IsName s.member.name :=
  List.foldlRecOn (motive := fun slots => ∀ s ∈ slots, IsName s.member.name) contributions
    contribute (List.forall_mem_nil _)
    fun _ hslots _ hc => isName_of_mem_contribute hslots (named_list_iff.mp h _ hc)

/-- Every class of a source that is parsed is a statement whose name, and whatever its body
contributes to the members, are about such names. -/
theorem named_of_parse {text : String} {module : Option String} {declarations : List Declaration}
    (h : parse text module = .ok declarations) {d : Declaration} (hd : d ∈ declarations) :
    IsName d.identifier ∧ ∃ decorators bases named body collected,
      (Statement.class decorators d.identifier bases named body).declaration module =
        .ok (some d) ∧
      body.mapM (Statement.contributions (decorators.any Expr.freezes)) = .ok collected ∧
      d.members = (collected.flatten.foldl contribute []).map (·.member) ∧ Named collected := by
  obtain ⟨statements, hread, s, hs, hdeclaration⟩ := exists_declaration_of_parse h hd
  have hnamed := named_list_iff.mp (named_of_readModule hread) s hs
  cases s with
  | «class» decorators name bases named body =>
    obtain ⟨collected, texts, hmapped, -, hd⟩ := declaration_eq_ok_iff.mp hdeclaration
    obtain ⟨hname, hbody⟩ := List.forall_mem_cons.mp hnamed.isName
    have hidentifier : d.identifier = name := by rw [hd]
    rw [hidentifier]
    refine ⟨hname, decorators, bases, named, body, collected, hdeclaration, hmapped, ?_,
      named_of_forall₂ (contributes_of_mapM hmapped) hbody⟩
    rw [hd]
  | _ => cases hdeclaration

/-- The name of every class of a source that is parsed, and the names of its members, are normal
forms of identifiers. -/
theorem isName_of_parse {text : String} {module : Option String} {declarations : List Declaration}
    (h : parse text module = .ok declarations) {d : Declaration} (hd : d ∈ declarations) :
    IsName d.identifier ∧ ∀ m ∈ d.members, IsName m.name := by
  obtain ⟨hname, _, _, _, _, collected, -, -, hmembers, hnamed⟩ := named_of_parse h hd
  refine ⟨hname, fun m hm => ?_⟩
  rw [hmembers] at hm
  obtain ⟨slot, hslot, rfl⟩ := List.mem_map.mp hm
  exact isName_of_mem_foldl inferInstance slot hslot

end KeyedAccess.Script
