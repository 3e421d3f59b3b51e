import KeyedAccess.Proofs.Computation
import KeyedAccess.Script.Meaning

/-!
# Statements in the body of a class

What a statement defines, what it assigns, and what it adds to the members of its class. A function
is what its first decorator that makes an accessor says, and a qualifier around a type says whether
a variable is a property at all.
-/

namespace KeyedAccess.Script

/-! ## What statements do for a name -/

/-- A decorator that makes a function an accessor of a property. -/
inductive AccessorMark : Expr → Role → Prop where
  /-- It reads the property of its own name. -/
  | property : AccessorMark (.name "property") .reads
  /-- It assigns the property of a name. -/
  | setter (id : String) : AccessorMark (.member (.name id) "setter") (.writes id)
  /-- It reads the property of a name in another way. -/
  | getter (id : String) : AccessorMark (.member (.name id) "getter") .other
  /-- It deletes the property of a name. -/
  | deleter (id : String) : AccessorMark (.member (.name id) "deleter") .other

/-- The first decorator that makes an accessor gives this role. -/
def FirstMark (decorators : List Expr) (r : Role) : Prop :=
  ∃ before mark after, decorators = before ++ mark :: after ∧ AccessorMark mark r ∧
    ∀ earlier ∈ before, ∀ role, ¬ AccessorMark earlier role

/-- A statement defines a name. -/
inductive Defines (n : String) : Statement → Prop where
  /-- It gives the name a type. -/
  | declared (type : Expr) (value : Option Expr) : Defines n (.declare (.name n) type value)
  /-- It gives the name a value. -/
  | assigned {targets : List Expr} (value : Expr) (h : .name n ∈ targets) :
      Defines n (.assign targets value)
  /-- It is the function that reads the property of the name. -/
  | read {decorators : List Expr} (parameters : List Parameter) (result : Option Expr)
      (body : List Statement) (h : FirstMark decorators .reads) :
      Defines n (.function false decorators n parameters result body)

/-- A statement is a function that assigns the property of a name. -/
inductive WritesTo (n : String) : Statement → Prop where
  /-- The name of the function itself is of no account. -/
  | mk {decorators : List Expr} (name : String) (parameters : List Parameter)
      (result : Option Expr) (body : List Statement) (h : FirstMark decorators (.writes n)) :
      WritesTo n (.function false decorators name parameters result body)

/-- A statement that makes a name a property, with the type that it gives, if any, and whether the
property can be assigned unless the objects of the class never change. -/
inductive MakesProperty (n : String) : Statement → Option Expr → Bool → Prop where
  /-- A type without a qualifier. -/
  | plain {type : Expr} (value : Option Expr) (h : type.qualified = none) :
      MakesProperty n (.declare (.name n) type value) (some type) true
  /-- A type that says that the property never changes. -/
  | final {type : Expr} {inner : Option Expr} (value : Option Expr)
      (h : type.qualified = some (.final, inner)) :
      MakesProperty n (.declare (.name n) type value) inner false
  /-- The function that reads the property. -/
  | read {decorators : List Expr} (parameters : List Parameter) (result : Option Expr)
      (body : List Statement) (h : FirstMark decorators .reads) :
      MakesProperty n (.function false decorators n parameters result body) result false

/-- The last statement of a body that defines a name, and what comes after it. -/
def LastDefinition (n : String) (body : List Statement) (s : Statement) (after : List Statement) :
    Prop :=
  (∃ before, body = before ++ s :: after) ∧ Defines n s ∧ ∀ later ∈ after, ¬ Defines n later

/-- A decorator has a role exactly if it makes an accessor. -/
theorem role_eq_some_iff {e : Expr} {r : Role} : e.role = some r ↔ AccessorMark e r := by
  constructor
  · intro h
    unfold Expr.role at h
    split at h
    · cases h
      exact .property
    · cases h
      exact .setter _
    · cases h
      exact .getter _
    · cases h
      exact .deleter _
    · cases h
  · rintro (_ | _ | _ | _) <;> rfl

/-- The role of a function is that of the first decorator that makes an accessor. -/
theorem findSome?_role_eq_some_iff {decorators : List Expr} {r : Role} :
    decorators.findSome? Expr.role = some r ↔ FirstMark decorators r := by
  have hnone : ∀ e : Expr, e.role = none ↔ ∀ role, ¬ AccessorMark e role := by
    intro e
    simp only [← role_eq_some_iff, Option.eq_none_iff_forall_ne_some, ne_eq]
  rw [List.findSome?_eq_some_iff, FirstMark]
  simp only [role_eq_some_iff, hnone]

/-- The plain names among targets. -/
@[simp] theorem mem_targetNames {n : String} {targets : List Expr} :
    n ∈ targetNames targets ↔ .name n ∈ targets := by
  rw [targetNames, List.mem_filterMap]
  constructor
  · rintro ⟨target, hmem, h⟩
    split at h
    · cases h
      exact hmem
    · cases h
  · intro h
    exact ⟨_, h, rfl⟩

/-! ## From statements to members -/

/-- What a statement adds to the members of a class, case by case. -/
inductive Contributes (frozen : Bool) : Statement → List Contribution → Prop where
  /-- A name with a type. -/
  | declared {id : String} {type : Expr} (value : Option Expr) {m : Member}
      (h : declaredMember frozen id type = .ok m) :
      Contributes frozen (.declare (.name id) type value) [.defines m]
  /-- Names with a value. -/
  | assigned (targets : List Expr) (value : Expr) :
      Contributes frozen (.assign targets value)
        ((targetNames targets).map fun name => .defines (variableMember name unknownType))
  /-- A function that is no accessor. -/
  | function {isAsync : Bool} {decorators : List Expr} (name : String)
      (parameters : List Parameter) {result : Option Expr} (body : List Statement) {text : String}
      (hrole : isAsync = true ∨ ∀ r, ¬ FirstMark decorators r) (ht : typeText result = .ok text) :
      Contributes frozen (.function isAsync decorators name parameters result body)
        [.adds (functionMember name text)]
  /-- A function that reads the property of its name. -/
  | read {decorators : List Expr} (name : String) (parameters : List Parameter)
      {result : Option Expr} (body : List Statement) {text : String}
      (hrole : FirstMark decorators .reads) (ht : typeText result = .ok text) :
      Contributes frozen (.function false decorators name parameters result body)
        [.defines (readMember name text)]
  /-- A function that assigns a property. -/
  | writes {decorators : List Expr} (name : String) (parameters : List Parameter)
      (result : Option Expr) (body : List Statement) {property : String}
      (hrole : FirstMark decorators (.writes property)) :
      Contributes frozen (.function false decorators name parameters result body)
        [.writes property]
  /-- Another accessor. -/
  | other {decorators : List Expr} (name : String) (parameters : List Parameter)
      (result : Option Expr) (body : List Statement) (hrole : FirstMark decorators .other) :
      Contributes frozen (.function false decorators name parameters result body) []
  /-- Any other statement. -/
  | rest {s : Statement} (h : ∀ n, ¬ Defines n s ∧ ¬ WritesTo n s) : Contributes frozen s []

variable {frozen : Bool}

/-- The role of a function that does not wait is that of its decorators; the others have none. -/
theorem role_of_function {isAsync : Bool} {decorators : List Expr} {r : Role} :
    (if isAsync then none else decorators.findSome? Expr.role) = some r ↔
      isAsync = false ∧ FirstMark decorators r := by
  cases isAsync with
  | true => simp
  | false => simp [findSome?_role_eq_some_iff]

/-- A function without a role waits, or none of its decorators makes an accessor. -/
theorem no_role_of_function {isAsync : Bool} {decorators : List Expr} :
    (if isAsync then none else decorators.findSome? Expr.role) = none ↔
      isAsync = true ∨ ∀ r, ¬ FirstMark decorators r := by
  rw [Option.eq_none_iff_forall_ne_some]
  simp only [ne_eq, role_of_function]
  cases isAsync <;> simp

/-- A statement adds what its case says. -/
theorem contributes_of_eq_ok {s : Statement} {contributions : List Contribution}
    (h : s.contributions frozen = .ok contributions) : Contributes frozen s contributions := by
  cases s with
  | declare target type value =>
    cases target with
    | name id =>
      obtain ⟨m, hm, ⟨⟩⟩ := bind_eq_ok_iff.mp h
      exact .declared value hm
    | _ =>
      cases h
      exact .rest fun n => ⟨nofun, nofun⟩
  | assign targets value =>
    cases h
    exact .assigned targets value
  | function isAsync decorators name parameters result body =>
    simp only [Statement.contributions] at h
    split at h
    next hrole =>
      obtain ⟨text, ht, ⟨⟩⟩ := bind_eq_ok_iff.mp h
      exact .function name parameters body (no_role_of_function.mp hrole) ht
    next hrole =>
      obtain ⟨rfl, hmark⟩ := role_of_function.mp hrole
      obtain ⟨text, ht, ⟨⟩⟩ := bind_eq_ok_iff.mp h
      exact .read name parameters body hmark ht
    next hrole =>
      obtain ⟨rfl, hmark⟩ := role_of_function.mp hrole
      cases h
      exact .writes name parameters result body hmark
    next hrole =>
      obtain ⟨rfl, hmark⟩ := role_of_function.mp hrole
      cases h
      exact .other name parameters result body hmark
  | _ =>
    cases h
    exact .rest fun n => ⟨nofun, nofun⟩

variable {s : Statement} {contributions : List Contribution}

/-- The decorators of a function give it one role at most. -/
theorem FirstMark.unique {decorators : List Expr} {r r' : Role} (h : FirstMark decorators r)
    (h' : FirstMark decorators r') : r = r' :=
  Option.some.inj ((findSome?_role_eq_some_iff.mpr h).symm.trans
    (findSome?_role_eq_some_iff.mpr h'))

/-- A declaration of a name adds the member that is declared. -/
theorem Contributes.of_declare {id : String} {type : Expr} {value : Option Expr}
    (h : Contributes frozen (.declare (.name id) type value) contributions) :
    ∃ m, declaredMember frozen id type = .ok m ∧ contributions = [.defines m] := by
  cases h with
  | declared value hm => exact ⟨_, hm, rfl⟩
  | rest hrest => exact absurd (.declared type value) (hrest id).1

/-- An assignment adds a variable for each of its names. -/
theorem Contributes.of_assign {targets : List Expr} {value : Expr}
    (h : Contributes frozen (.assign targets value) contributions) :
    contributions =
      (targetNames targets).map fun name => .defines (variableMember name unknownType) := by
  cases h with
  | assigned => rfl
  | rest hrest =>
    have hnone : targetNames targets = [] := List.eq_nil_iff_forall_not_mem.mpr fun n hn =>
      (hrest n).1 (.assigned value (mem_targetNames.mp hn))
    rw [hnone, List.map_nil]

section Accessors

variable {decorators : List Expr} {name : String} {parameters : List Parameter}
  {result : Option Expr} {body : List Statement}

/-- A function that reads a property adds the property. -/
theorem Contributes.of_reads
    (h : Contributes frozen (.function false decorators name parameters result body) contributions)
    (hmark : FirstMark decorators .reads) :
    ∃ text, typeText result = .ok text ∧ contributions = [.defines (readMember name text)] := by
  cases h with
  | read _ _ _ _ ht => exact ⟨_, ht, rfl⟩
  | function _ _ _ hrole _ => exact absurd hmark (hrole.resolve_left Bool.false_ne_true _)
  | writes _ _ _ _ hother => cases hmark.unique hother
  | other _ _ _ _ hother => cases hmark.unique hother
  | rest hrest => exact absurd (.read parameters result body hmark) (hrest name).1

/-- A function that assigns a property adds that the property can be assigned. -/
theorem Contributes.of_writes {property : String}
    (h : Contributes frozen (.function false decorators name parameters result body) contributions)
    (hmark : FirstMark decorators (.writes property)) : contributions = [.writes property] := by
  cases h with
  | writes _ _ _ _ hrole =>
    cases hrole.unique hmark
    rfl
  | function _ _ _ hrole _ => exact absurd hmark (hrole.resolve_left Bool.false_ne_true _)
  | read _ _ _ hother _ => cases hmark.unique hother
  | other _ _ _ _ hother => cases hmark.unique hother
  | rest hrest => exact absurd (.mk name parameters result body hmark) (hrest property).2

end Accessors

/-- Functions are no properties. -/
theorem eligible_functionMember (name text : String) :
    (functionMember name text).eligible = false := by
  rw [Member.eligible, functionMember]
  cases name == "__getitem__" <;> rfl

/-- What holds no name is no property. -/
theorem Contributes.eligible_of_adds (h : Contributes frozen s contributions) {m : Member}
    (hm : .adds m ∈ contributions) : m.eligible = false := by
  cases h with
  | function name parameters body hrole ht =>
    cases List.mem_singleton.mp hm
    exact eligible_functionMember _ _
  | assigned targets value =>
    obtain ⟨name, -, hname⟩ := List.mem_map.mp hm
    cases hname
  | declared | read | writes => cases List.mem_singleton.mp hm
  | other | rest => cases hm

/-- What a name with a type becomes: a property that can be assigned unless objects never change, a
property that never changes, or a variable. -/
theorem declaredMember_cases {id : String} {type : Expr} {m : Member}
    (h : declaredMember frozen id type = .ok m) :
    (type.qualified = none ∧ ∃ text, typeText (some type) = .ok text ∧
      m = { name := id, type := text, accessibility := accessibilityOfName id
            setter := some (if frozen then .initially else .always) }) ∨
    (∃ inner, type.qualified = some (.final, inner) ∧ ∃ text, typeText inner = .ok text ∧
      m = { name := id, type := text, accessibility := accessibilityOfName id
            setter := some .initially }) ∨
    ∃ q inner, type.qualified = some (q, inner) ∧ q ≠ .final ∧
      ∃ text, (inner.getD type).text = .ok text ∧ m = variableMember id text := by
  rw [declaredMember] at h
  split at h
  next inner hq =>
    obtain ⟨text, ht, ⟨⟩⟩ := bind_eq_ok_iff.mp h
    exact .inr (.inl ⟨inner, hq, text, ht, rfl⟩)
  next q inner hne hq =>
    obtain ⟨text, ht, ⟨⟩⟩ := bind_eq_ok_iff.mp h
    exact .inr (.inr ⟨q, inner, hq, hne, text, ht, rfl⟩)
  next hq =>
    obtain ⟨text, ht, ⟨⟩⟩ := bind_eq_ok_iff.mp h
    exact .inl ⟨hq, text, ht, rfl⟩

/-- A declared member has the name that is declared. -/
theorem name_of_declaredMember {id : String} {type : Expr} {m : Member}
    (h : declaredMember frozen id type = .ok m) : m.name = id := by
  obtain ⟨-, _, -, rfl⟩ | ⟨_, -, _, -, rfl⟩ | ⟨_, _, -, -, _, -, rfl⟩ := declaredMember_cases h <;>
    rfl

/-! ## Types that are written -/

/-- A type that is written out for a statement in the body of a class. -/
inductive WritesType : Statement → Expr → Prop where
  /-- A type without a qualifier. -/
  | plain {id : String} {type : Expr} (value : Option Expr) (h : type.qualified = none) :
      WritesType (.declare (.name id) type value) type
  /-- The type within a qualifier. -/
  | within {id : String} {type inner : Expr} {q : Qualifier} (value : Option Expr)
      (h : type.qualified = some (q, some inner)) :
      WritesType (.declare (.name id) type value) inner
  /-- A qualifier that stands alone, unless it stands for any type. -/
  | alone {id : String} {type : Expr} {q : Qualifier} (value : Option Expr)
      (h : type.qualified = some (q, none)) (hq : q ≠ .final) :
      WritesType (.declare (.name id) type value) type
  /-- The result of a function, unless it assigns a property or is another accessor. -/
  | result {isAsync : Bool} {decorators : List Expr} (name : String) (parameters : List Parameter)
      (type : Expr) (body : List Statement)
      (h : isAsync = true ∨ ∀ r, FirstMark decorators r → r = .reads) :
      WritesType (.function isAsync decorators name parameters (some type) body) type

/-- The type that a declaration writes out is its type or the type within a qualifier. -/
theorem writesType_declare_iff {id : String} {type written : Expr} {value : Option Expr} :
    WritesType (.declare (.name id) type value) written ↔
      (type.qualified = none ∧ written = type) ∨
      (∃ q, type.qualified = some (q, some written)) ∨
      ∃ q, type.qualified = some (q, none) ∧ q ≠ .final ∧ written = type := by
  constructor
  · intro h
    cases h with
    | plain _ hq => exact .inl ⟨hq, rfl⟩
    | within _ hq => exact .inr (.inl ⟨_, hq⟩)
    | alone _ hq hne => exact .inr (.inr ⟨_, hq, hne, rfl⟩)
  · rintro (⟨hq, rfl⟩ | ⟨q, hq⟩ | ⟨q, hq, hne, rfl⟩)
    · exact .plain value hq
    · exact .within value hq
    · exact .alone value hq hne

/-- A declared member can be given exactly if its type can be written. -/
theorem exists_declaredMember_iff {id : String} {type : Expr} (value : Option Expr) :
    (∃ m, declaredMember frozen id type = .ok m) ↔
      ∀ written, WritesType (.declare (.name id) type value) written →
        ∃ text, written.text = .ok text := by
  rw [declaredMember]
  cases hq : type.qualified with
  | none =>
    have hwrites : ∀ written, WritesType (.declare (.name id) type value) written ↔
        written = type := by simp [writesType_declare_iff, hq]
    simp only [hwrites, forall_eq]
    exact exists_bind_pure_iff
  | some qualified =>
    obtain ⟨q, inner⟩ := qualified
    cases inner with
    | some inner =>
      have hwrites : ∀ written, WritesType (.declare (.name id) type value) written ↔
          written = inner := by simp [writesType_declare_iff, hq, eq_comm]
      simp only [hwrites, forall_eq]
      cases q <;> exact exists_bind_pure_iff
    | none =>
      by_cases hfinal : q = .final
      · have hnone : ∀ written, ¬ WritesType (.declare (.name id) type value) written := by
          simp [writesType_declare_iff, hq, hfinal]
        subst hfinal
        exact iff_of_true ⟨_, rfl⟩ fun written hw => absurd hw (hnone written)
      · have hwrites : ∀ written, WritesType (.declare (.name id) type value) written ↔
            written = type := by simp [writesType_declare_iff, hq, hfinal]
        simp only [hwrites, forall_eq]
        cases q with
        | final => exact absurd rfl hfinal
        | _ => exact exists_bind_pure_iff

/-- A function writes out its result, unless it assigns a property or is another accessor. -/
theorem writesType_function_iff {isAsync : Bool} {decorators : List Expr} {name : String}
    {parameters : List Parameter} {result : Option Expr} {body : List Statement} {written : Expr} :
    WritesType (.function isAsync decorators name parameters result body) written ↔
      result = some written ∧
        ∀ r, (if isAsync then none else decorators.findSome? Expr.role) = some r → r = .reads := by
  have hrole : (∀ r, (if isAsync then none else decorators.findSome? Expr.role) = some r →
      r = .reads) ↔ isAsync = true ∨ ∀ r, FirstMark decorators r → r = .reads := by
    simp only [role_of_function]
    cases isAsync <;> simp
  rw [hrole]
  constructor
  · intro h
    cases h with
    | result _ _ _ _ hreads => exact ⟨rfl, hreads⟩
  · rintro ⟨rfl, hreads⟩
    exact .result name parameters written body hreads

/-- The type of a result is missing or can be written. -/
theorem exists_typeText_iff {result : Option Expr} : (∃ text, typeText result = .ok text) ↔
    ∀ type, result = some type → ∃ text, type.text = .ok text := by
  cases result with
  | none => exact iff_of_true ⟨_, rfl⟩ nofun
  | some type => simp [typeText]

/-- What a statement adds to the members can be given exactly if its types can be written. -/
theorem exists_contributions_iff :
    (∃ contributions, s.contributions frozen = .ok contributions) ↔
      ∀ type, WritesType s type → ∃ text, type.text = .ok text := by
  cases s with
  | declare target type value =>
    cases target with
    | name id =>
      exact exists_bind_pure_iff.trans (exists_declaredMember_iff value)
    | _ => exact iff_of_true ⟨_, rfl⟩ fun _ hw => nomatch hw
  | function isAsync decorators name parameters result body =>
    simp only [Statement.contributions, writesType_function_iff]
    generalize (if isAsync then none else decorators.findSome? Expr.role) = role
    -- a function writes its result out if it has no role or reads a property
    have hwritten (hreads : ∀ r, role = some r → r = .reads) :
        (∃ text, typeText result = .ok text) ↔ ∀ type,
          (result = some type ∧ ∀ r, role = some r → r = .reads) →
            ∃ text, type.text = .ok text := by
      rw [exists_typeText_iff]
      exact forall_congr' fun type => by rw [and_iff_left hreads]
    cases role with
    | none => exact exists_bind_pure_iff.trans (hwritten nofun)
    | some role =>
      cases role with
      | reads => exact exists_bind_pure_iff.trans (hwritten fun r hr => (Option.some.inj hr).symm)
      | writes property =>
        exact iff_of_true ⟨_, rfl⟩ fun _ hw => nomatch hw.2 (.writes property) rfl
      | other => exact iff_of_true ⟨_, rfl⟩ fun _ hw => nomatch hw.2 .other rfl
  | _ => exact iff_of_true ⟨_, rfl⟩ fun _ hw => nomatch hw

end KeyedAccess.Script
