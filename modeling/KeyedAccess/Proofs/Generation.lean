import KeyedAccess.Generation
import Mathlib.Data.List.Forall2
import Mathlib.Data.List.Induction

/-!
# What generating gives

A run that succeeds gives one accessor for each candidate, in order, and each of them is the one
that its declaration gives alone. Files clash exactly if two accessors have the same file name.
-/

namespace KeyedAccess

/-! ## Steps -/

/-- A step after another one succeeds if both do. -/
theorem Outcome.andThen_eq_ok {α β : Type} {first : Outcome α} {next : α → Outcome β} {result : β} :
    (first.andThen next).result = .ok result ↔
      ∃ value, first.result = .ok value ∧ (next value).result = .ok result := by
  rw [Outcome.andThen]
  cases first.result with
  | error e => simp
  | ok value => simp

/-- Every language is found by its name. -/
@[simp] theorem Language.find_name (target : Language) :
    Language.find target.name = .ok target := by
  cases target <;> rfl

variable {language : String} {options : List (String × String)}

/-- An accessor has the file name that its language gives to the type. -/
theorem fileName_of_generate {d : Declaration} {accessor : Accessor} {target : Language}
    (hfind : Language.find language = .ok target)
    (h : (generate d language options).result = .ok accessor) :
    accessor.fileName = target.fileName d.identifier := by
  obtain ⟨_, -, hgenerate⟩ := Outcome.andThen_eq_ok.mp h
  rw [hfind] at hgenerate
  obtain ⟨source, -, hsource⟩ := Outcome.andThen_eq_ok.mp hgenerate
  cases hsource
  rfl

/-- Several declarations give the accessors that each of them gives alone. -/
theorem forall₂_of_generateEach {declarations : List Declaration} {accessors : List Accessor}
    (h : (generateEach declarations language options).result = .ok accessors) :
    List.Forall₂ (fun d accessor => (generate d language options).result = .ok accessor)
      declarations accessors := by
  induction declarations generalizing accessors with
  | nil =>
    cases h
    exact .nil
  | cons d rest ih =>
    obtain ⟨accessor, hfirst, hthen⟩ := Outcome.andThen_eq_ok.mp h
    obtain ⟨others, hothers, hpure⟩ := Outcome.andThen_eq_ok.mp hthen
    cases hpure
    exact .cons hfirst (ih hothers)

/-- Whatever the number of workers is, the candidates give the accessors that each of them gives
alone. -/
theorem forall₂_of_generateAll {declarations : List Declaration} {workers : Option Int}
    {accessors : List Accessor}
    (h : (generateAll declarations language workers options).result = .ok accessors) :
    List.Forall₂ (fun d accessor => (generate d language options).result = .ok accessor)
      (candidates declarations) accessors := by
  obtain ⟨_, -, heach⟩ := Outcome.andThen_eq_ok.mp h
  exact forall₂_of_generateEach heach

/-- So the file names are those that the language gives to the candidates. -/
theorem fileNames_of_generateAll {declarations : List Declaration} {workers : Option Int}
    {accessors : List Accessor} {target : Language} (hfind : Language.find language = .ok target)
    (h : (generateAll declarations language workers options).result = .ok accessors) :
    accessors.map (·.fileName) =
      (candidates declarations).map fun d => target.fileName d.identifier := by
  have hnames : List.Forall₂ (fun d accessor => target.fileName d.identifier = accessor.fileName)
      (candidates declarations) accessors :=
    (forall₂_of_generateAll h).imp fun _ _ hd => (fileName_of_generate hfind hd).symm
  rw [eq_comm, ← List.forall₂_eq_eq_eq, List.forall₂_map_left_iff, List.forall₂_map_right_iff]
  exact hnames

/-- In particular each of them is that of a candidate. -/
theorem exists_fileName_of_generateAll {declarations : List Declaration} {workers : Option Int}
    {accessors : List Accessor} {target : Language} (hfind : Language.find language = .ok target)
    (h : (generateAll declarations language workers options).result = .ok accessors)
    {a : Accessor} (ha : a ∈ accessors) :
    ∃ d ∈ candidates declarations, a.fileName = target.fileName d.identifier := by
  have hmem := List.mem_map_of_mem (f := fun a : Accessor => a.fileName) ha
  rw [fileNames_of_generateAll hfind h] at hmem
  obtain ⟨d, hd, he⟩ := List.mem_map.mp hmem
  exact ⟨d, hd, he.symm⟩

/-! ## Clashes -/

variable {α : Type} [BEq α]

/-- What one more value adds to the first occurrences. -/
theorem firstSeen_append_singleton {values : List α} {last : α} :
    firstSeen (values ++ [last]) =
      if (firstSeen values).contains last then firstSeen values
      else firstSeen values ++ [last] := by
  rw [firstSeen, List.foldl_append, List.foldl_cons, List.foldl_nil]
  rfl

variable [LawfulBEq α]

/-- The first occurrences are those of all values. -/
@[simp] theorem mem_firstSeen {values : List α} {value : α} :
    value ∈ firstSeen values ↔ value ∈ values := by
  induction values using List.reverseRecOn with
  | nil => rfl
  | append_singleton values last ih =>
    rw [firstSeen_append_singleton]
    split
    · next hlast =>
      rw [List.mem_append, List.mem_singleton, ih]
      refine ⟨Or.inl, fun h => h.elim id ?_⟩
      rintro rfl
      exact ih.mp (List.contains_iff_mem.mp hlast)
    · rw [List.mem_append, List.mem_append, ih]

/-- No value is repeated exactly if the values are pairwise different. -/
@[simp] theorem repeated_eq_nil_iff {values : List α} : repeated values = [] ↔ values.Nodup := by
  rw [repeated, List.filter_eq_nil_iff, List.nodup_iff_count]
  constructor
  · intro h value
    by_cases hm : value ∈ values
    · simpa using h value (mem_firstSeen.mpr hm)
    · rw [List.count_eq_zero_of_not_mem hm]
      omega
  · intro h value _
    simpa using h value

/-- No files clash exactly if the file names are pairwise different. -/
@[simp] theorem fileClashes_eq_nil_iff {accessors : List Accessor} :
    fileClashes accessors = [] ↔ (accessors.map (·.fileName)).Nodup := by
  rw [fileClashes, List.map_eq_nil_iff, repeated_eq_nil_iff]

end KeyedAccess
