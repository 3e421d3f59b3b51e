import KeyedAccess.Proofs.Duplicates
import KeyedAccess.Proofs.Pool
import KeyedAccess.Proofs.Schema.Names
import KeyedAccess.Proofs.Schema.Parsing
import Mathlib.Data.List.Nodup

/-!
# Clashing file names

Two accessors clash if they have the same file name. The report has one entry for each such name, in
the order of the first accessors, with the types of all of its accessors. A declaration file names
its types differently, so clashes come from the naming of files alone: with the identifiers as they
are there are none, and with their snake-case forms they are the pairs of types that these confuse.
-/

namespace KeyedAccess

/-! ## The report -/

/-- The types that a file name stands for. -/
def ownersOf (accessors : List Accessor) (name : String) : List String :=
  (accessors.filter (·.fileName == name)).map (·.identifier)

/-- A report of clashes: the file names that several accessors have, each with its types. -/
structure Clashes (accessors : List Accessor) (report : List (String × List String)) : Prop where
  /-- The file names that occur at least twice stand in the order in which they first occur. -/
  names : Repeats (accessors.map (·.fileName)) (report.map (·.1))
  /-- The types stand in the order of the accessors. -/
  owners : ∀ clash ∈ report, clash.2 = ownersOf accessors clash.1

/-- There is only one list of the values that occur at least twice, in the order of their first
occurrences. -/
theorem Repeats.unique {α : Type} [BEq α] [LawfulBEq α] {values chosen chosen' : List α}
    (h : Repeats values chosen) (h' : Repeats values chosen') : chosen = chosen' := by
  have hperm : chosen.Perm chosen' :=
    List.perm_iff_count.mpr fun value => (h.once value).trans (h'.once value).symm
  refine List.Perm.eq_of_pairwise (fun a b _ _ hlt hgt => ?_) h.ordered h'.ordered hperm
  exact absurd hgt (Nat.lt_asymm hlt)

/-- The clashes that are found are such a report. -/
theorem clashes_fileClashes (accessors : List Accessor) :
    Clashes accessors (fileClashes accessors) where
  names := by
    have hnames : (fileClashes accessors).map (·.1) = repeated (accessors.map (·.fileName)) := by
      rw [fileClashes, List.map_map]
      exact List.map_id _
    rw [hnames]
    exact repeats_repeated _
  owners := by
    intro clash hclash
    obtain ⟨name, -, rfl⟩ := List.mem_map.mp hclash
    rfl

/-- They are the only one. -/
theorem fileClashes_eq_iff {accessors : List Accessor} {report : List (String × List String)} :
    fileClashes accessors = report ↔ Clashes accessors report := by
  refine ⟨fun h => h ▸ clashes_fileClashes accessors, fun h => ?_⟩
  have hfound := clashes_fileClashes accessors
  have hnames := hfound.names.unique h.names
  -- a report is determined by its names
  have hpairs {r : List (String × List String)} (hr : Clashes accessors r) :
      r = (r.map (·.1)).map fun name => (name, ownersOf accessors name) := by
    rw [List.map_map]
    refine (List.map_id _).symm.trans (List.map_congr_left fun clash hclash => ?_)
    exact Prod.ext rfl (hr.owners clash hclash)
  rw [hpairs hfound, hpairs h, hnames]

/-! ## One pass -/

/-- One more accessor enters its type behind those of its file name, or with a new file name. -/
def enterOwner (owners : List (String × List String)) (accessor : Accessor) :
    List (String × List String) :=
  if (owners.map (·.1)).contains accessor.fileName then
    owners.map fun entry =>
      if entry.1 == accessor.fileName then (entry.1, entry.2 ++ [accessor.identifier]) else entry
  else owners ++ [(accessor.fileName, [accessor.identifier])]

private theorem ownersOf_append_singleton (accessors : List Accessor) (last : Accessor)
    (name : String) :
    ownersOf (accessors ++ [last]) name =
      if name == last.fileName then ownersOf accessors name ++ [last.identifier]
      else ownersOf accessors name := by
  rw [ownersOf, List.filter_append, List.map_append, List.filter_cons, List.filter_nil,
    Bool.beq_comm]
  split
  · rfl
  · exact List.append_nil _

private theorem ownersOf_eq_nil {accessors : List Accessor} {name : String}
    (h : name ∉ accessors.map (·.fileName)) : ownersOf accessors name = [] := by
  rw [ownersOf, List.map_eq_nil_iff, List.filter_eq_nil_iff]
  intro a ha heq
  apply h
  rw [← eq_of_beq heq]
  exact List.mem_map_of_mem (f := fun a : Accessor => a.fileName) ha

private theorem foldl_enterOwner (accessors : List Accessor) :
    accessors.foldl enterOwner [] =
      (firstSeen (accessors.map (·.fileName))).map fun name => (name, ownersOf accessors name) := by
  induction accessors using List.reverseRecOn with
  | nil => rfl
  | append_singleton accessors last ih =>
    have hnames : (accessors.foldl enterOwner []).map (·.1) =
        firstSeen (accessors.map (·.fileName)) := by
      rw [ih, List.map_map]
      exact List.map_id _
    rw [List.foldl_append, List.foldl_cons, List.foldl_nil, enterOwner, hnames, List.map_append,
      List.map_singleton, firstSeen_append_singleton]
    by_cases hseen : (firstSeen (accessors.map (·.fileName))).contains last.fileName = true
    · rw [if_pos hseen, if_pos hseen, ih, List.map_map]
      refine List.map_congr_left fun name _ => ?_
      rw [Function.comp_apply, ownersOf_append_singleton]
      split <;> rfl
    · have hnew : last.fileName ∉ firstSeen (accessors.map (·.fileName)) := fun hmem =>
        hseen (List.contains_iff_mem.mpr hmem)
      have hlast : ownersOf (accessors ++ [last]) last.fileName = [last.identifier] := by
        rw [ownersOf_append_singleton, if_pos (beq_self_eq_true _),
          ownersOf_eq_nil fun hmem => hnew (mem_firstSeen.mpr hmem), List.nil_append]
      rw [if_neg hseen, if_neg hseen, ih, List.map_append, List.map_singleton, hlast]
      congr 1
      refine List.map_congr_left fun name hname => ?_
      rw [ownersOf_append_singleton, if_neg]
      exact fun heq => hnew (eq_of_beq heq ▸ hname)

/-- The report can be made in one pass: of the file names with their types, those with several
types. -/
theorem fileClashes_eq_foldl (accessors : List Accessor) :
    fileClashes accessors =
      (accessors.foldl enterOwner []).filter fun entry => decide (1 < entry.2.length) := by
  rw [foldl_enterOwner, fileClashes, repeated, List.filter_map]
  refine congrArg _ (List.filter_congr fun name _ => ?_)
  rw [Function.comp_apply, ownersOf, List.length_map, List.count_eq_countP, List.countP_map,
    List.countP_eq_length_filter]
  rfl

/-! ## Declaration files -/

/-- No two declarations of a file have the same name. -/
theorem nodup_identifier_of_parse {text : String} {declarations : List Declaration}
    (h : Schema.parse text = .ok declarations) : (declarations.map (·.identifier)).Nodup := by
  obtain ⟨f, -, hmeaningful, rfl⟩ := Schema.exists_file_of_parse h
  rw [Schema.map_identifier_declarationsFrom]
  exact hmeaningful.distinct

variable {options : List (String × String)}

/-- Generating for a language that takes the options gives accessors for all candidates. -/
theorem exists_generateAll {language : Language}
    (h : ∀ option ∈ options, option.1 ∈ language.optionNames) {workers : Option Int}
    (hworkers : ∀ requested ∈ workers, 1 ≤ requested) (declarations : List Declaration) :
    ∃ accessors,
      (generateAll declarations language.name workers options).result = .ok accessors := by
  have hserves : Serves ((workers.getD 1).toNat) workers := by
    cases workers with
    | none => exact ⟨by decide, fun _ hr => by cases hr⟩
    | some requested =>
      have hpos := hworkers requested rfl
      refine ⟨?_, fun other hother => ?_⟩
      · rw [Option.getD_some]
        omega
      · cases hother
        rw [Option.getD_some]
        omega
  have heach : ∀ d ∈ candidates declarations,
      ∃ accessor, (generate d language.name options).result = .ok accessor := by
    intro d _
    obtain ⟨frame, hframe⟩ := Language.exists_render h d
    obtain ⟨source, hrender, -⟩ := hframe d.members
    exact ⟨_, (generate_of_render hrender).1⟩
  obtain ⟨accessors, haccessors⟩ := exists_map_ok heach
  refine ⟨accessors, ?_⟩
  rw [generateAll_eq hserves]
  refine mapM_result_eq_ok ?_
  rw [haccessors, jobsFor, List.map_map]
  rfl

/-- The file names of the candidates clash exactly if the language gives one name to two of them. -/
theorem fileClashes_ne_nil_iff {target : Language} {text : String}
    {declarations : List Declaration} {workers : Option Int} {accessors : List Accessor}
    (hparse : Schema.parse text = .ok declarations)
    (h : (generateAll declarations target.name workers options).result = .ok accessors) :
    fileClashes accessors ≠ [] ↔ ∃ d ∈ candidates declarations, ∃ d' ∈ candidates declarations,
      d.identifier ≠ d'.identifier ∧
        target.fileName d.identifier = target.fileName d'.identifier := by
  have hdistinct : ((candidates declarations).map (·.identifier)).Nodup :=
    (nodup_identifier_of_parse hparse).sublist (List.Sublist.map _ List.filter_sublist)
  have hnames : accessors.map (·.fileName) =
      ((candidates declarations).map (·.identifier)).map target.fileName := by
    rw [fileNames_of_generateAll target.find_name h, List.map_map]
    rfl
  rw [Ne, fileClashes_eq_nil_iff, hnames, List.nodup_map_iff_inj_on hdistinct]
  simp only [List.forall_mem_map]
  push Not
  refine exists_congr fun d => and_congr_right fun _ => exists_congr fun d' =>
    and_congr_right fun _ => And.comm

/-- The report of clashes is exact: it is the only list of the file names that several accessors
have, in the order of the first accessors, each with the types of all of its accessors in order. It
is empty exactly if the file names are pairwise different. The candidates of a declaration file get
accessors from every language that takes the options and for any positive number of workers; among
these nothing clashes in C#, and in Python there are clashes exactly if two candidates with
different names have the same snake-case form. -/
theorem fileClashes_exact :
    (∀ accessors report, fileClashes accessors = report ↔ Clashes accessors report) ∧
    (∀ accessors, fileClashes accessors = [] ↔ (accessors.map (·.fileName)).Nodup) ∧
    ∀ text declarations, Schema.parse text = .ok declarations →
      ∀ (target : Language) (options : List (String × String)) (workers : Option Int),
        (∀ option ∈ options, option.1 ∈ target.optionNames) →
        (∀ requested ∈ workers, 1 ≤ requested) →
        ∃ accessors,
          (generateAll declarations target.name workers options).result = .ok accessors ∧
          (target = .csharp → fileClashes accessors = []) ∧
          (target = .python → (fileClashes accessors ≠ [] ↔
            ∃ d ∈ candidates declarations, ∃ d' ∈ candidates declarations,
              d.identifier ≠ d'.identifier ∧
                Text.snakeCase d.identifier = Text.snakeCase d'.identifier)) := by
  refine ⟨fun _ _ => fileClashes_eq_iff, fun _ => fileClashes_eq_nil_iff, ?_⟩
  intro text declarations hparse target options workers hoptions hworkers
  obtain ⟨accessors, hall⟩ := exists_generateAll hoptions hworkers declarations
  have hclash := fileClashes_ne_nil_iff hparse hall
  refine ⟨accessors, hall, ?_, ?_⟩
  · rintro rfl
    by_contra hne
    obtain ⟨d, -, d', -, hdiffer, hsame⟩ := hclash.mp hne
    exact hdiffer ((String.append_left_inj _).mp hsame)
  · rintro rfl
    have hforms (a b : String) : Language.python.fileName a = Language.python.fileName b ↔
        Text.snakeCase a = Text.snakeCase b := String.append_left_inj _
    simp only [hclash, hforms]

/-- A class without members that may be completed. -/
def headerClass (name : String) : Schema.TypeDeclaration :=
  { header := ⟨[.augmentable], .cls, name⟩
    parameters := none
    bases := []
    members := [] }

/-- A file with two classes whose names differ only in the case of letters. -/
def headersFile : Schema.File :=
  [.type (headerClass "HTTPHeader"), .type (headerClass "HttpHeader")]

/-- In Python their files clash, in C# they do not. -/
theorem fileClashes_exact_headers :
    Schema.parse headersFile.text = .ok (Schema.declarationsFrom none headersFile) ∧
    (∃ accessors, (generateAll (Schema.declarationsFrom none headersFile) "python" (some 2)
      [("runtime_import", "support")]).result = .ok accessors ∧ fileClashes accessors ≠ []) ∧
    ∃ accessors, (generateAll (Schema.declarationsFrom none headersFile) "csharp" none []).result =
      .ok accessors ∧ fileClashes accessors = [] := by
  have hmeaning : Schema.meaning headersFile = .ok (Schema.declarationsFrom none headersFile) := rfl
  have hparse := Schema.File.parse_text (f := headersFile)
    ⟨by decide +kernel, (Schema.meaning_eq_ok_iff.mp hmeaning).1⟩
  obtain ⟨accessors, hall, -, hpython⟩ := fileClashes_exact.2.2 _ _ hparse .python
    [("runtime_import", "support")] (some 2) (by decide) (by decide)
  obtain ⟨others, hothers, hcsharp, -⟩ := fileClashes_exact.2.2 _ _ hparse .csharp [] none
    (by decide) (by decide)
  refine ⟨hparse, ⟨accessors, hall, (hpython rfl).mpr ?_⟩, others, hothers, hcsharp rfl⟩
  refine ⟨(headerClass "HTTPHeader").meaning none, by decide,
    (headerClass "HttpHeader").meaning none, by decide, ?_, ?_⟩
  · decide
  · decide

end KeyedAccess
