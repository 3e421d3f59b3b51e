import KeyedAccess.Proofs.Generation
import KeyedAccess.Proofs.Target.CompanionRows
import KeyedAccess.Proofs.Target.MixinRows

/-!
# Repeated names

A type may give one name to several members. Generating reports the names that more than one
eligible member has, once each and in the order in which they first occur, and keeps every member:
the text of the accessor has one clause for each readable and one for each writable occurrence, in
declaration order.
-/

namespace KeyedAccess

/-! ## Repeated values -/

variable {α : Type} [BEq α] [LawfulBEq α]

private theorem pairwise_firstSeen (values : List α) :
    (firstSeen values).Pairwise fun a b => values.idxOf a < values.idxOf b := by
  induction values using List.reverseRecOn with
  | nil => exact .nil
  | append_singleton values last ih =>
    -- the values so far keep their positions when one more value follows
    have hkept : (firstSeen values).Pairwise
        fun a b => (values ++ [last]).idxOf a < (values ++ [last]).idxOf b := by
      refine ih.imp_of_mem fun {a b} ha hb h => ?_
      rw [List.idxOf_append_of_mem (mem_firstSeen.mp ha),
        List.idxOf_append_of_mem (mem_firstSeen.mp hb)]
      exact h
    rw [firstSeen_append_singleton]
    split
    · exact hkept
    · next hlast =>
      have hnew : last ∉ values := fun hm =>
        hlast (List.contains_iff_mem.mpr (mem_firstSeen.mpr hm))
      refine List.pairwise_append.mpr ⟨hkept, List.pairwise_singleton _ _, fun a ha b hb => ?_⟩
      have ha' := mem_firstSeen.mp ha
      rw [List.mem_singleton.mp hb, List.idxOf_append_of_mem ha',
        List.idxOf_append_of_notMem hnew]
      exact Nat.lt_of_lt_of_le (List.idxOf_lt_length_of_mem ha') (Nat.le_add_right _ _)

/-- A list of the values that occur at least twice, in the order in which they first occur. -/
structure Repeats (values chosen : List α) : Prop where
  /-- It holds each of these values exactly once, and no other one. -/
  once : ∀ value, chosen.count value = if 2 ≤ values.count value then 1 else 0
  /-- It has them in the order of their first occurrences. -/
  ordered : chosen.Pairwise fun a b => values.idxOf a < values.idxOf b

/-- The repeated values are such a list. -/
theorem repeats_repeated (values : List α) : Repeats values (repeated values) where
  once value := by
    have hdistinct : (firstSeen values).Nodup :=
      (pairwise_firstSeen values).imp fun h he => absurd (he ▸ h) (Nat.lt_irrefl _)
    have hchosen : value ∈ repeated values ↔ 2 ≤ values.count value := by
      rw [repeated, List.mem_filter, mem_firstSeen, decide_eq_true_iff]
      refine and_iff_right_of_imp fun h => List.count_pos_iff.mp ?_
      omega
    have hnodup : (repeated values).Nodup := List.Pairwise.filter _ hdistinct
    rw [hnodup.count]
    exact if_congr hchosen rfl rfl
  ordered := (pairwise_firstSeen values).filter _

/-! ## The report -/

/-- The names of the members that keyed access can reach. -/
def Declaration.eligibleNames (d : Declaration) : List String :=
  (d.members.filter Member.eligible).map (·.name)

/-- The records of a log that the user should know of. -/
def warnings (log : List Record) : List Record := log.filter (·.level == .warning)

/-- What a log says about repeated names: one warning if there are any, which lists them. -/
structure Reported (d : Declaration) (log : List Record) : Prop where
  /-- Nothing is said if no eligible name occurs twice. -/
  silent : (∀ name, d.eligibleNames.count name < 2) → warnings log = []
  /-- Otherwise one warning lists these names. -/
  listed : (∃ name, 2 ≤ d.eligibleNames.count name) →
    ∃ names, Repeats d.eligibleNames names ∧
      warnings log = [⟨.warning, d.describe.qualifiedName ++
        " declares duplicate member name(s): " ++
        ", ".intercalate names⟩]

/-- The repeated names of a description are those of the eligible members. -/
theorem Declaration.duplicates_describe (d : Declaration) :
    d.describe.duplicates = repeated d.eligibleNames := by
  rw [Descriptor.duplicates, describe, List.map_map]
  rfl

/-- A log in which the warnings are those of the description says what it has to. -/
theorem reported_of_warnings {d : Declaration} {log : List Record}
    (h : warnings log = duplicateRecords d.describe) : Reported d log where
  silent hsingle := by
    have hnone : repeated d.eligibleNames = [] :=
      repeated_eq_nil_iff.mpr (List.nodup_iff_count.mpr fun name =>
        Nat.le_of_lt_succ (hsingle name))
    rw [h, duplicateRecords, d.duplicates_describe, hnone]
    rfl
  listed := by
    rintro ⟨name, hname⟩
    refine ⟨_, repeats_repeated d.eligibleNames, ?_⟩
    have hsome : repeated d.eligibleNames ≠ [] := by
      intro hnone
      have hsingle := List.nodup_iff_count.mp (repeated_eq_nil_iff.mp hnone) name
      omega
    rw [h, duplicateRecords, d.duplicates_describe, List.isEmpty_eq_false_iff.mpr hsome,
      if_neg Bool.false_ne_true]

/-! ## The text -/

/-- The code by which a language reads a property. -/
def Language.readText : Language → Property → String
  | .csharp => Companion.getArm
  | .python => Mixin.getCase

/-- The code by which a language assigns a property. -/
def Language.assignText : Language → Property → String
  | .csharp => Companion.setSection
  | .python => Mixin.setCase

/-- How far a language indents the code that assigns. -/
def Language.assignMargin : Language → String
  | .csharp => Text.spaces 16
  | .python => Text.spaces 12

/-- The lines of a clause. -/
def Clause.block (margin : String) (clause : Clause) : List Char :=
  Text.indentChars margin.toList clause.text.toList ++ ['\n']

/-- What stands around the clauses of an accessor. -/
structure Frame where
  /-- What stands in front of the clauses that read, given whether a clause assigns. -/
  front : Bool → String
  /-- What stands between the two blocks of clauses. -/
  middle : String
  /-- What stands behind the clauses that assign. -/
  rear : String

/-- The frame with clauses in it. -/
def Frame.fill (frame : Frame) (language : Language) (reads assigns : List Clause) : List Char :=
  (frame.front !assigns.isEmpty).toList ++ reads.flatMap (·.block (Text.spaces 12)) ++
    frame.middle.toList ++ assigns.flatMap (·.block language.assignMargin) ++ frame.rear.toList

/-- The readable properties are the eligible members that can be read. -/
theorem Declaration.readable_describe (d : Declaration) :
    d.describe.readable =
      (d.members.filter fun m => m.eligible && m.hasGetter).map Member.toProperty := by
  rw [Descriptor.readable, describe, List.filter_map, List.filter_filter]
  refine congrArg _ (List.filter_congr fun m _ => ?_)
  exact Bool.and_comm _ _

/-- The writable properties are the eligible members that can always be set. -/
theorem Declaration.writable_describe (d : Declaration) :
    d.describe.writable =
      (d.members.filter fun m => m.eligible && m.setter == some .always).map Member.toProperty := by
  rw [Descriptor.writable, describe, List.filter_map, List.filter_filter]
  refine congrArg _ (List.filter_congr fun m _ => ?_)
  exact Bool.and_comm _ _

private theorem toList_clauseLines_map {properties : List Property} {write : Property → String}
    {margin : String} (h : ∀ p, (write p).toList ≠ []) :
    (clauseLines (properties.map fun p => ⟨p.name, write p⟩) margin).toList =
      (properties.map fun p => (⟨p.name, write p⟩ : Clause)).flatMap (·.block margin) := by
  refine toList_clauseLines fun clause hc => ?_
  obtain ⟨p, -, rfl⟩ := List.mem_map.mp hc
  exact Text.indentChars_ne_nil (h p)

/-- What stands around the clauses of a companion. -/
def Descriptor.companionFrame (t : Descriptor) : Frame where
  front _ := Text.ofRows (Companion.frontRows t)
  middle := Text.ofRows (Companion.otherArm :: Companion.setterRows)
  rear := Text.ofRows (Companion.otherSection :: Companion.closingRows)

private theorem companionFrame_describe (d : Declaration) (members : List Member) :
    Descriptor.companionFrame { d with members }.describe = d.describe.companionFrame := by
  have hfront : Companion.frontRows { d with members }.describe = Companion.frontRows d.describe :=
    rfl
  rw [Descriptor.companionFrame, Descriptor.companionFrame, hfront]

/-- A companion is made of this frame and of the clauses. -/
theorem toList_companion (t : Descriptor) : (Companion.render t).toList =
    t.companionFrame.fill .csharp (t.getClauses Companion.getArm)
      (t.setClauses Companion.setSection) := by
  have hreads : ∀ p, (Companion.getArm p).toList ≠ [] := by simp [Companion.getArm]
  have hassigns : ∀ p, (Companion.setSection p).toList ≠ [] := by simp [Companion.setSection]
  rw [Companion.render_eq_blocks]
  simp only [String.toList_append, Descriptor.getClauses, Descriptor.setClauses,
    toList_clauseLines_map hreads, toList_clauseLines_map hassigns]
  rfl

/-- The same type with at most one member, which is assigned. -/
def Descriptor.assigning (t : Descriptor) (assigns : Bool) : Descriptor :=
  { t with properties := if assigns then [⟨"", "", false, true⟩] else [] }

/-- What stands around the clauses of a mixin. -/
def Descriptor.mixinFrame (t : Descriptor) (support : String) : Frame where
  front assigns :=
    Text.ofRows (Mixin.frontRows (t.assigning assigns) support ++ [Mixin.getHead, Mixin.matchRow])
  middle := Text.ofRows [Mixin.otherCase, Mixin.raiseRow, "", Mixin.setHead, Mixin.matchRow]
  rear := Text.ofRows [Mixin.otherCase, Mixin.raiseRow]

private theorem mixinFrame_describe (d : Declaration) (members : List Member) (support : String) :
    Descriptor.mixinFrame { d with members }.describe support = d.describe.mixinFrame support := by
  have hassigning : ∀ assigns, Descriptor.assigning { d with members }.describe assigns =
      d.describe.assigning assigns := fun _ => rfl
  simp only [Descriptor.mixinFrame, hassigning]

private theorem frontRows_assigning (t : Descriptor) (support : String) :
    Mixin.frontRows (t.assigning !t.writable.isEmpty) support = Mixin.frontRows t support := by
  have hwrites : (t.assigning !t.writable.isEmpty).writable.isEmpty = t.writable.isEmpty := by
    cases t.writable.isEmpty <;> rfl
  rw [Mixin.frontRows, Mixin.typingRow, hwrites]
  rfl

/-- A mixin is made of this frame and of the clauses. -/
theorem toList_mixin (t : Descriptor) (support : String) : (Mixin.render t support).toList =
    (t.mixinFrame support).fill .python (t.getClauses Mixin.getCase)
      (t.setClauses Mixin.setCase) := by
  have hreads : ∀ p, (Mixin.getCase p).toList ≠ [] := by simp [Mixin.getCase]
  have hassigns : ∀ p, (Mixin.setCase p).toList ≠ [] := by simp [Mixin.setCase]
  rw [Mixin.render_eq_blocks, ← frontRows_assigning, Frame.fill, Descriptor.mixinFrame]
  simp only [String.toList_append, Descriptor.getClauses, Descriptor.setClauses, List.isEmpty_map,
    toList_clauseLines_map hreads, toList_clauseLines_map hassigns]
  rfl

/-- What the text of an accessor keeps of the members: every occurrence, in declaration order. -/
structure Kept (language : Language) (frame : Frame) (d : Declaration) (source : String) :
    Prop where
  /-- The clauses that read are those of the eligible members that can be read. -/
  reads : d.describe.getClauses language.readText =
    (d.members.filter fun m => m.eligible && m.hasGetter).map
      fun m => ⟨m.name, language.readText m.toProperty⟩
  /-- The clauses that assign are those of the eligible members that can always be set. -/
  assigns : d.describe.setClauses language.assignText =
    (d.members.filter fun m => m.eligible && m.setter == some .always).map
      fun m => ⟨m.name, language.assignText m.toProperty⟩
  /-- The text is made of these clauses and of the frame. -/
  text : source.toList = frame.fill language (d.describe.getClauses language.readText)
    (d.describe.setClauses language.assignText)

variable {options : List (String × String)}

/-- A language that takes the options renders every description, and keeps every occurrence. -/
theorem Language.exists_render {language : Language}
    (h : ∀ option ∈ options, option.1 ∈ language.optionNames) (d : Declaration) :
    ∃ frame : Frame, ∀ members, ∃ source,
      language.render options { d with members }.describe = .ok source ∧
        Kept language frame { d with members } source := by
  have hoptions : (options.find? fun option => !language.optionNames.contains option.1) = none := by
    rw [List.find?_eq_none]
    intro option ho
    simpa using h option ho
  have hkept : ∀ frame members source, source.toList = frame.fill language
      (Descriptor.getClauses { d with members }.describe language.readText)
      (Descriptor.setClauses { d with members }.describe language.assignText) →
      Kept language frame { d with members } source := by
    intro frame members source htext
    refine ⟨?_, ?_, htext⟩
    · rw [Descriptor.getClauses, Declaration.readable_describe, List.map_map]
      rfl
    · rw [Descriptor.setClauses, Declaration.writable_describe, List.map_map]
      rfl
  cases language with
  | csharp =>
    refine ⟨d.describe.companionFrame, fun members => ?_⟩
    refine ⟨Companion.render { d with members }.describe, ?_, hkept _ _ _ ?_⟩
    · unfold Language.render
      rw [hoptions]
    · rw [toList_companion, companionFrame_describe]
      rfl
  | python =>
    let support := (options.lookup "runtime_import").getD Mixin.defaultSupport
    refine ⟨d.describe.mixinFrame support, fun members => ?_⟩
    refine ⟨Mixin.render { d with members }.describe support, ?_, hkept _ _ _ ?_⟩
    · unfold Language.render
      rw [hoptions]
    · rw [toList_mixin, mixinFrame_describe]
      rfl

/-! ## Generating -/

/-- A run that renders a text gives the accessor with it; only repeated names are worth a
warning. -/
theorem generate_of_render {language : Language} {d : Declaration} {source : String}
    (h : language.render options d.describe = .ok source) :
    (generate d language.name options).result =
        .ok ⟨d.identifier, language.name, language.fileName d.identifier, source⟩ ∧
      warnings (generate d language.name options).log = duplicateRecords d.describe := by
  have hgenerate : generate d language.name options =
      ⟨describeRecord d.describe :: duplicateRecords d.describe ++
          [⟨.debug, "Synthesizing " ++ language.name ++ " accessor for " ++
            d.describe.qualifiedName⟩],
        .ok ⟨d.identifier, language.name, language.fileName d.identifier, source⟩⟩ := by
    simp only [generate, synthesize, Language.find_name, h, Outcome.andThen, List.append_nil]
    rfl
  have hwarned : ∀ r ∈ duplicateRecords d.describe, (r.level == Level.warning) = true := by
    intro r hr
    rw [duplicateRecords] at hr
    split at hr
    · cases hr
    · rw [List.mem_singleton.mp hr]
      rfl
  rw [hgenerate]
  refine ⟨rfl, ?_⟩
  rw [warnings, List.filter_append, List.filter_cons_of_neg Bool.false_ne_true,
    List.filter_eq_self.mpr hwarned]
  exact List.append_nil _

/-- Members that keyed access cannot reach change nothing. -/
theorem generate_eligible (d : Declaration) (language : String) :
    generate { d with members := d.members.filter Member.eligible } language options =
      generate d language options := by
  have hdescribe : Declaration.describe { d with members := d.members.filter Member.eligible } =
      d.describe := by
    rw [Declaration.describe, Declaration.describe, List.filter_filter]
    simp only [Bool.and_self]
    rfl
  rw [generate, generate, hdescribe]

/-- A language that takes the options gives every declaration an accessor, with one warning that
lists the names of several eligible members if there are any. In either case the text is what the
language renders of all of these members: a frame that does not look at them, and in it one clause
for each readable and one for each writable occurrence. -/
theorem generate_keeps_duplicates {language : Language}
    (h : ∀ option ∈ options, option.1 ∈ language.optionNames) (d : Declaration) :
    (∃ frame : Frame, ∀ members, ∃ accessor,
      (generate { d with members } language.name options).result = .ok accessor ∧
      Reported { d with members } (generate { d with members } language.name options).log ∧
      language.render options { d with members }.describe = .ok accessor.source ∧
      Kept language frame { d with members } accessor.source) ∧
    generate { d with members := d.members.filter Member.eligible } language.name options =
      generate d language.name options := by
  obtain ⟨frame, hframe⟩ := Language.exists_render h d
  refine ⟨⟨frame, fun members => ?_⟩, generate_eligible d _⟩
  obtain ⟨source, hrender, hkept⟩ := hframe members
  obtain ⟨hresult, hlog⟩ := generate_of_render hrender
  exact ⟨_, hresult, reported_of_warnings hlog, hrender, hkept⟩

/-- A type with one name for two properties and for a variable, and another one for a property and a
private property. -/
def twice : Declaration :=
  { identifier := "Twice"
    members := [{ name := "A", type := "int" }, { name := "B", type := "int" },
      { name := "B", type := "int", accessibility := .owner },
      { name := "A", type := "int", kind := .field },
      { name := "A", type := "long", setter := some .initially }] }

/-- Its accessor has two clauses that read the name, and one that assigns it. -/
theorem generate_keeps_twice :
    (∀ option ∈ [("runtime_import", "support")], option.1 ∈ Language.python.optionNames) ∧
    ∃ accessor, (generate twice "python" [("runtime_import", "support")]).result = .ok accessor ∧
      (∃ names, Repeats ["A", "B", "A"] names ∧
        warnings (generate twice "python" [("runtime_import", "support")]).log =
          [⟨.warning, "Twice declares duplicate member name(s): " ++ ", ".intercalate names⟩]) ∧
      ∃ frame : Frame, accessor.source.toList = frame.fill .python
        [⟨"A", Mixin.getCase ⟨"A", "int", true, true⟩⟩,
         ⟨"B", Mixin.getCase ⟨"B", "int", true, true⟩⟩,
         ⟨"A", Mixin.getCase ⟨"A", "long", true, false⟩⟩]
        [⟨"A", Mixin.setCase ⟨"A", "int", true, true⟩⟩,
         ⟨"B", Mixin.setCase ⟨"B", "int", true, true⟩⟩] := by
  have hoptions : ∀ option ∈ [("runtime_import", "support")],
      option.1 ∈ Language.python.optionNames := by decide
  obtain ⟨⟨frame, hframe⟩, -⟩ := generate_keeps_duplicates hoptions twice
  obtain ⟨accessor, hresult, hreported, -, hkept⟩ := hframe twice.members
  refine ⟨hoptions, accessor, hresult, hreported.listed ⟨"A", by decide⟩, frame, ?_⟩
  rw [hkept.text, hkept.reads, hkept.assigns]
  rfl

end KeyedAccess
