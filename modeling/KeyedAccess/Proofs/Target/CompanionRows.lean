import KeyedAccess.Proofs.Target.Rows
import KeyedAccess.Target.Companion

/-!
# The rows of a companion

If no text of a descriptor holds a line boundary, its companion is a list of rows: one for each arm
of the getter, three for each section of the setter, and fixed rows around them. The names and types
stand in it as they are, but every row is told apart by how it begins, and the key in front tells
where a name ends. So the companion can be read back.
-/

namespace KeyedAccess.Companion

open Text

/-! ## Rows -/

/-- The rows in front of the namespace. -/
def openingRows : List String := ["// <auto-generated/>", "using System;", ""]

/-- The rows of the namespace. -/
def scopeRows (scope : Option String) : List String :=
  match properScope scope with
  | some name => ["namespace " ++ name ++ ";", ""]
  | none => []

/-- The row that reopens the type. -/
def partRow (header : String) : String := "partial " ++ header

/-- The rows up to the arms. -/
def getterRows : List String :=
  ["\x7b", "    public object this[string name]", "    \x7b", "        get => name switch",
    "        \x7b"]

/-- The row of an arm. -/
def armRow (name : String) : String := "            \"" ++ (name ++ ("\" => " ++ (name ++ ",")))

/-- The row of the last arm, which is for every other key. -/
def otherArm : String := "            _ => throw new IndexOutOfRangeException(name)"

/-- The rows from the arms to the sections. -/
def setterRows : List String :=
  ["        \x7d;", "        set", "        \x7b", "            switch (name)", "            \x7b"]

/-- The rows of a section. -/
def sectionRows (name type : String) : List String :=
  ["                case \"" ++ (name ++ "\":"),
    "                    " ++ (name ++ (" = (" ++ (type ++ ") value;"))),
    "                    break;"]

/-- The row that begins the last section, which is for every other key. -/
def otherSection : String := "                default:"

/-- The rows from there on. -/
def closingRows : List String :=
  ["                    throw new IndexOutOfRangeException(name);", "            \x7d",
    "        \x7d", "    \x7d", "\x7d"]

/-- The rows of the arms. -/
def armRows (t : Descriptor) : List String := t.readable.map fun p => armRow p.name

/-- The rows of the sections. -/
def sectionsRows (t : Descriptor) : List String :=
  t.writable.flatMap fun p => sectionRows p.name p.type

/-- The rows in front of the arms. -/
def frontRows (t : Descriptor) : List String :=
  openingRows ++ (scopeRows t.scope ++ partRow t.header :: getterRows)

/-- The rows of the companion. -/
def rows (t : Descriptor) : List String :=
  frontRows t ++ (armRows t ++ otherArm :: (setterRows ++ (sectionsRows t ++ otherSection ::
    closingRows)))

/-! ## The text of the rows -/

/-- The rows of a section before they are shifted. -/
def sectionTexts (name type : String) : List String :=
  ["case \"" ++ (name ++ "\":"), "    " ++ (name ++ (" = (" ++ (type ++ ") value;"))), "    break;"]

private theorem shifted_getArm (p : Property) :
    shifted (spaces 12) [getArm p] = [armRow p.name] := by
  have hmargin : spaces 12 ++ "\"" = "            \"" := by decide
  unfold shifted getArm armRow
  simp only [List.map_cons, List.map_nil, String.append_assoc]
  rw [← String.append_assoc, hmargin]

private theorem setSection_eq (p : Property) :
    setSection p = "\n".intercalate (sectionTexts p.name p.type) := by
  have hfirst : "\":\n    " = "\":" ++ "\n" ++ "    " := by decide
  have hlast : ") value;\n    break;" = ") value;" ++ "\n" ++ "    break;" := by decide
  unfold setSection sectionTexts
  simp only [hfirst, hlast, String.intercalate_cons_cons, String.intercalate_singleton,
    String.append_assoc]

private theorem shifted_sectionTexts (name type : String) :
    shifted (spaces 16) (sectionTexts name type) = sectionRows name type := by
  have hkey : spaces 16 ++ "case \"" = "                case \"" := by decide
  have hbody : spaces 16 ++ "    " = "                    " := by decide
  have hleave : spaces 16 ++ "    break;" = "                    break;" := by decide
  unfold shifted sectionTexts sectionRows
  simp only [List.map_cons, List.map_nil, hleave, ← String.append_assoc, hkey, hbody]

variable {t : Descriptor}

private theorem solid_getArm {p : Property} (h : OneLine p.name) : Solid (getArm p) := by
  have hopen : OneLine "\"" := by decide
  have harrow : OneLine "\" => " := by decide
  have hend : OneLine "," := by decide
  refine .of_mem ((((hopen.append h).append harrow).append h).append hend) (c := '"') ?_ (by decide)
  simp [getArm]

private theorem solid_sectionTexts {name type : String} (hn : OneLine name) (ht : OneLine type) :
    ∀ row ∈ sectionTexts name type, Solid row := by
  have hcase : OneLine "case \"" := by decide
  have hcolon : OneLine "\":" := by decide
  have hspace : OneLine "    " := by decide
  have hcast : OneLine " = (" := by decide
  have hvalue : OneLine ") value;" := by decide
  have hleave : OneLine "    break;" := by decide
  simp only [sectionTexts, List.forall_mem_cons, List.not_mem_nil, false_implies, implies_true,
    and_true]
  refine ⟨.of_mem (hcase.append (hn.append hcolon)) (c := 'c') ?_ (by decide),
    .of_mem (hspace.append (hn.append (hcast.append (ht.append hvalue)))) (c := '=') ?_ (by decide),
    .of_mem hleave (c := 'b') (by decide) (by decide)⟩
  · simp
  · simp

/-- The arms are written as their rows. -/
theorem clauseLines_arms (h : t.OneLine) :
    clauseLines (t.getClauses getArm) (spaces 12) = ofRows (armRows t) := by
  have hsolid : ∀ p ∈ t.readable, ∀ row ∈ [getArm p], Solid row :=
    fun p hp row hr => List.mem_singleton.mp hr ▸ solid_getArm (h.readable p hp)
  have hrows := clauseLines_eq_ofRows (fun _ _ => List.cons_ne_nil _ _) hsolid (·.name) (spaces 12)
  simp only [String.intercalate_singleton, shifted_getArm] at hrows
  rw [Descriptor.getClauses, hrows, armRows, List.map_eq_flatMap]

/-- The sections are written as theirs. -/
theorem clauseLines_sections (h : t.OneLine) :
    clauseLines (t.setClauses setSection) (spaces 16) = ofRows (sectionsRows t) := by
  have hsolid : ∀ p ∈ t.writable, ∀ row ∈ sectionTexts p.name p.type, Solid row :=
    fun p hp => solid_sectionTexts (h.writable p hp).1 (h.writable p hp).2
  have hne : ∀ p ∈ t.writable, sectionTexts p.name p.type ≠ [] := fun _ _ => List.cons_ne_nil _ _
  have hrows := clauseLines_eq_ofRows hne hsolid (·.name) (spaces 16)
  simp only [← setSection_eq, shifted_sectionTexts] at hrows
  rw [Descriptor.setClauses, hrows, sectionsRows]

/-- The companion is made of rows and of two blocks of clauses, whatever its texts are. -/
theorem render_eq_blocks (t : Descriptor) : render t = ofRows (frontRows t) ++
    clauseLines (t.getClauses getArm) (spaces 12) ++ ofRows (otherArm :: setterRows) ++
    clauseLines (t.setClauses setSection) (spaces 16) ++ ofRows (otherSection :: closingRows) := by
  have hopening : "// <auto-generated/>\nusing System;\n\n" = ofRows openingRows := by decide
  have hscope : scopeLines t.scope = ofRows (scopeRows t.scope) := by
    rw [scopeLines, scopeRows]
    cases properScope t.scope with
    | none => rfl
    | some name =>
      have hend : ";\n\n" = ";" ++ "\n" ++ ("" ++ "\n" ++ "") := by decide
      simp only [ofRows, hend, String.append_assoc]
  have hgetter : "\n\x7b\n" ++ "    public object this[string name]\n    \x7b\n" ++
      "        get => name switch\n        \x7b\n" = "\n" ++ ofRows getterRows := by decide +kernel
  have hsetter : "            _ => throw new IndexOutOfRangeException(name)\n        \x7d;\n" ++
      "        set\n        \x7b\n            switch (name)\n            \x7b\n" =
      ofRows (otherArm :: setterRows) := by decide +kernel
  have hclosing :
      "                default:\n                    throw new IndexOutOfRangeException(name);\n" ++
      "            \x7d\n        \x7d\n    \x7d\n\x7d\n" =
      ofRows (otherSection :: closingRows) := by
    decide +kernel
  have hfront : ofRows (frontRows t) = ofRows openingRows ++ ofRows (scopeRows t.scope) ++
      "partial " ++ t.header ++ ("\n" ++ ofRows getterRows) := by
    rw [frontRows]
    simp only [ofRows_append, ofRows, partRow, String.append_assoc]
  rw [hfront]
  unfold render
  simp only [← hgetter, ← hsetter, ← hclosing, ← hopening, ← hscope, String.append_assoc]

/-- Without line boundaries it is the text of its rows. -/
theorem render_eq_ofRows (h : t.OneLine) : render t = ofRows (rows t) := by
  rw [render_eq_blocks, clauseLines_arms h, clauseLines_sections h]
  simp only [rows, ← ofRows_append, List.append_assoc, List.cons_append]

/-- No row holds a line boundary. -/
theorem oneLine_of_mem_rows (h : t.OneLine) : ∀ row ∈ rows t, OneLine row := by
  have hfixed : ∀ row ∈ openingRows ++ getterRows ++ (otherArm :: setterRows) ++
      otherSection :: closingRows, OneLine row := by
    repeat refine List.forall_mem_cons.mpr ⟨oneLine_ofList (by decide), ?_⟩
    exact List.forall_mem_nil _
  simp only [List.forall_mem_append] at hfixed
  obtain ⟨⟨⟨hopening, hgetter⟩, hsetter⟩, hclosing⟩ := hfixed
  have hscope : ∀ row ∈ scopeRows t.scope, OneLine row := by
    rw [scopeRows]
    cases hs : properScope t.scope with
    | none => exact fun row hr => absurd hr List.not_mem_nil
    | some name =>
      have hname := h.scope name (properScope_eq_some_iff.mp hs).1
      have hbefore : OneLine "namespace " := by decide
      have hend : OneLine ";" := by decide
      have hempty : OneLine "" := by decide
      simpa using ⟨(hbefore.append hname).append hend, hempty⟩
  have hpart : OneLine (partRow t.header) := by
    have hbefore : OneLine "partial " := by decide
    exact hbefore.append h.header
  have harms : ∀ row ∈ armRows t, OneLine row := by
    intro row hr
    obtain ⟨p, hp, rfl⟩ := List.mem_map.mp hr
    have hname := h.readable p hp
    have hopen : OneLine "            \"" := by decide
    have harrow : OneLine "\" => " := by decide
    have hend : OneLine "," := by decide
    exact hopen.append (hname.append (harrow.append (hname.append hend)))
  have hsections : ∀ row ∈ sectionsRows t, OneLine row := by
    intro row hr
    obtain ⟨p, hp, hr⟩ := List.mem_flatMap.mp hr
    obtain ⟨hn, ht⟩ := h.writable p hp
    rw [← shifted_sectionTexts] at hr
    obtain ⟨text, htext, rfl⟩ := List.mem_map.mp hr
    have hmargin : OneLine (spaces 16) := by decide
    exact hmargin.append (solid_sectionTexts hn ht text htext).oneLine
  rw [rows, frontRows, ← List.cons_append]
  simp only [List.forall_mem_append, List.forall_mem_cons]
  rw [List.forall_mem_cons] at hsetter hclosing
  exact ⟨⟨hopening, hscope, hpart, hgetter⟩, harms, hsetter, hsections, hclosing⟩

/-! ## Reading back -/

/-- Arms are told apart, and from the arm for every other key. -/
theorem toldApart_arms : ToldApart (fun name => [armRow name]) otherArm where
  same a b h := by
    have hrow := (List.cons.inj h).1
    unfold armRow at hrow
    exact eq_of_twice ((String.append_right_inj _).mp hrow)
  length _ _ := rfl
  begins name := by
    refine ⟨_, _, rfl, fun h => ?_⟩
    have hbegins : BeginsWith "            \"" otherArm := h ▸ beginsWith_append ..
    exact absurd hbegins (not_beginsWith_ofList rfl)

/-- So are sections. -/
theorem toldApart_sections :
    ToldApart (fun pair : String × String => sectionRows pair.1 pair.2) otherSection where
  same a b h := by
    obtain ⟨hkey, hmore⟩ := List.cons.inj h
    have hbody := (List.cons.inj hmore).1
    rw [String.append_right_inj, String.append_left_inj] at hkey
    rw [hkey, String.append_right_inj, String.append_right_inj, String.append_right_inj,
      String.append_left_inj] at hbody
    exact Prod.ext hkey hbody
  length _ _ := rfl
  begins pair := by
    refine ⟨_, _, rfl, fun h => ?_⟩
    have hbegins : BeginsWith "                case \"" otherSection := h ▸ beginsWith_append ..
    exact absurd hbegins (not_beginsWith_ofList rfl)

/-- The rows in front of the arms, with anything behind them, tell the scope and the header. -/
theorem frontRows_inj {t u : Descriptor} {rest behind : List String}
    (h : frontRows t ++ rest = frontRows u ++ behind) :
    properScope t.scope = properScope u.scope ∧ t.header = u.header ∧ rest = behind := by
  have hdiffer : ∀ name header, "namespace " ++ name ++ ";" ≠ partRow header := by
    intro name header he
    have hn : BeginsWith "namespace " (partRow header) := by
      rw [← he, String.append_assoc]
      exact beginsWith_append ..
    exact not_beginsWith (beginsWith_append "partial " header) (by decide) hn
  have hpart : ∀ {header other : String} {rest behind : List String},
      partRow header :: (getterRows ++ rest) = partRow other :: (getterRows ++ behind) →
      header = other ∧ rest = behind := by
    intro header other rest behind he
    obtain ⟨hrow, hrest⟩ := List.cons.inj he
    exact ⟨(String.append_right_inj _).mp hrow, List.append_cancel_left hrest⟩
  simp only [frontRows, List.append_assoc, List.cons_append, List.append_cancel_left_eq,
    scopeRows] at h
  cases ht : properScope t.scope with
  | none =>
    cases hu : properScope u.scope with
    | none =>
      rw [ht, hu] at h
      exact ⟨rfl, hpart h⟩
    | some name =>
      rw [ht, hu] at h
      exact absurd (List.cons.inj h).1.symm (hdiffer name t.header)
  | some name =>
    cases hu : properScope u.scope with
    | none =>
      rw [ht, hu] at h
      exact absurd (List.cons.inj h).1 (hdiffer name u.header)
    | some other =>
      rw [ht, hu] at h
      obtain ⟨hname, hmore⟩ := List.cons.inj h
      rw [String.append_left_inj, String.append_right_inj] at hname
      exact ⟨congrArg some hname, hpart (List.cons.inj hmore).2⟩

/-- What a companion tells of a descriptor. -/
structure Agree (t u : Descriptor) : Prop where
  /-- The introduction. -/
  header : t.header = u.header
  /-- The namespace, where the empty one counts as none. -/
  scope : properScope t.scope = properScope u.scope
  /-- The names that can be read, in order. -/
  reads : t.readable.map (·.name) = u.readable.map (·.name)
  /-- The names that can be written, each with its type, in order. -/
  writes : (t.writable.map fun p => (p.name, p.type)) = u.writable.map fun p => (p.name, p.type)

/-- The rows are those of these data. -/
theorem rows_eq_iff {t u : Descriptor} : rows t = rows u ↔ Agree t u := by
  have harms : ∀ t : Descriptor,
      armRows t = (t.readable.map (·.name)).flatMap fun name => [armRow name] := by
    intro t
    rw [armRows, ← List.map_eq_flatMap, List.map_map]
    rfl
  have hsections : ∀ t : Descriptor, sectionsRows t =
      (t.writable.map fun p => (p.name, p.type)).flatMap fun pair => sectionRows pair.1 pair.2 := by
    intro t
    rw [sectionsRows, List.flatMap_map]
  constructor
  · intro h
    obtain ⟨hscope, hheader, hrest⟩ := frontRows_inj h
    rw [harms, harms] at hrest
    obtain ⟨hreads, hrest⟩ := toldApart_arms.inj hrest
    have hrest := List.append_cancel_left hrest
    rw [hsections, hsections] at hrest
    exact ⟨hheader, hscope, hreads, (toldApart_sections.inj hrest).1⟩
  · rintro ⟨hheader, hscope, hreads, hwrites⟩
    simp only [rows, frontRows, scopeRows, harms, hsections, hheader, hscope, hreads, hwrites]

/-! ## What the rows hold -/

/-- How a row of an arm begins. -/
def armHead : String := "            \""

/-- How the first row of a section begins. -/
def sectionHead : String := "                case \""

/-- How the rows of a companion are laid out. -/
structure Laid (t : Descriptor) (rows : List String) : Prop where
  /-- There is a row for a namespace exactly if there is one that is not empty. -/
  scope : (∃ row ∈ rows, BeginsWith "namespace " row) ↔ ∃ name, t.scope = some name ∧ name ≠ ""
  /-- The arms are one for each readable property, in order, with the arm for every other key behind
  them, and there are no others. -/
  arms : ∃ front rear,
    rows = front ++ ((t.readable.map fun p => armRow p.name) ++ otherArm :: rear) ∧
    ∀ row ∈ front ++ rear, ¬ BeginsWith armHead row ∧ row ≠ otherArm
  /-- The sections are one for each writable property, in order, with the section for every other
  key behind them, and there are no others. -/
  sections : ∃ front rear, rows =
      front ++ ((t.writable.flatMap fun p => sectionRows p.name p.type) ++ otherSection :: rear) ∧
    ∀ row ∈ front ++ rear, ¬ BeginsWith sectionHead row ∧ row ≠ otherSection

private theorem apart_ofList {head fixed row : List Char} (h : head.isPrefixOf row = false)
    (hf : fixed.isPrefixOf row = false) :
    ¬ BeginsWith (String.ofList head) (String.ofList row) ∧
    String.ofList row ≠ String.ofList fixed :=
  ⟨not_beginsWith_ofList h, fun he => not_beginsWith_ofList hf (he ▸ List.prefix_rfl)⟩

private theorem apart_of_beginsWith {head fixed other : List Char} {row : String}
    (hr : BeginsWith (String.ofList other) row)
    (h : head.isPrefixOf other = false ∧ other.isPrefixOf head = false)
    (hf : other.isPrefixOf fixed = false) :
    ¬ BeginsWith (String.ofList head) row ∧ row ≠ String.ofList fixed :=
  ⟨not_beginsWith hr (differ_ofList h),
    fun he => not_beginsWith_ofList hf (he ▸ hr)⟩

/-- The rows in front of the arms begin none and no section. -/
theorem apart_of_mem_frontRows : ∀ row ∈ frontRows t,
    (¬ BeginsWith armHead row ∧ row ≠ otherArm) ∧
      (¬ BeginsWith sectionHead row ∧ row ≠ otherSection) := by
  have hfixed : ∀ row ∈ openingRows ++ getterRows, (¬ BeginsWith armHead row ∧ row ≠ otherArm) ∧
      (¬ BeginsWith sectionHead row ∧ row ≠ otherSection) := by
    repeat refine List.forall_mem_cons.mpr ⟨⟨apart_ofList rfl rfl, apart_ofList rfl rfl⟩, ?_⟩
    exact List.forall_mem_nil _
  have hscope : ∀ row ∈ scopeRows t.scope, (¬ BeginsWith armHead row ∧ row ≠ otherArm) ∧
      (¬ BeginsWith sectionHead row ∧ row ≠ otherSection) := by
    rw [scopeRows]
    cases properScope t.scope with
    | none => exact fun row hr => absurd hr List.not_mem_nil
    | some name =>
      have hname : BeginsWith "namespace " ("namespace " ++ name ++ ";") := by
        rw [String.append_assoc]
        exact beginsWith_append ..
      simp only [List.forall_mem_cons, List.not_mem_nil, false_implies, implies_true, and_true]
      exact ⟨⟨apart_of_beginsWith hname ⟨rfl, rfl⟩ rfl, apart_of_beginsWith hname ⟨rfl, rfl⟩ rfl⟩,
        apart_ofList rfl rfl, apart_ofList rfl rfl⟩
  have hpart : BeginsWith "partial " (partRow t.header) := beginsWith_append ..
  rw [List.forall_mem_append] at hfixed
  simp only [frontRows, List.forall_mem_append, List.forall_mem_cons]
  exact ⟨hfixed.1, hscope, ⟨apart_of_beginsWith hpart ⟨rfl, rfl⟩ rfl,
    apart_of_beginsWith hpart ⟨rfl, rfl⟩ rfl⟩, hfixed.2⟩

/-- The rows of an arm begin as such. -/
theorem beginsWith_armRows : ∀ row ∈ armRows t, BeginsWith armHead row := by
  intro row hr
  obtain ⟨p, -, rfl⟩ := List.mem_map.mp hr
  exact beginsWith_append ..

/-- The rows of sections are behind a wider margin. -/
theorem beginsWith_sectionsRows : ∀ row ∈ sectionsRows t, BeginsWith (spaces 16) row := by
  intro row hr
  obtain ⟨p, -, hr⟩ := List.mem_flatMap.mp hr
  rw [← shifted_sectionTexts] at hr
  obtain ⟨text, -, rfl⟩ := List.mem_map.mp hr
  exact beginsWith_append ..

/-- Without a namespace no row begins as one for it. -/
theorem not_beginsWith_scope (h : properScope t.scope = none) :
    ∀ row ∈ rows t, ¬ BeginsWith "namespace " row := by
  have hfixed : ∀ row ∈ openingRows ++ getterRows ++ (otherArm :: setterRows) ++
      otherSection :: closingRows, ¬ BeginsWith "namespace " row := by
    repeat refine List.forall_mem_cons.mpr ⟨not_beginsWith_ofList rfl, ?_⟩
    exact List.forall_mem_nil _
  simp only [List.forall_mem_append] at hfixed
  obtain ⟨⟨⟨hopening, hgetter⟩, hsetter⟩, hclosing⟩ := hfixed
  rw [List.forall_mem_cons] at hsetter hclosing
  have hpart : ¬ BeginsWith "namespace " (partRow t.header) :=
    not_beginsWith (beginsWith_append "partial " t.header) (differ_ofList ⟨rfl, rfl⟩)
  have harms : ∀ row ∈ armRows t, ¬ BeginsWith "namespace " row :=
    fun row hr => not_beginsWith (beginsWith_armRows row hr) (differ_ofList ⟨rfl, rfl⟩)
  have hsections : ∀ row ∈ sectionsRows t, ¬ BeginsWith "namespace " row :=
    fun row hr => not_beginsWith (beginsWith_sectionsRows row hr) (differ_ofList ⟨rfl, rfl⟩)
  have hscope : scopeRows t.scope = [] := by rw [scopeRows, h]
  simp only [rows, frontRows, hscope, List.forall_mem_append, List.forall_mem_cons,
    List.nil_append]
  exact ⟨⟨hopening, hpart, hgetter⟩, harms, hsetter.1, hsetter.2, hsections, hclosing⟩

/-- There is a row for a namespace exactly if there is one. -/
theorem exists_scopeRow_iff : (∃ row ∈ rows t, BeginsWith "namespace " row) ↔
    ∃ name, t.scope = some name ∧ name ≠ "" := by
  constructor
  · rintro ⟨row, hr, hb⟩
    cases hs : properScope t.scope with
    | none => exact absurd hb (not_beginsWith_scope hs row hr)
    | some name => exact ⟨name, properScope_eq_some_iff.mp hs⟩
  · rintro ⟨name, hs, hn⟩
    have hscope : scopeRows t.scope = ["namespace " ++ name ++ ";", ""] := by
      rw [scopeRows, properScope_eq_some_iff.mpr ⟨hs, hn⟩]
    refine ⟨"namespace " ++ name ++ ";", ?_, ?_⟩
    · simp [rows, frontRows, hscope]
    · rw [String.append_assoc]
      exact beginsWith_append ..

/-- The rows of a companion are laid out so. -/
theorem laid_rows : Laid t (rows t) where
  scope := exists_scopeRow_iff
  arms := by
    refine ⟨frontRows t, setterRows ++ (sectionsRows t ++ otherSection :: closingRows), rfl, ?_⟩
    have hfixed : ∀ row ∈ setterRows ++ otherSection :: closingRows,
        ¬ BeginsWith armHead row ∧ row ≠ otherArm := by
      repeat refine List.forall_mem_cons.mpr ⟨apart_ofList rfl rfl, ?_⟩
      exact List.forall_mem_nil _
    rw [List.forall_mem_append] at hfixed
    simp only [List.forall_mem_append]
    exact ⟨fun row hr => (apart_of_mem_frontRows row hr).1, hfixed.1,
      fun row hr => apart_of_beginsWith (beginsWith_sectionsRows row hr) ⟨rfl, rfl⟩ rfl, hfixed.2⟩
  sections := by
    refine ⟨frontRows t ++ (armRows t ++ otherArm :: setterRows), closingRows, ?_, ?_⟩
    · simp only [rows, sectionsRows, List.append_assoc, List.cons_append]
    · have hfixed : ∀ row ∈ (otherArm :: setterRows) ++ closingRows,
          ¬ BeginsWith sectionHead row ∧ row ≠ otherSection := by
        repeat refine List.forall_mem_cons.mpr ⟨apart_ofList rfl rfl, ?_⟩
        exact List.forall_mem_nil _
      rw [List.forall_mem_append] at hfixed
      simp only [List.forall_mem_append]
      exact ⟨⟨fun row hr => (apart_of_mem_frontRows row hr).2,
        fun row hr => apart_of_beginsWith (beginsWith_armRows row hr) ⟨rfl, rfl⟩ rfl, hfixed.1⟩,
        hfixed.2⟩

/-- Companions of descriptors whose texts hold no line boundary are the same exactly if the
descriptors agree, and the lines of such a companion are laid out as the descriptor says. -/
theorem companion_read_back {t u : Descriptor} (ht : t.OneLine) (hu : u.OneLine) :
    (render t = render u ↔ Agree t u) ∧
      ∃ rows, lines (render t).toList = rows.map lineOfRow ∧ Laid t rows := by
  have hsame : render t = render u ↔ rows t = rows u := by
    rw [render_eq_ofRows ht, render_eq_ofRows hu]
    exact ⟨ofRows_inj (oneLine_of_mem_rows ht) (oneLine_of_mem_rows hu), congrArg ofRows⟩
  refine ⟨hsame.trans rows_eq_iff, rows t, ?_, laid_rows⟩
  rw [render_eq_ofRows ht]
  exact lines_ofRows (oneLine_of_mem_rows ht)

/-- A type whose texts look like parts of a companion, with a name that occurs twice. -/
def impostor : Descriptor :=
  { identifier := "T"
    header := "class T // \" => namespace N;"
    scope := some ""
    properties := [⟨"A\" => A,", "int", true, true⟩, ⟨"default:", "x) value; y = (z", true, true⟩,
      ⟨"A\" => A,", "long", true, false⟩] }

/-- Its companion tells its names and types, and the empty namespace as none. -/
theorem impostor_read_back : impostor.OneLine ∧
    (render impostor = render { impostor with identifier := "U", scope := none }) ∧
    ¬ render impostor = render { impostor with properties := impostor.properties.reverse } := by
  have hone : impostor.OneLine := ⟨by decide, by decide, by decide, by decide, by decide⟩
  have hother : ({ impostor with identifier := "U", scope := none } : Descriptor).OneLine :=
    ⟨by decide, by decide, by decide, by decide, by decide⟩
  have hreverse : ({ impostor with properties := impostor.properties.reverse } :
      Descriptor).OneLine :=
    ⟨by decide, by decide, by decide, by decide, by decide⟩
  refine ⟨hone, (companion_read_back hone hother).1.mpr ⟨rfl, by decide, rfl, rfl⟩, fun h => ?_⟩
  have hwrites := ((companion_read_back hone hreverse).1.mp h).writes
  exact absurd hwrites (by decide)

end KeyedAccess.Companion
