import KeyedAccess.Proofs.Target.MixinText
import KeyedAccess.Proofs.Target.Rows

/-!
# The rows of a mixin

If no text of a descriptor holds a line boundary, and the name of the support module holds none
either, the mixin is a list of rows: two for each case of the two methods, and fixed rows around
them. The names stand in it once between quotes and once as they are, the types between quotes. So
the mixin can be read back.
-/

namespace KeyedAccess.Mixin

open Script Text

/-! ## Rows -/

/-- The row that imports what assignments use. -/
def castImport : String := "from typing import Any, cast"

/-- The row that imports what the annotations use, and `cast` if something is assigned. -/
def typingRow (t : Descriptor) : String :=
  if t.writable.isEmpty then "from typing import Any" else castImport

/-- The row that imports the error. -/
def supportRow (support : String) : String := "from " ++ (support ++ " import OutOfRangeError")

/-- The row that begins the method for reading. -/
def getHead : String := "    def __getitem__(self, name: str) -> Any:"

/-- The row that begins the method for assigning. -/
def setHead : String := "    def __setitem__(self, name: str, value: Any) -> None:"

/-- The row that begins the choice by the key. -/
def matchRow : String := "        match name:"

/-- The rows in front of the first method. -/
def frontRows (t : Descriptor) (support : String) : List String :=
  "# Generated by indexgen. Do not edit." ::
    ("\"\"\"String-keyed member access for " ++ (t.qualifiedName ++ ".\"\"\"")) :: "" ::
    typingRow t :: supportRow support :: "" :: "" :: ("class " ++ (t.identifier ++ "Indexer:")) ::
    ("    \"\"\"Mixin adding ``obj[name]`` access to " ++ (t.identifier ++ ".\"\"\"")) :: "" ::
    ["    __slots__ = ()", ""]

/-- The row that begins a case. -/
def caseRow (name : String) : String := "            case " ++ (asciiQuoted name ++ ":")

/-- The rows of a case that reads. -/
def getRows (name : String) : List String := [caseRow name, "                return self." ++ name]

/-- The row that assigns. -/
def castRow (name type : String) : String :=
  "                self." ++ (name ++ (" = cast(" ++ (asciiQuoted type ++ ", value)")))

/-- The rows of a case that assigns. -/
def setRows (name type : String) : List String := [caseRow name, castRow name type]

/-- The row that begins the case for every other key. -/
def otherCase : String := "            case _:"

/-- The row of that case. -/
def raiseRow : String := "                raise OutOfRangeError(name)"

/-- The rows of the cases that read. -/
def readRows (t : Descriptor) : List String := t.readable.flatMap fun p => getRows p.name

/-- The rows of the cases that assign. -/
def writeRows (t : Descriptor) : List String := t.writable.flatMap fun p => setRows p.name p.type

/-- The rows of the mixin. -/
def rows (t : Descriptor) (support : String) : List String :=
  frontRows t support ++ getHead :: matchRow :: (readRows t ++ otherCase :: raiseRow :: "" ::
    setHead :: matchRow :: (writeRows t ++ otherCase :: [raiseRow]))

/-! ## The text of the rows -/

private theorem getCase_eq (p : Property) : getCase p =
    "\n".intercalate ["case " ++ (asciiQuoted p.name ++ ":"), "    return self." ++ p.name] := by
  have hcolon : ":\n    return self." = ":" ++ "\n" ++ "    return self." := by decide
  unfold getCase
  simp only [hcolon, String.intercalate_cons_cons, String.intercalate_singleton,
    String.append_assoc]

private theorem setCase_eq (p : Property) : setCase p =
    "\n".intercalate ["case " ++ (asciiQuoted p.name ++ ":"),
      "    self." ++ (p.name ++ (" = cast(" ++ (asciiQuoted p.type ++ ", value)")))] := by
  have hcolon : ":\n    self." = ":" ++ "\n" ++ "    self." := by decide
  unfold setCase
  simp only [hcolon, String.intercalate_cons_cons, String.intercalate_singleton,
    String.append_assoc]

private theorem shifted_getCase (name : String) :
    shifted (spaces 12) ["case " ++ (asciiQuoted name ++ ":"), "    return self." ++ name] =
      getRows name := by
  have hcase : spaces 12 ++ "case " = "            case " := by decide
  have hreturn : spaces 12 ++ "    return self." = "                return self." := by decide
  unfold getRows caseRow shifted
  simp only [List.map_cons, List.map_nil, ← String.append_assoc, hcase, hreturn]

private theorem shifted_setCase (name type : String) :
    shifted (spaces 12) ["case " ++ (asciiQuoted name ++ ":"),
      "    self." ++ (name ++ (" = cast(" ++ (asciiQuoted type ++ ", value)")))] =
      setRows name type := by
  have hcase : spaces 12 ++ "case " = "            case " := by decide
  have hself : spaces 12 ++ "    self." = "                self." := by decide
  unfold setRows caseRow castRow shifted
  simp only [List.map_cons, List.map_nil, ← String.append_assoc, hcase, hself]

/-- A text between quotes holds no line boundary. -/
theorem oneLine_asciiQuoted (text : String) : OneLine (asciiQuoted text) :=
  fun _ hc => not_isLineBoundary_of_mem_asciiQuoted hc

private theorem solid_case (name : String) : Solid ("case " ++ (asciiQuoted name ++ ":")) := by
  have hcase : OneLine "case " := by decide
  have hcolon : OneLine ":" := by decide
  refine .of_mem (hcase.append ((oneLine_asciiQuoted name).append hcolon)) (c := 'c') ?_ (by decide)
  simp

private theorem solid_return {name : String} (h : OneLine name) :
    Solid ("    return self." ++ name) := by
  have hreturn : OneLine "    return self." := by decide
  exact .of_mem (hreturn.append h) (c := 'r') (by simp) (by decide)

private theorem solid_assign {name : String} (h : OneLine name) (type : String) :
    Solid ("    self." ++ (name ++ (" = cast(" ++ (asciiQuoted type ++ ", value)")))) := by
  have hself : OneLine "    self." := by decide
  have hcast : OneLine " = cast(" := by decide
  have hvalue : OneLine ", value)" := by decide
  refine .of_mem (hself.append (h.append (hcast.append ((oneLine_asciiQuoted type).append hvalue))))
    (c := 's') ?_ (by decide)
  simp

variable {t : Descriptor} {support : String}

/-- The cases that read are written as their rows. -/
theorem clauseLines_reads (h : t.OneLine) :
    clauseLines (t.getClauses getCase) (spaces 12) = ofRows (readRows t) := by
  have hsolid : ∀ p ∈ t.readable, ∀ row ∈ ["case " ++ (asciiQuoted p.name ++ ":"),
      "    return self." ++ p.name], Solid row := fun p hp => by
    simpa using ⟨solid_case p.name, solid_return (h.readable p hp)⟩
  have hrows := clauseLines_eq_ofRows (fun _ _ => List.cons_ne_nil _ _) hsolid (·.name) (spaces 12)
  simp only [← getCase_eq, shifted_getCase] at hrows
  exact hrows

/-- The cases that assign are written as theirs. -/
theorem clauseLines_writes (h : t.OneLine) :
    clauseLines (t.setClauses setCase) (spaces 12) = ofRows (writeRows t) := by
  have hsolid : ∀ p ∈ t.writable, ∀ row ∈ ["case " ++ (asciiQuoted p.name ++ ":"),
      "    self." ++ (p.name ++ (" = cast(" ++ (asciiQuoted p.type ++ ", value)")))],
      Solid row := fun p hp => by
    simpa using ⟨solid_case p.name, solid_assign (h.writable p hp).1 p.type⟩
  have hrows := clauseLines_eq_ofRows (fun _ _ => List.cons_ne_nil _ _) hsolid (·.name) (spaces 12)
  simp only [← setCase_eq, shifted_setCase] at hrows
  exact hrows

/-- The rows of the imports and annotations. -/
theorem typingImport_eq (t : Descriptor) :
    typingImport (t.setClauses setCase) = ofRows [typingRow t] := by
  rw [typingImport, typingRow, Descriptor.setClauses, List.isEmpty_map]
  cases t.writable.isEmpty <;> decide

/-- The mixin is made of rows and of two blocks of clauses, whatever its texts are. -/
theorem render_eq_blocks (t : Descriptor) (support : String) : render t support =
    ofRows (frontRows t support ++ [getHead, matchRow]) ++
    clauseLines (t.getClauses getCase) (spaces 12) ++
    ofRows [otherCase, raiseRow, "", setHead, matchRow] ++
    clauseLines (t.setClauses setCase) (spaces 12) ++ ofRows [otherCase, raiseRow] := by
  have htyping := typingImport_eq t
  have hopening : "# Generated by indexgen. Do not edit.\n" =
      "# Generated by indexgen. Do not edit." ++ "\n" := by decide
  have hremark : ".\"\"\"\n\n" = ".\"\"\"" ++ "\n" ++ ("" ++ "\n") := by decide
  have hsupport : " import OutOfRangeError\n\n\n" =
      " import OutOfRangeError" ++ "\n" ++ ("" ++ "\n" ++ ("" ++ "\n")) := by decide
  have hclass : ":\n" = ":" ++ "\n" := by decide
  have hindexer : "Indexer:" = "Indexer" ++ ":" := by decide
  have hslots : "    __slots__ = ()\n\n" ++
      "    def __getitem__(self, name: str) -> Any:\n        match name:\n" =
      ofRows ["    __slots__ = ()", "", getHead, matchRow] := by decide +kernel
  have hmiddle : "            case _:\n                raise OutOfRangeError(name)\n\n" ++
      "    def __setitem__(self, name: str, value: Any) -> None:\n        match name:\n" =
      ofRows [otherCase, raiseRow, "", setHead, matchRow] := by decide +kernel
  have hclosing : "            case _:\n                raise OutOfRangeError(name)\n" =
      ofRows [otherCase, raiseRow] := by decide +kernel
  have hfront : ofRows (frontRows t support ++ [getHead, matchRow]) =
      "# Generated by indexgen. Do not edit." ++ "\n" ++
      ("\"\"\"String-keyed member access for " ++ (t.qualifiedName ++ ".\"\"\"")) ++ "\n" ++
      ("" ++ "\n") ++ ofRows [typingRow t] ++
      ("from " ++ (support ++ " import OutOfRangeError")) ++ "\n" ++ ("" ++ "\n" ++ ("" ++ "\n")) ++
      ("class " ++ (t.identifier ++ "Indexer:")) ++ "\n" ++
      ("    \"\"\"Mixin adding ``obj[name]`` access to " ++ (t.identifier ++ ".\"\"\"")) ++ "\n" ++
      ("" ++ "\n") ++ ofRows ["    __slots__ = ()", "", getHead, matchRow] := by
    unfold frontRows supportRow
    simp only [ofRows, List.cons_append, List.nil_append, String.append_assoc, String.append_empty]
  rw [hfront]
  unfold render className
  simp only [← hslots, ← hmiddle, ← hclosing, ← htyping, hopening, hremark, hsupport, hclass,
    hindexer, String.append_assoc]

/-- Without line boundaries it is the text of its rows. -/
theorem render_eq_ofRows (h : t.OneLine) : render t support = ofRows (rows t support) := by
  rw [render_eq_blocks, clauseLines_reads h, clauseLines_writes h]
  simp only [rows, ← ofRows_append, List.append_assoc, List.cons_append, List.nil_append]

/-- A qualified name holds no line boundary. -/
theorem oneLine_qualifiedName (h : t.OneLine) : OneLine t.qualifiedName := by
  rw [Descriptor.qualifiedName]
  cases hs : properScope t.scope with
  | none => exact h.identifier
  | some scope =>
    have hdot : OneLine "." := by decide
    exact ((h.scope scope (properScope_eq_some_iff.mp hs).1).append hdot).append h.identifier

/-- No row holds a line boundary. -/
theorem oneLine_of_mem_rows (h : t.OneLine) (hs : OneLine support) :
    ∀ row ∈ rows t support, OneLine row := by
  have hopening : OneLine "# Generated by indexgen. Do not edit." := oneLine_ofList (by decide)
  have hremark : OneLine "\"\"\"String-keyed member access for " := oneLine_ofList (by decide)
  have hend : OneLine ".\"\"\"" := oneLine_ofList (by decide)
  have hempty : OneLine "" := oneLine_ofList (by decide)
  have hcast : OneLine castImport := oneLine_ofList (by decide)
  have hany : OneLine "from typing import Any" := oneLine_ofList (by decide)
  have hfrom : OneLine "from " := oneLine_ofList (by decide)
  have himport : OneLine " import OutOfRangeError" := oneLine_ofList (by decide)
  have hclass : OneLine "class " := oneLine_ofList (by decide)
  have hindexer : OneLine "Indexer:" := oneLine_ofList (by decide)
  have hmixin : OneLine "    \"\"\"Mixin adding ``obj[name]`` access to " :=
    oneLine_ofList (by decide)
  have hslots : OneLine "    __slots__ = ()" := oneLine_ofList (by decide)
  have hget : OneLine getHead := oneLine_ofList (by decide)
  have hset : OneLine setHead := oneLine_ofList (by decide)
  have hmatch : OneLine matchRow := oneLine_ofList (by decide)
  have hother : OneLine otherCase := oneLine_ofList (by decide)
  have hraise : OneLine raiseRow := oneLine_ofList (by decide)
  have hmargin : OneLine (spaces 12) := oneLine_ofList (by decide)
  have htyping : OneLine (typingRow t) := by
    rw [typingRow]
    split
    · exact hany
    · exact hcast
  have hcases : ∀ rows : List String, (∀ row ∈ rows, Solid row) →
      ∀ row ∈ shifted (spaces 12) rows, OneLine row := by
    intro rows hsolid row hr
    obtain ⟨text, htext, rfl⟩ := List.mem_map.mp hr
    exact hmargin.append (hsolid text htext).oneLine
  have hreads : ∀ row ∈ readRows t, OneLine row := by
    intro row hr
    obtain ⟨p, hp, hr⟩ := List.mem_flatMap.mp hr
    rw [← shifted_getCase] at hr
    exact hcases _ (by simpa using ⟨solid_case p.name, solid_return (h.readable p hp)⟩) row hr
  have hwrites : ∀ row ∈ writeRows t, OneLine row := by
    intro row hr
    obtain ⟨p, hp, hr⟩ := List.mem_flatMap.mp hr
    rw [← shifted_setCase] at hr
    exact hcases _ (by simpa using ⟨solid_case p.name, solid_assign (h.writable p hp).1 p.type⟩)
      row hr
  unfold rows frontRows supportRow
  simp only [List.forall_mem_append, List.forall_mem_cons, List.not_mem_nil, false_implies,
    implies_true, and_true]
  have hname := h.identifier
  exact ⟨⟨hopening, hremark.append ((oneLine_qualifiedName h).append hend), hempty, htyping,
    hfrom.append (hs.append himport), hempty, hempty, hclass.append (hname.append hindexer),
    hmixin.append (hname.append hend), hempty, hslots, hempty⟩, hget, hmatch, hreads, hother,
    hraise, hempty, hset, hmatch, hwrites, hother, hraise⟩

/-! ## Reading back -/

private theorem caseRow_ne (name : String) : caseRow name ≠ otherCase := by
  intro h
  have hquote : BeginsWith "            case \"" (caseRow name) := by
    have hchars : (caseRow name).toList = "            case \"".toList ++
        (name.toList.flatMap asciiEscape ++ ['"'] ++ ":".toList) := by
      unfold caseRow
      simp [asciiQuoted]
    rw [BeginsWith, hchars]
    exact List.prefix_append ..
  exact not_beginsWith_ofList rfl (h ▸ hquote)

/-- Cases that read are told apart, and from the case for every other key. -/
theorem toldApart_reads : ToldApart getRows otherCase where
  same _ _ h := (String.append_right_inj _).mp (List.cons.inj (List.cons.inj h).2).1
  length _ _ := by
    unfold getRows
    simp only [List.length_cons, List.length_nil]
  begins name := ⟨_, _, rfl, caseRow_ne name⟩

/-- So are cases that assign. -/
theorem toldApart_writes :
    ToldApart (fun pair : String × String => setRows pair.1 pair.2) otherCase where
  same a b h := by
    obtain ⟨hkey, hmore⟩ := List.cons.inj h
    have hbody := (List.cons.inj hmore).1
    unfold caseRow at hkey
    unfold castRow at hbody
    rw [String.append_right_inj, String.append_left_inj] at hkey
    have hname := asciiQuoted_inj hkey
    rw [hname, String.append_right_inj, String.append_right_inj, String.append_right_inj,
      String.append_left_inj] at hbody
    exact Prod.ext hname (asciiQuoted_inj hbody)
  length _ _ := by
    unfold setRows
    simp only [List.length_cons, List.length_nil]
  begins pair := ⟨_, _, rfl, caseRow_ne pair.1⟩

/-- The name of a type and its qualified name tell the scope. -/
theorem properScope_eq_of_qualifiedName {t u : Descriptor} (hi : t.identifier = u.identifier)
    (hq : t.qualifiedName = u.qualifiedName) : properScope t.scope = properScope u.scope := by
  have hlonger : ∀ scope identifier : String, scope ++ "." ++ identifier ≠ identifier := by
    intro scope identifier h
    have hlength := congrArg (fun text => text.toList.length) h
    simp only [String.toList_append, List.length_append] at hlength
    have hdot : ".".toList.length = 1 := rfl
    omega
  rw [Descriptor.qualifiedName, Descriptor.qualifiedName, hi] at hq
  cases ht : properScope t.scope with
  | none =>
    cases hu : properScope u.scope with
    | none => rfl
    | some scope =>
      rw [ht, hu] at hq
      exact absurd hq.symm (hlonger scope u.identifier)
  | some scope =>
    cases hu : properScope u.scope with
    | none =>
      rw [ht, hu] at hq
      exact absurd hq (hlonger scope u.identifier)
    | some other =>
      rw [ht, hu] at hq
      exact congrArg some ((String.append_left_inj _).mp ((String.append_left_inj _).mp hq))

/-- What a mixin tells of a descriptor. -/
structure Agree (t u : Descriptor) : Prop where
  /-- The name of the type. -/
  identifier : t.identifier = u.identifier
  /-- The namespace, where the empty one counts as none. -/
  scope : properScope t.scope = properScope u.scope
  /-- The names that can be read, in order. -/
  reads : t.readable.map (·.name) = u.readable.map (·.name)
  /-- The names that can be written, each with its type, in order. -/
  writes : (t.writable.map fun p => (p.name, p.type)) = u.writable.map fun p => (p.name, p.type)

/-- The rows are those of these data and of the support module. -/
theorem rows_eq_iff {t u : Descriptor} {support other : String} :
    rows t support = rows u other ↔ support = other ∧ Agree t u := by
  have hreads : ∀ t : Descriptor, readRows t = (t.readable.map (·.name)).flatMap getRows := by
    intro t
    rw [readRows, List.flatMap_map]
  have hwrites : ∀ t : Descriptor, writeRows t =
      (t.writable.map fun p => (p.name, p.type)).flatMap fun pair => setRows pair.1 pair.2 := by
    intro t
    rw [writeRows, List.flatMap_map]
  constructor
  · intro h
    unfold rows frontRows supportRow at h
    simp only [List.cons_append, List.nil_append, List.cons.injEq, true_and] at h
    obtain ⟨hremark, -, hsupport, hclass, -, hrest⟩ := h
    rw [String.append_right_inj, String.append_left_inj] at hremark hsupport hclass
    rw [hreads, hreads] at hrest
    obtain ⟨hread, hrest⟩ := toldApart_reads.inj hrest
    simp only [List.cons.injEq, true_and] at hrest
    rw [hwrites, hwrites] at hrest
    exact ⟨hsupport, hclass, properScope_eq_of_qualifiedName hclass hremark, hread,
      (toldApart_writes.inj hrest).1⟩
  · rintro ⟨rfl, hidentifier, hscope, hread, hwrite⟩
    have hqualified : t.qualifiedName = u.qualifiedName := by
      rw [Descriptor.qualifiedName, Descriptor.qualifiedName, hscope, hidentifier]
    have hempty : t.writable.isEmpty = u.writable.isEmpty := by
      have hmap := congrArg List.isEmpty hwrite
      simpa only [List.isEmpty_map] using hmap
    unfold rows frontRows supportRow typingRow
    rw [hreads, hreads, hwrites, hwrites, hread, hwrite, hqualified, hempty, hidentifier]

/-! ## What the rows hold -/

/-- How the row begins that begins a case. -/
def caseHead : String := "            case "

/-- A row that assigns with a cast. -/
def Casts (row : String) : Prop := ∃ name type, row = castRow name type

/-- How the rows of a mixin are laid out. -/
structure Laid (t : Descriptor) (rows : List String) : Prop where
  /-- There is the import of `cast` exactly if something is writable. -/
  imported : castImport ∈ rows ↔ ∃ p ∈ t.properties, p.writable = true
  /-- And exactly then there is a row that uses it. -/
  used : (∃ row ∈ rows, Casts row) ↔ ∃ p ∈ t.properties, p.writable = true
  /-- The cases are one for each readable property in the first method and one for each writable
  property in the second, in order, each time with the case for every other key behind them, and
  there are no others. -/
  methods : ∃ front, rows = front ++ getHead :: matchRow ::
      ((t.readable.flatMap fun p => getRows p.name) ++ otherCase :: raiseRow :: "" :: setHead ::
        matchRow :: ((t.writable.flatMap fun p => setRows p.name p.type) ++
          otherCase :: [raiseRow])) ∧
    ∀ row ∈ front, ¬ BeginsWith caseHead row

/-- Something is writable exactly if there are writable properties. -/
theorem exists_writable_iff : (∃ p ∈ t.properties, p.writable = true) ↔ t.writable ≠ [] := by
  rw [Descriptor.writable, ne_eq, List.filter_eq_nil_iff]
  simp

/-- The rows that read begin a case or return. -/
theorem beginsWith_of_mem_readRows : ∀ row ∈ readRows t,
    BeginsWith caseHead row ∨ BeginsWith "                return self." row := by
  intro row hr
  obtain ⟨p, -, hr⟩ := List.mem_flatMap.mp hr
  rcases List.mem_cons.mp hr with rfl | hr
  · exact .inl (beginsWith_append ..)
  · rcases List.mem_singleton.mp hr with rfl
    exact .inr (beginsWith_append ..)

private theorem supportRow_ne (support : String) : supportRow support ≠ castImport := by
  intro h
  have hends : " import OutOfRangeError".toList <:+ castImport.toList := by
    rw [← h, supportRow, String.toList_append, String.toList_append, ← List.append_assoc]
    exact List.suffix_append ..
  exact absurd hends (by decide +kernel)

/-- The rows in front of the methods that are the same in every mixin. -/
def fixedRows : List String := ["# Generated by indexgen. Do not edit.", "", "    __slots__ = ()"]

/-- How the rows in front of the methods begin that hold the name of the type. -/
def nameHeads : List String :=
  ["\"\"\"String-keyed member access for ", "class ",
    "    \"\"\"Mixin adding ``obj[name]`` access to "]

/-- The rows in front of the methods are fixed, import something or hold the name of the type. -/
theorem cases_of_mem_frontRows : ∀ row ∈ frontRows t support,
    row ∈ fixedRows ∨ row = typingRow t ∨ row = supportRow support ∨
      ∃ head ∈ nameHeads, BeginsWith head row := by
  have hname : ∀ head ∈ nameHeads, ∀ rest, ∃ other ∈ nameHeads, BeginsWith other (head ++ rest) :=
    fun head hh rest => ⟨head, hh, beginsWith_append ..⟩
  unfold frontRows
  simp only [List.forall_mem_cons, List.not_mem_nil, false_implies, implies_true, and_true]
  exact ⟨.inl (by decide), .inr (.inr (.inr (hname _ (by decide) _))), .inl (by decide),
    .inr (.inl trivial), .inr (.inr (.inl trivial)), .inl (by decide), .inl (by decide),
    .inr (.inr (.inr (hname _ (by decide) _))), .inr (.inr (.inr (hname _ (by decide) _))),
    .inl (by decide), .inl (by decide), .inl (by decide)⟩

/-- If nothing is written, the other rows are fixed or read. -/
theorem cases_of_mem_rows (h : t.writable = []) {row : String} (hr : row ∈ rows t support) :
    row ∈ frontRows t support ∨ row ∈ ["", getHead, setHead, matchRow, otherCase, raiseRow] ∨
      row ∈ readRows t := by
  have hwrites : writeRows t = [] := by rw [writeRows, h]; rfl
  rw [rows, hwrites, List.nil_append] at hr
  simp only [List.mem_append, List.mem_cons, List.not_mem_nil, or_false] at hr ⊢
  grind

/-- If nothing is written, no row imports `cast`. -/
theorem castImport_not_mem_rows (h : t.writable = []) : castImport ∉ rows t support := by
  intro hr
  rcases cases_of_mem_rows h hr with hr | hr | hr
  · rcases cases_of_mem_frontRows _ hr with hr | hr | hr | ⟨head, hh, hb⟩
    · exact absurd hr (by decide)
    · rw [typingRow, h] at hr
      exact absurd hr (by decide)
    · exact supportRow_ne support hr.symm
    · have hheads : ∀ head ∈ nameHeads, ¬ BeginsWith head castImport := by
        repeat refine List.forall_mem_cons.mpr ⟨not_beginsWith_ofList rfl, ?_⟩
        exact List.forall_mem_nil _
      exact hheads head hh hb
  · exact absurd hr (by decide)
  · rcases beginsWith_of_mem_readRows _ hr with hb | hb
    · exact not_beginsWith_ofList rfl hb
    · exact not_beginsWith_ofList rfl hb

/-- How a row begins that assigns. -/
def selfHead : String := "                self."

/-- If nothing is written, no row assigns with a cast. -/
theorem not_casts_of_mem_rows (h : t.writable = []) : ∀ row ∈ rows t support, ¬ Casts row := by
  rintro row hr ⟨name, type, he⟩
  have hself : BeginsWith selfHead row := he ▸ beginsWith_append ..
  rcases cases_of_mem_rows h hr with hr | hr | hr
  · rcases cases_of_mem_frontRows _ hr with hr | rfl | rfl | ⟨head, hh, hb⟩
    · have hfixed : ∀ row ∈ fixedRows, ¬ BeginsWith selfHead row := by
        repeat refine List.forall_mem_cons.mpr ⟨not_beginsWith_ofList rfl, ?_⟩
        exact List.forall_mem_nil _
      exact hfixed row hr hself
    · rw [typingRow, h] at hself
      exact not_beginsWith_ofList rfl hself
    · exact not_beginsWith (beginsWith_append "from " _) (differ_ofList ⟨rfl, rfl⟩) hself
    · have hheads : ∀ head ∈ nameHeads,
          ¬ BeginsWith selfHead head ∧ ¬ BeginsWith head selfHead := by
        repeat refine List.forall_mem_cons.mpr ⟨differ_ofList ⟨rfl, rfl⟩, ?_⟩
        exact List.forall_mem_nil _
      exact not_beginsWith hb (hheads head hh) hself
  · have hfixed : ∀ row ∈ ["", getHead, setHead, matchRow, otherCase, raiseRow],
        ¬ BeginsWith selfHead row := by
      repeat refine List.forall_mem_cons.mpr ⟨not_beginsWith_ofList rfl, ?_⟩
      exact List.forall_mem_nil _
    exact hfixed row hr hself
  · rcases beginsWith_of_mem_readRows _ hr with hb | hb
    · exact not_beginsWith hb (differ_ofList ⟨rfl, rfl⟩) hself
    · exact not_beginsWith hb (differ_ofList ⟨rfl, rfl⟩) hself

/-- In front of the methods no row begins a case. -/
theorem not_beginsWith_caseHead : ∀ row ∈ frontRows t support, ¬ BeginsWith caseHead row := by
  intro row hr
  rcases cases_of_mem_frontRows _ hr with hr | rfl | rfl | ⟨head, hh, hb⟩
  · have hfixed : ∀ row ∈ fixedRows, ¬ BeginsWith caseHead row := by
      repeat refine List.forall_mem_cons.mpr ⟨not_beginsWith_ofList rfl, ?_⟩
      exact List.forall_mem_nil _
    exact hfixed row hr
  · rw [typingRow]
    split
    · exact not_beginsWith_ofList rfl
    · exact not_beginsWith_ofList rfl
  · exact not_beginsWith (beginsWith_append "from " _) (differ_ofList ⟨rfl, rfl⟩)
  · have hheads : ∀ head ∈ nameHeads,
        ¬ BeginsWith caseHead head ∧ ¬ BeginsWith head caseHead := by
      repeat refine List.forall_mem_cons.mpr ⟨differ_ofList ⟨rfl, rfl⟩, ?_⟩
      exact List.forall_mem_nil _
    exact not_beginsWith hb (hheads head hh)

/-- The rows of a mixin are laid out so. -/
theorem laid_rows (t : Descriptor) (support : String) : Laid t (rows t support) where
  imported := by
    rw [exists_writable_iff]
    refine ⟨fun hr hw => castImport_not_mem_rows hw hr, fun hw => ?_⟩
    have htyping : typingRow t = castImport := by
      rw [typingRow, List.isEmpty_eq_false_iff.mpr hw, if_neg Bool.false_ne_true]
    simp [rows, frontRows, htyping]
  used := by
    rw [exists_writable_iff]
    refine ⟨fun ⟨row, hr, hc⟩ hw => not_casts_of_mem_rows hw row hr hc, fun hw => ?_⟩
    obtain ⟨p, others, hp⟩ := List.exists_cons_of_ne_nil hw
    refine ⟨castRow p.name p.type, ?_, p.name, p.type, rfl⟩
    simp [rows, writeRows, hp, setRows]
  methods := ⟨frontRows t support, rfl, not_beginsWith_caseHead⟩

/-- Mixins of descriptors whose texts hold no line boundary, for support modules whose names hold
none, are the same exactly if the modules are and the descriptors agree, and the lines of such a
mixin are laid out as the descriptor says. -/
theorem mixin_read_back {t u : Descriptor} {support other : String} (ht : t.OneLine)
    (hs : OneLine support) (hu : u.OneLine) (ho : OneLine other) :
    (render t support = render u other ↔ support = other ∧ Agree t u) ∧
      ∃ rows, lines (render t support).toList = rows.map lineOfRow ∧ Laid t rows := by
  have hsame : render t support = render u other ↔ rows t support = rows u other := by
    rw [render_eq_ofRows ht, render_eq_ofRows hu]
    exact ⟨ofRows_inj (oneLine_of_mem_rows ht hs) (oneLine_of_mem_rows hu ho), congrArg ofRows⟩
  refine ⟨hsame.trans rows_eq_iff, rows t support, ?_, laid_rows t support⟩
  rw [render_eq_ofRows ht]
  exact lines_ofRows (oneLine_of_mem_rows ht hs)

/-- A type whose texts look like parts of a mixin, with a name that occurs twice. -/
def impostor : Descriptor :=
  { identifier := "T"
    header := "class T"
    scope := some "N.T"
    properties := [⟨"a = cast(\"int", "x\", value)", true, true⟩, ⟨"_", "int", true, false⟩,
      ⟨"a = cast(\"int", "😀", true, true⟩] }

/-- Its mixin tells its names and types, and the module of the error. -/
theorem impostor_mixin_read_back : impostor.OneLine ∧ OneLine "a.b" ∧
    ¬ render impostor "a.b" = render impostor "a" ∧
    ¬ render impostor "a.b" =
      render { impostor with properties := impostor.properties.reverse } "a.b" := by
  have hone : impostor.OneLine := ⟨by decide, by decide, by decide, by decide, by decide⟩
  have hreverse : ({ impostor with properties := impostor.properties.reverse } :
      Descriptor).OneLine :=
    ⟨by decide, by decide, by decide, by decide, by decide⟩
  have hsupport : OneLine "a.b" := by decide
  refine ⟨hone, hsupport, fun h => ?_, fun h => ?_⟩
  · have hsame := ((mixin_read_back hone hsupport hone (by decide)).1.mp h).1
    exact absurd hsame (by decide)
  · have hagree := ((mixin_read_back hone hsupport hreverse hsupport).1.mp h).2
    exact absurd hagree.writes (by decide)

end KeyedAccess.Mixin
