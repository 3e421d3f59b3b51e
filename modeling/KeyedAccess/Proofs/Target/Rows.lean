import KeyedAccess.Proofs.Target.Clause
import Mathlib.Data.List.Basic

/-!
# Texts as rows

A generated text is a list of rows, each ended by a line feed. If no row holds a line boundary, the
rows are the lines of the text, so the text determines them. Clauses of such rows stand in the text
as their rows, each behind the margin, and a list of clauses is determined by its rows and the row
that ends it.
-/

namespace KeyedAccess.Text

/-! ## Rows and lines -/

/-- A text without a line boundary. -/
def OneLine (text : String) : Prop := ∀ c ∈ text.toList, isLineBoundary c = false

instance (text : String) : Decidable (OneLine text) :=
  List.decidableBAll (fun c => isLineBoundary c = false) text.toList

/-- A text is checked by its characters. -/
theorem oneLine_ofList {chars : List Char} (h : ∀ c ∈ chars, isLineBoundary c = false) :
    OneLine (String.ofList chars) := by
  intro c hc
  rw [String.toList_ofList] at hc
  exact h c hc

/-- Two such texts, one behind the other. -/
theorem OneLine.append {first second : String} (h : OneLine first) (hs : OneLine second) :
    OneLine (first ++ second) := by
  intro c hc
  rw [String.toList_append] at hc
  exact (List.mem_append.mp hc).elim (h c) (hs c)

/-- The text of rows. -/
def ofRows : List String → String
  | [] => ""
  | row :: rows => row ++ "\n" ++ ofRows rows

/-- Rows one list behind the other. -/
@[simp] theorem ofRows_append (rows others : List String) :
    ofRows (rows ++ others) = ofRows rows ++ ofRows others := by
  induction rows with
  | nil => exact String.empty_append.symm
  | cons row rows ih =>
    rw [List.cons_append, ofRows, ofRows, ih, String.append_assoc, String.append_assoc,
      String.append_assoc]

/-- A row as a line of a text. -/
def lineOfRow (row : String) : List Char := row.toList ++ ['\n']

@[simp] private theorem toList_ofRows (rows : List String) :
    (ofRows rows).toList = rows.flatMap lineOfRow := by
  induction rows with
  | nil => rfl
  | cons row rows ih => rw [ofRows, String.toList_append, String.toList_append, ih]; rfl

/-- Rows without line boundaries are the lines of their text. -/
theorem lines_ofRows {rows : List String} (h : ∀ row ∈ rows, OneLine row) :
    lines (ofRows rows).toList = rows.map lineOfRow := by
  rw [toList_ofRows]
  induction rows with
  | nil => rfl
  | cons row rows ih =>
    rw [List.flatMap_cons, lineOfRow, List.append_assoc, List.singleton_append,
      lines_append (h row List.mem_cons_self), ih fun r hr => h r (List.mem_cons_of_mem _ hr)]
    rfl

/-- The text determines such rows. -/
theorem ofRows_inj {rows others : List String} (h : ∀ row ∈ rows, OneLine row)
    (ho : ∀ row ∈ others, OneLine row) (he : ofRows rows = ofRows others) : rows = others := by
  have hlines : rows.map lineOfRow = others.map lineOfRow := by
    rw [← lines_ofRows h, ← lines_ofRows ho, he]
  refine (List.map_inj_right fun first second hrow => ?_).mp hlines
  exact String.toList_inj.mp (List.append_cancel_right hrow)

/-- A text that is written twice in a row is determined by the row. -/
theorem eq_of_twice {name other middle last : String}
    (h : name ++ (middle ++ (name ++ last)) = other ++ (middle ++ (other ++ last))) :
    name = other := by
  have hchars := congrArg String.toList h
  simp only [String.toList_append] at hchars
  have hlength := congrArg List.length hchars
  simp only [List.length_append] at hlength
  exact String.toList_inj.mp (List.append_inj_left hchars (by omega))

/-! ## How a row begins -/

/-- A row that begins with a text. -/
def BeginsWith (head row : String) : Prop := head.toList <+: row.toList

instance (head row : String) : Decidable (BeginsWith head row) :=
  inferInstanceAs (Decidable (head.toList <+: row.toList))

/-- What a text begins with. -/
theorem beginsWith_append (head rest : String) : BeginsWith head (head ++ rest) := by
  rw [BeginsWith, String.toList_append]
  exact List.prefix_append ..

/-- How a row begins is checked by its characters. -/
theorem not_beginsWith_ofList {head row : List Char} (h : head.isPrefixOf row = false) :
    ¬ BeginsWith (String.ofList head) (String.ofList row) := by
  rw [BeginsWith, String.toList_ofList, String.toList_ofList, ← List.isPrefixOf_iff_prefix, h]
  exact Bool.false_ne_true

/-- So is that neither of two texts begins with the other. -/
theorem differ_ofList {head other : List Char}
    (h : head.isPrefixOf other = false ∧ other.isPrefixOf head = false) :
    ¬ BeginsWith (String.ofList head) (String.ofList other) ∧
      ¬ BeginsWith (String.ofList other) (String.ofList head) :=
  ⟨not_beginsWith_ofList h.1, not_beginsWith_ofList h.2⟩

/-- Of two texts that a row begins with one begins with the other. -/
theorem not_beginsWith {head other row : String} (ho : BeginsWith other row)
    (h : ¬ BeginsWith head other ∧ ¬ BeginsWith other head) : ¬ BeginsWith head row :=
  fun hr => (List.prefix_or_prefix_of_prefix hr ho).elim h.1 h.2

/-! ## Blocks of rows -/

/-- Blocks that are told apart one behind the other, up to a row that ends them. -/
structure ToldApart {α : Type} (block : α → List String) (stop : String) : Prop where
  /-- A block determines what it is written for. -/
  same : ∀ a b, block a = block b → a = b
  /-- Blocks have the same number of rows. -/
  length : ∀ a b, (block a).length = (block b).length
  /-- No block begins as the rows behind the blocks do. -/
  begins : ∀ a, ∃ first rest, block a = first :: rest ∧ first ≠ stop

/-- Blocks with such a row behind them determine what they are written for, and what follows. -/
theorem ToldApart.inj {α : Type} {block : α → List String} {stop : String}
    (h : ToldApart block stop) {items others : List α} {rest behind : List String}
    (he : items.flatMap block ++ stop :: rest = others.flatMap block ++ stop :: behind) :
    items = others ∧ rest = behind := by
  have hstop : ∀ item more after, block item ++ more ≠ stop :: after := by
    intro item more after happend
    obtain ⟨first, others, hblock, hne⟩ := h.begins item
    rw [hblock, List.cons_append] at happend
    exact hne (List.cons.inj happend).1
  induction items generalizing others with
  | nil =>
    cases others with
    | nil => exact ⟨rfl, (List.cons.inj he).2⟩
    | cons other others =>
      rw [List.flatMap_cons, List.append_assoc] at he
      exact absurd he.symm (hstop other _ _)
  | cons item items ih =>
    cases others with
    | nil =>
      rw [List.flatMap_cons, List.append_assoc] at he
      exact absurd he (hstop item _ _)
    | cons other others =>
      rw [List.flatMap_cons, List.flatMap_cons, List.append_assoc, List.append_assoc] at he
      obtain ⟨hfirst, hmore⟩ := List.append_inj he (h.length item other)
      obtain ⟨rfl, rfl⟩ := ih hmore
      exact ⟨congrArg (· :: items) (h.same item other hfirst), rfl⟩

/-! ## Clauses as rows -/

/-- Rows behind a margin. -/
def shifted (margin : String) (rows : List String) : List String := rows.map (margin ++ ·)

/-- A row that may stand in a clause: it has no line boundary and is not blank. -/
structure Solid (row : String) : Prop where
  /-- It has no line boundary. -/
  oneLine : OneLine row
  /-- It is not blank. -/
  notBlank : row.toList.all isBlank = false

/-- A row that holds a character that is not blank is not blank. -/
theorem Solid.of_mem {row : String} (h : OneLine row) {c : Char} (hc : c ∈ row.toList)
    (hb : isBlank c = false) : Solid row :=
  ⟨h, List.all_eq_false.mpr ⟨c, hc, by rw [hb]; exact Bool.false_ne_true⟩⟩

/-- Such a row is not empty. -/
theorem Solid.ne_nil {row : String} (h : Solid row) : row.toList ≠ [] := by
  intro he
  have hb := h.notBlank
  rw [he] at hb
  cases hb

private theorem intercalate_ne_nil {rows more : List String} {row : String} (h : rows = row :: more)
    (hr : row.toList ≠ []) : ("\n".intercalate rows).toList ≠ [] := by
  subst h
  rw [String.toList_intercalate, List.map_cons]
  cases more with
  | nil => simpa using hr
  | cons next more => simp [List.intercalate_cons_cons]

/-- Each row of a text stands behind the margin. -/
theorem indent_intercalate {margin : String} {rows : List String} (hne : rows ≠ [])
    (h : ∀ row ∈ rows, Solid row) :
    indentChars margin.toList ("\n".intercalate rows).toList ++ ['\n'] =
      (ofRows (shifted margin rows)).toList := by
  rw [String.toList_intercalate, toList_ofRows]
  induction rows with
  | nil => exact absurd rfl hne
  | cons row rows ih =>
    obtain ⟨honeLine, hnotBlank⟩ := h row List.mem_cons_self
    cases rows with
    | nil =>
      have hlast : indentChars margin.toList row.toList = margin.toList ++ row.toList :=
        indentChars_line honeLine hnotBlank
      simp [shifted, lineOfRow, hlast]
    | cons next rows =>
      have hrest := ih (List.cons_ne_nil _ _) fun r hr => h r (List.mem_cons_of_mem _ hr)
      have hfirst : ∀ rest, indentChars margin.toList (row.toList ++ '\n' :: rest) =
          margin.toList ++ row.toList ++ '\n' :: indentChars margin.toList rest :=
        indentChars_append honeLine hnotBlank
      rw [List.map_cons, List.map_cons, List.intercalate_cons_cons, ← List.map_cons]
      rw [show "\n".toList = ['\n'] from rfl] at hrest ⊢
      rw [List.append_assoc, List.singleton_append, hfirst, List.append_assoc, List.cons_append,
        hrest]
      simp [shifted, lineOfRow]

/-- Only the empty text is indented to nothing. -/
theorem indentChars_ne_nil {margin text : List Char} (h : text ≠ []) :
    indentChars margin text ≠ [] := by
  intro he
  refine h ?_
  rw [← flatten_lines text, List.flatten_eq_nil_iff]
  intro line hl
  have hpart := List.flatMap_eq_nil_iff.mp he line hl
  split at hpart
  · exact hpart
  · exact (List.append_eq_nil_iff.mp hpart).2

end KeyedAccess.Text

namespace KeyedAccess

open Text

/-- A descriptor of which no text holds a line boundary. -/
structure Descriptor.OneLine (t : Descriptor) : Prop where
  /-- The name of the type holds none. -/
  identifier : Text.OneLine t.identifier
  /-- Nor does its introduction. -/
  header : Text.OneLine t.header
  /-- Nor does its scope, if there is one. -/
  scope : ∀ scope ∈ t.scope, Text.OneLine scope
  /-- Nor does a name. -/
  names : ∀ p ∈ t.properties, Text.OneLine p.name
  /-- Nor does a type. -/
  types : ∀ p ∈ t.properties, Text.OneLine p.type

/-- The readable properties of such a descriptor. -/
theorem Descriptor.OneLine.readable {t : Descriptor} (h : t.OneLine) :
    ∀ p ∈ t.readable, Text.OneLine p.name :=
  fun p hp => h.names p (List.mem_filter.mp hp).1

/-- The writable properties of such a descriptor. -/
theorem Descriptor.OneLine.writable {t : Descriptor} (h : t.OneLine) :
    ∀ p ∈ t.writable, Text.OneLine p.name ∧ Text.OneLine p.type :=
  fun p hp => ⟨h.names p (List.mem_filter.mp hp).1, h.types p (List.mem_filter.mp hp).1⟩

/-- A scope that has a text is that of the descriptor. -/
theorem properScope_eq_some_iff {scope : Option String} {name : String} :
    properScope scope = some name ↔ scope = some name ∧ name ≠ "" := by
  rw [properScope, Option.filter_eq_some_iff, bne_iff_ne]

/-- Clauses that are written in rows stand in the text as these rows, behind the margin. -/
theorem clauseLines_eq_ofRows {α : Type} {items : List α} {rows : α → List String}
    (hne : ∀ a ∈ items, rows a ≠ []) (h : ∀ a ∈ items, ∀ row ∈ rows a, Solid row)
    (key : α → String) (margin : String) :
    clauseLines (items.map fun a => ⟨key a, "\n".intercalate (rows a)⟩) margin =
      ofRows (items.flatMap fun a => shifted margin (rows a)) := by
  have hindent : ∀ a ∈ items,
      indentChars margin.toList ("\n".intercalate (rows a)).toList ≠ [] := by
    intro a ha
    obtain ⟨row, more, hrows⟩ := List.exists_cons_of_ne_nil (hne a ha)
    refine indentChars_ne_nil (intercalate_ne_nil hrows ?_)
    exact (h a ha row (hrows ▸ List.mem_cons_self)).ne_nil
  have hclauses : ∀ clause ∈ items.map fun a => (⟨key a, "\n".intercalate (rows a)⟩ : Clause),
      indentChars margin.toList clause.text.toList ≠ [] := by
    intro clause hc
    obtain ⟨a, ha, rfl⟩ := List.mem_map.mp hc
    exact hindent a ha
  refine String.toList_inj.mp ?_
  rw [toList_clauseLines hclauses, List.flatMap_map, toList_ofRows, List.flatMap_assoc]
  refine List.flatMap_congr fun a ha => ?_
  rw [← toList_ofRows]
  exact indent_intercalate (hne a ha) (h a ha)

end KeyedAccess
