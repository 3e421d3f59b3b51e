import KeyedAccess.Proofs.Schema.Meaning
import KeyedAccess.Proofs.Schema.SyntaxTree
import Mathlib.Data.List.Nodup

/-!
# Parts of syntax trees

What the values of a derivation stand for among the children of their nodes, which accessor blocks
they have, and how parts are selected from a list by their sort.
-/

namespace KeyedAccess.Schema

/-! ## What values stand for -/

/-- What a statement stands for. -/
def Item.part : Item → Part
  | .scope p _ => .scope p.text
  | .type d => .declaration (d.meaning none)

/-- What the node of a rule stands for. -/
def Rule.part : (r : Rule) → r.Value → Part
  | .start, f => .items (f.map Item.part)
  | .item, statement => statement.part
  | .scope, (p, _) => .scope p.text
  | .dottedName, p => .text p.text
  | .declaration, d => .declaration (d.meaning none)
  | .kind, k => .kind k.text
  | .modifier, m => .modifier m.text
  | .parameters, ps => .parameters (ps.map fun p => (p.name, p.type.text))
  | .parameter, p => .parameter p.name p.type.text
  | .bases, (first, others) => .bases ((first :: others).map TypeTree.text)
  | .member, m => .member m.meaning
  | .accessors, block => .accessors (block.map (·.kind.text))
  | .accessor, a => .text a.kind.text
  | .type, tree => .type tree.text
  | .typeName, p => .text p.text
  | .typeArgs, (first, others) => .text ("<" ++ textOfTypes (first :: others) ++ ">")
  | .arraySuffix, commas => .text (rankText commas)
  | .nullable, _ => .text "?"

/-- What the children stand for that a right-hand side contributes to its node. -/
def Form.parts (keep : Bool) : (s : Form) → s.Value → List Part
  | .token t, v => if t.kept keep then [.token (t.token v)] else []
  | .choice options, i => if keep then [.token (.word (options.get i))] else []
  | .rule r, v => [r.part v]
  | .seq a b, v => a.parts keep v.1 ++ b.parts keep v.2
  | .either a _, .inl v => a.parts keep v
  | .either _ b, .inr v => b.parts keep v
  | .optional a, none => if a.leavesGap then [.gap] else []
  | .optional a, some v => a.parts keep v
  | .many a, vs => vs.flatMap (a.parts keep)

/-- The accessor blocks of what a rule describes. -/
def Rule.blocks : (r : Rule) → r.Value → List (List AccessorTree)
  | .start, f => blocksOfFile f
  | .item, statement => blocksOfFile [statement]
  | .declaration, d => d.members.filterMap (·.form.block?)
  | .member, m => m.form.block?.toList
  | .accessors, block => [block]
  | _, _ => []

/-- The accessor blocks of what the parts of a right-hand side say. -/
def Form.blocks : (s : Form) → s.Value → List (List AccessorTree)
  | .token _, _ => []
  | .choice _, _ => []
  | .rule r, v => r.blocks v
  | .seq a b, v => a.blocks v.1 ++ b.blocks v.2
  | .either a _, .inl v => a.blocks v
  | .either _ b, .inr v => b.blocks v
  | .optional _, none => []
  | .optional a, some v => a.blocks v
  | .many a, vs => vs.flatMap a.blocks

/-- The alternative that a value takes. -/
def Form.branch : (s : Form) → s.Value → Nat
  | .either _ b, .inr v => b.branch v + 1
  | _, _ => 0

/-- It is the alternative of its derivation. -/
theorem Derivation.Gives.branch {s : Form} {d : Derivation s} {v : s.Value} (h : d.Gives v) :
    d.branch = s.branch v := by
  induction d with
  | right d ih =>
    obtain ⟨w, hw, rfl⟩ := h
    exact congrArg (· + 1) (ih hw)
  | left d ih =>
    obtain ⟨w, hw, rfl⟩ := h
    rfl
  | _ => rfl

/-- A result unless one of some accessor blocks is not sound. -/
def unlessFaulty {α : Type} (blocks : List (List AccessorTree)) (result : α) : Except Failure α :=
  match blocks.findSome? blockFault with
  | some e => .error (.invalid e.message)
  | none => .ok result

section

variable {α β : Type} {blocks others : List (List AccessorTree)} {a : α} {b : β}

/-- What cannot fail behind a result keeps its faults. -/
theorem unlessFaulty_bind {f : α → Except Failure β} (h : f a = .ok b) :
    unlessFaulty blocks a >>= f = unlessFaulty blocks b := by
  unfold unlessFaulty
  cases blocks.findSome? blockFault with
  | some e => rfl
  | none => exact h

/-- The faults of two results follow one another. -/
theorem unlessFaulty_append {γ : Type} {join : α → β → γ} :
    (do return join (← unlessFaulty blocks a) (← unlessFaulty others b)) =
      unlessFaulty (blocks ++ others) (join a b) := by
  unfold unlessFaulty
  rw [List.findSome?_append]
  cases blocks.findSome? blockFault with
  | some e => rfl
  | none => cases others.findSome? blockFault <;> rfl

end

/-! ## Blocks of nodes -/

/-- Whether what a rule describes has no accessor blocks. -/
def Rule.blockFree : Rule → Bool
  | .start | .item | .declaration | .member | .accessors => false
  | _ => true

/-- Whether the parts of a right-hand side have no accessor blocks. -/
def Form.blockFree : Form → Bool
  | .token _ | .choice _ => true
  | .rule r => r.blockFree
  | .seq a b | .either a b => a.blockFree && b.blockFree
  | .optional a | .many a => a.blockFree

/-- Then they have none. -/
theorem Form.blocks_eq_nil {s : Form} (hs : s.blockFree = true) (v : s.Value) :
    s.blocks v = [] := by
  induction s with
  | token | choice => rfl
  | rule r => cases r <;> first | rfl | cases hs
  | seq a b iha ihb =>
    obtain ⟨ha, hb⟩ := Bool.and_eq_true_iff.mp hs
    rw [Form.blocks, iha ha, ihb hb, List.append_nil]
  | either a b iha ihb =>
    obtain ⟨ha, hb⟩ := Bool.and_eq_true_iff.mp hs
    cases v with
    | inl v => exact iha ha v
    | inr v => exact ihb hb v
  | optional a ih =>
    cases v with
    | none => rfl
    | some v => exact ih hs v
  | many a ih => exact List.flatMap_eq_nil_iff.mpr fun v _ => ih hs v

/-- In front of other parts they add none. -/
theorem Form.blocks_seq {a b : Form} (ha : a.blockFree = true) (v : (Form.seq a b).Value) :
    (Form.seq a b).blocks v = b.blocks v.2 := by
  rw [Form.blocks, blocks_eq_nil ha, List.nil_append]

/-- The blocks of members follow one another. -/
theorem blocks_many_member (members : List MemberTree) :
    (Form.many (.rule .member)).blocks members = members.filterMap (·.form.block?) :=
  (List.filterMap_eq_flatMap_toList _ _).symm

/-- So do those of statements. -/
theorem blocks_many_item (f : File) : (Form.many (.rule .item)).blocks f = blocksOfFile f := by
  have hitem : ∀ statement : Item, Rule.item.blocks statement = blocksOfFile [statement] :=
    fun _ => rfl
  simp only [Form.blocks, hitem, blocksOfFile, List.flatMap_cons, List.flatMap_nil, List.append_nil]

/-- Only accessor blocks add a block to those of their parts. -/
theorem Rule.blocks_build {r : Rule} (hr : r ≠ .accessors) (w : r.body.Value) :
    r.blocks (r.build w) = r.body.blocks w := by
  have hfree : ∀ {s : Form}, s.blockFree = true → ∀ v : s.Value, s.blocks v = [] :=
    Form.blocks_eq_nil
  cases r with
  | accessors => exact absurd rfl hr
  | start => exact (blocks_many_item w).symm
  | item =>
    rcases w with s | d
    · rfl
    · exact List.append_nil _
  | declaration =>
    have hbody : Rule.declaration.body.blocks w =
        (Form.many (.rule .member)).blocks w.2.2.2.2.2.2.1 :=
      (Form.blocks_seq rfl _).trans <| (Form.blocks_seq rfl _).trans <|
        (Form.blocks_seq rfl _).trans <| (Form.blocks_seq rfl _).trans <|
        (Form.blocks_seq rfl _).trans <| (Form.blocks_seq rfl _).trans <| List.append_nil _
    rw [hbody, blocks_many_member]
    rfl
  | member =>
    rcases w with v | v | v | v
    · exact ((Form.blocks_seq rfl v).trans <| (Form.blocks_seq rfl _).trans <|
        (Form.blocks_seq rfl _).trans <| Form.blocks_seq rfl _).symm
    · exact ((Form.blocks_seq rfl v).trans (hfree rfl _)).symm
    · exact ((Form.blocks_seq rfl v).trans <| (Form.blocks_seq rfl _).trans <|
        (Form.blocks_seq rfl _).trans <| (Form.blocks_seq rfl _).trans <|
        (Form.blocks_seq rfl _).trans <| (Form.blocks_seq rfl _).trans <|
        Form.blocks_seq rfl _).symm
    · exact ((Form.blocks_seq rfl v).trans (hfree rfl _)).symm
  | _ => exact (hfree rfl w).symm

/-! ## Selecting parts -/

section

variable {α : Type} (keep : Bool)

/-- Parts of one rule, one after the other. -/
theorem parts_many (r : Rule) (vs : List r.Value) :
    (Form.many (.rule r)).parts keep vs = vs.map r.part := List.map_eq_flatMap.symm

/-- Parts of one rule with marks between them, which are left out. -/
theorem parts_list (m : Mark) (r : Rule) (v : r.Value × List (Unit × r.Value)) :
    (Form.list m (.rule r)).parts false v = (listOf v).map r.part := by
  obtain ⟨first, others⟩ := v
  simp [Form.parts, listOf, Terminal.kept, ← List.map_eq_flatMap]

/-- Names with dots between them. -/
theorem parts_names (v : String × List (Unit × String)) :
    (Form.list .dot .name).parts false v = (listOf v).map fun name => .token (.name name) := by
  obtain ⟨first, others⟩ := v
  simp [Form.parts, listOf, Terminal.kept, Terminal.token, ← List.map_eq_flatMap]

end

/-- Texts that can all be found are found together. -/
theorem textsOf_map {α : Type} {select : Part → Option String} {part : α → Part} {text : α → String}
    (h : ∀ a, select (part a) = some (text a)) (values : List α) :
    textsOf select (values.map part) = .ok (values.map text) := by
  have hfind : (values.map part).mapM select = some (values.map text) := by
    rw [List.mapM_map]
    exact (congrArg (List.mapM · values) (funext h)).trans List.mapM_pure
  rw [textsOf, hfind]

/-- Parts of another sort are not found. -/
theorem filterMap_map_eq_nil {α β : Type} {select : Part → Option β} (part : α → Part)
    (h : ∀ a, select (part a) = none) (values : List α) :
    (values.map part).filterMap select = [] := by
  rw [List.filterMap_map, List.filterMap_eq_nil_iff]
  exact fun a _ => h a

/-- Parts of the sort are all found. -/
theorem filterMap_map_eq_map {α β : Type} {select : Part → Option β} (part : α → Part)
    (value : α → β) (h : ∀ a, select (part a) = some (value a)) (values : List α) :
    (values.map part).filterMap select = values.map value := by
  rw [List.filterMap_map, ← List.filterMap_eq_map]
  exact congrArg (List.filterMap · values) (funext h)

section

variable {β : Type} {select : Part → Option β} {parts : List Part}

/-- One part of a sort is the only one. -/
theorem findOne_eq_some {value : β} (h : parts.filterMap select = [value]) :
    findOne select parts = .ok (some value) := by
  rw [findOne, h]

/-- No part of a sort need be there. -/
theorem findOne_eq_none (h : parts.filterMap select = []) : findOne select parts = .ok none := by
  rw [findOne, h]

/-- At most one part of a sort is found, if it is there. -/
theorem findOne_eq_toList {value : Option β} (h : parts.filterMap select = value.toList) :
    findOne select parts = .ok value := by
  cases value with
  | none => exact findOne_eq_none h
  | some value => exact findOne_eq_some h

/-- One part of a sort is found where it is required. -/
theorem required_eq_ok {value : β} (h : parts.filterMap select = [value]) :
    required select parts = .ok value := by
  rw [required, findOne_eq_some h]
  rfl

end

/-! ## Texts of parts -/

/-- The texts of modifiers say who may use a member. -/
@[simp] theorem accessibilityOf_map (ms : List Modifier) :
    accessibilityOf (ms.map Modifier.text) = accessibility ms := by
  rw [accessibilityOf, accessibility, List.findSome?_map]
  congr 2
  funext m
  cases m with
  | access who => cases who <;> rfl
  | _ => rfl

/-- Modifiers have different texts. -/
theorem Modifier.text_injective : Function.Injective Modifier.text := by
  have hall : ∀ m ∈ Modifier.all, ∀ m' ∈ Modifier.all, m.text = m'.text → m = m' := by decide
  have hmem : ∀ m : Modifier, m ∈ Modifier.all := fun m => by
    cases m with
    | access who => cases who <;> decide
    | _ => decide
  exact fun m m' h => hall m (hmem m) m' (hmem m') h

/-- Accessors have different texts. -/
theorem AccessorKind.text_injective : Function.Injective AccessorKind.text := by
  intro a b h
  cases a <;> cases b <;> first | rfl | (revert h; decide)

/-- A text is one of several exactly if its value is. -/
theorem contains_map_text {α : Type} [BEq α] [LawfulBEq α] {text : α → String}
    (ht : Function.Injective text) (values : List α) (a : α) :
    (values.map text).contains (text a) = values.contains a := by
  rw [Bool.eq_iff_iff, List.contains_iff_mem, List.contains_iff_mem, List.mem_map_of_injective ht]

/-- A text is that of an accessor of a block exactly if the accessor is in the block. -/
@[simp] theorem contains_kind_text (block : List AccessorTree) (a : AccessorKind) :
    (block.map (·.kind.text)).contains a.text = (block.map (·.kind)).contains a := by
  rw [← contains_map_text AccessorKind.text_injective, List.map_map]
  rfl

/-- The texts of accessors say how a value is given. -/
@[simp] theorem setterFrom_map (block : List AccessorTree) :
    setterFrom (block.map (·.kind.text)) = setterOf block := by
  have hset : (block.map (·.kind.text)).contains "set" = _ := contains_kind_text block .set
  have hinit : (block.map (·.kind.text)).contains "init" = _ := contains_kind_text block .start
  simp only [setterFrom, setterOf, hset, hinit]

/-- The texts of accessors say what is wrong with a block. -/
@[simp] theorem blockFrom_map (block : List AccessorTree) :
    blockFrom (block.map (·.kind.text)) =
      unlessFaulty [block] (.accessors (block.map (·.kind.text))) := by
  have hset : (block.map (·.kind.text)).contains "set" = _ := contains_kind_text block .set
  have hinit : (block.map (·.kind.text)).contains "init" = _ := contains_kind_text block .start
  have hempty : (block.map (·.kind.text)).isEmpty = (block.map (·.kind)).isEmpty := by
    cases block <;> rfl
  have htexts : block.map (·.kind.text) = (block.map (·.kind)).map AccessorKind.text := by
    rw [List.map_map]
    rfl
  have hrepeated : hasRepetition (block.map (·.kind.text)) =
      hasRepetition (block.map (·.kind)) := by
    rw [Bool.eq_iff_iff, ← Bool.not_eq_false, ← Bool.not_eq_false, hasRepetition_eq_false_iff,
      hasRepetition_eq_false_iff, htexts, List.nodup_map_iff AccessorKind.text_injective]
  have hmessage : (MeaningError.repeatedAccessor (block.map (·.kind))).message =
      "Repeated accessor in \x7b " ++ "; ".intercalate (block.map (·.kind.text)) ++ " \x7d" := by
    rw [htexts]
    rfl
  simp only [blockFrom, unlessFaulty, List.findSome?_cons, List.findSome?_nil, blockFault, hset,
    hinit, hempty, hrepeated]
  cases (block.map (·.kind)).isEmpty with
  | true => rfl
  | false =>
    cases hasRepetition (block.map (·.kind)) with
    | true =>
      rw [← hmessage]
      rfl
    | false =>
      cases (block.map (·.kind)).contains .set && (block.map (·.kind)).contains .start <;> rfl

/-- The text of types with commas between them. -/
@[simp] theorem intercalate_text (types : List TypeTree) :
    ", ".intercalate (types.map TypeTree.text) = textOfTypes types := by
  induction types with
  | nil => rfl
  | cons first others ih =>
    cases others with
    | nil => simp [textOfTypes]
    | cons second others =>
      rw [textOfTypes, ← ih]
      simp [String.append_assoc]

end KeyedAccess.Schema
