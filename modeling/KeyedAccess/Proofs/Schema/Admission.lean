import KeyedAccess.Proofs.Schema.Moves
import KeyedAccess.Schema.Lexeme

/-!
# What a context admits

The lexer offers a reader only the tokens of the context of its place. A token that the reader takes
is always among them, also one that is taken only after parts have been settled: settling never
leads to a place with a wider context.
-/

namespace KeyedAccess.Schema

/-- Every keyword is in the list of keywords. -/
theorem Word.mem_all (w : Word) : w ∈ Word.all := by
  cases w with
  | modifier m => cases m with
    | access who => cases who <;> decide
    | _ => decide
  | accessor a => cases a <;> decide
  | _ => decide

/-- Every mark is in the list of marks. -/
theorem Mark.mem_all (m : Mark) : m ∈ Mark.all := by cases m <;> decide

/-- Whether a token is one of those that may stand at a place. -/
def Context.Admits (context : Context) : Token → Prop
  | .name _ => context.names = true
  | .word w => w ∈ context.words
  | .mark m => m ∈ context.marks

/-- A context holds no more than another one. -/
structure Context.Within (inner outer : Context) : Prop where
  /-- Names are admitted by the outer one if by the inner one. -/
  names : inner.names = true → outer.names = true
  /-- So are keywords. -/
  words : ∀ w ∈ inner.words, w ∈ outer.words
  /-- So are marks. -/
  marks : ∀ m ∈ inner.marks, m ∈ outer.marks

/-- A wider context admits at least the same tokens. -/
theorem Context.Within.admits {inner outer : Context} (h : inner.Within outer) {t : Token}
    (ht : inner.Admits t) : outer.Admits t := by
  cases t with
  | name n => exact h.names ht
  | word w => exact h.words w ht
  | mark m => exact h.marks m ht

/-- The comparison of contexts as a computation. -/
theorem Context.within_of_checks {inner outer : Context}
    (h : ((!inner.names || outer.names) && inner.words.all outer.words.contains &&
      inner.marks.all outer.marks.contains) = true) : inner.Within outer := by
  simp only [Bool.and_eq_true, Bool.or_eq_true, Bool.not_eq_true', List.all_eq_true,
    List.contains_iff_mem] at h
  obtain ⟨⟨hn, hw⟩, hm⟩ := h
  refine ⟨fun hi => ?_, hw, hm⟩
  rcases hn with hn | hn
  · rw [hi] at hn
    cases hn
  · exact hn

/-- Every modifier is in the list of modifiers. -/
theorem Word.mem_modifiers (m : Modifier) : Word.modifier m ∈ Word.modifiers := by
  cases m with
  | access who => cases who <;> decide
  | _ => decide

/-- After a name of a type the marks are the same, whether or not a dot stands before it. -/
theorem Spot.path_admits_mark (p : Path) {m : Mark} (h : m ∈ afterTypeName) :
    (Spot.path p).context.Admits (.mark m) := by
  obtain ⟨first, _ | ⟨second, others⟩⟩ := p <;> exact h

/-- Where a type may end, its context admits what goes on between types. -/
theorem Spot.admits_separator {spot : Spot} {type : TypeTree} (h : spot.type? = some type)
    {m : Mark} (hm : m ∈ afterQuestion) : spot.context.Admits (.mark m) := by
  cases spot with
  | path p =>
    apply Spot.path_admits_mark
    revert m
    decide
  | closed p arguments ranks =>
    revert m
    change ∀ m ∈ afterQuestion, m ∈ afterTypeBracket
    decide
  | nullable p arguments ranks => exact hm
  | start | dot | rank => simp [Spot.type?] at h

/-- Within a type, the tokens that go on are those of the context of the spot. -/
theorem TypeMove.admits {frames : List Frame} {spot : Spot} {t : Token}
    {next : List Frame × Spot} (h : TypeMove frames spot t next) : spot.context.Admits t := by
  cases h with
  | first | push => rfl
  | dot _ p | openArguments _ p | openFirstRank _ p | nullablePath _ p =>
    exact Spot.path_admits_mark p (by decide)
  | openRank =>
    change Mark.lsqb ∈ afterTypeBracket
    decide
  | nullable =>
    change Mark.question ∈ afterTypeBracket
    decide
  | rankComma => exact List.mem_cons_self
  | closeRank => exact List.mem_cons_of_mem _ List.mem_cons_self
  | nextArgument _ _ h | closeArguments _ _ h => exact Spot.admits_separator h (by decide)

/-- In front of a declaration its keywords stand, with and without modifiers before them. -/
theorem Place.between_admits (ms : List Modifier) {w : Word}
    (h : w ∈ Word.kinds ++ Word.modifiers) :
    (Place.between ms).context.Admits (.word w) := by
  cases ms with
  | nil => exact List.mem_cons_of_mem _ h
  | cons m rest => exact List.mem_cons_of_mem _ h

/-- In front of a member its keywords stand, with and without modifiers before them. -/
theorem Place.body_admits (b : Body) (ms : List Modifier) {w : Word} (h : w ∈ memberWords) :
    (Place.body b ms).context.Admits (.word w) := by
  cases ms with
  | nil => exact h
  | cons m rest =>
    change w ∈ Word.this :: (Word.kinds ++ Word.modifiers)
    rcases List.mem_cons.mp h with rfl | h
    · exact List.mem_cons_self
    · exact List.mem_cons_of_mem _ (List.mem_append_right _ h)

/-- After a name of a namespace a dot may stand, whether or not a dot stands before it. -/
theorem Place.scopeName_admits_mark (p : Path) {m : Mark} (h : m = .dot ∨ m = .semicolon) :
    (Place.scopeName p).context.Admits (.mark m) := by
  obtain ⟨first, _ | ⟨second, others⟩⟩ := p <;> rcases h with rfl | rfl <;>
    simp [Context.Admits, Place.context, afterDottedName, afterTypeName]

/-- A token that goes on with the unfinished statement is one of its context. -/
theorem Place.Moves.admits {place next : Place} {t : Token} (h : place.Moves t next) :
    place.context.Admits t := by
  cases h with
  | scope => exact List.mem_cons_self
  | scopeDot p => exact Place.scopeName_admits_mark p (.inl rfl)
  | modifier ms m =>
    exact Place.between_admits ms (List.mem_append_right _ (Word.mem_modifiers m))
  | record ms | cls ms | struct ms => exact Place.between_admits ms (by decide)
  | firstParameter owner => cases owner <;> rfl
  | typing slot h => exact h.admits
  | memberModifier b ms m =>
    exact Place.body_admits b ms (List.mem_cons_of_mem _ (Word.mem_modifiers m))
  | memberName b ms => cases ms <;> rfl
  | this b ms => exact Place.body_admits b ms List.mem_cons_self
  | accessor owner accessors a =>
    change Word.accessor a ∈ Word.accessors
    cases a <;> decide
  -- the other places have one context, in which the token can be looked up
  | _ =>
    simp only [Context.Admits, Place.context, onlyMarks, onlyName, List.mem_cons, reduceCtorEq,
      false_or, true_or, or_true]

/-- A token that is taken without settling is one of the context. -/
theorem State.Direct.admits {s next : State} {t : Token} (h : s.Direct t next) :
    s.place.context.Admits t := by
  cases h with
  | endScope items p => exact Place.scopeName_admits_mark p (.inr rfl)
  | endBody => exact List.mem_singleton_self _
  | move items h => exact h.admits

/-- A complete type can only be followed by what may also follow a shorter part of the file. -/
theorem Slot.filled_within (slot : Slot) {spot : Spot} {type : TypeTree}
    (h : spot.type? = some type) : (slot.filled type).context.Within spot.context := by
  have hs : spot.context.names = true ∧ (∀ w ∈ memberWords, w ∈ spot.context.words) := by
    cases spot with
    | path p =>
      obtain ⟨first, _ | ⟨second, others⟩⟩ := p
      · exact ⟨rfl, fun w hw => hw⟩
      · refine ⟨rfl, ?_⟩
        change ∀ w ∈ memberWords, w ∈ afterDottedName.words
        decide
    | closed p arguments ranks => exact ⟨rfl, fun w hw => hw⟩
    | nullable p arguments ranks => exact ⟨rfl, fun w hw => hw⟩
    | start | dot | rank => simp [Spot.type?] at h
  have hm : ∀ m ∈ afterQuestion, m ∈ spot.context.marks := fun m hm =>
    Spot.admits_separator h hm
  have hfilled : (∀ w ∈ (slot.filled type).context.words, w ∈ memberWords) ∧
      ∀ m ∈ (slot.filled type).context.marks, m ∈ afterQuestion := by
    cases slot <;> simp only [Slot.filled, Place.context, onlyMarks] <;> decide
  exact ⟨fun _ => hs.1, fun w hw => hs.2 w (hfilled.1 w hw), fun m h => hm m (hfilled.2 m h)⟩

/-- Settling leads to a place whose context is no wider. -/
theorem State.Settles.within {s settled : State} (h : s.Settles settled) :
    settled.place.context.Within s.place.context := by
  cases h with
  | scope items p =>
    obtain ⟨first, _ | ⟨second, others⟩⟩ := p <;> exact Context.within_of_checks rfl
  | type items slot h => exact slot.filled_within h
  | _ => exact Context.within_of_checks rfl

/-- A token that is taken after settling is one of the context before it. -/
theorem State.Steps.admits {s next : State} {t : Token} (h : s.Steps t next) :
    s.place.context.Admits t := by
  induction h with
  | direct h => exact h.admits
  | settle h _ ih => exact h.within.admits ih

/-- A token that a reader takes is one of the context of its place. -/
theorem State.admits_of_step {s next : State} {t : Token} (h : s.step t = some next) :
    s.place.context.Admits t := (State.steps_of_eq_some h).admits

end KeyedAccess.Schema
