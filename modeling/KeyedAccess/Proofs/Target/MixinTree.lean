import KeyedAccess.Proofs.Script.Reading
import KeyedAccess.Proofs.Target.MixinText

/-!
# The tree of a mixin

What the grammar reads in the text of a mixin: a class with two methods, each of which is a choice
by the key with one case for each property and a last one that raises the error.
-/

namespace KeyedAccess.Mixin

open Script Text

/-- A descriptor whose names can be used in a mixin. -/
structure Free (t : Descriptor) : Prop where
  /-- No name that can be read is reserved. -/
  readable : ∀ p ∈ t.readable, p.name ∉ reservedWords
  /-- Neither is one that can be written. -/
  writable : ∀ p ∈ t.writable, p.name ∉ reservedWords

/-- The statement that reads a property. -/
def readStatement (name : String) : Statement :=
  .return (some (.member (.name "self") (nameOf name.toList)))

/-- The statement that assigns a property. -/
def writeStatement (name type : String) : Statement :=
  .assign [.member (.name "self") (nameOf name.toList)]
    (.call (.name "cast") [.constant (.text (type.toList.flatMap units) false), .name "value"] [])

/-- The statement that raises the error. -/
def raiseStatement : Statement :=
  .raise (some (.call (.name "OutOfRangeError") [.name "name"] [])) none

/-- The case for a key. -/
def keyCase (key : String) (statement : Statement) : Script.Case :=
  .mk (.value (.constant (.text (key.toList.flatMap units) false))) none [statement]

/-- The last case. -/
def defaultCase : Script.Case := .mk (.capture none) none [raiseStatement]

/-- A parameter of a method. -/
def parameter (name : String) (type : Option Expr) : Script.Parameter :=
  .mk .either (some name) type none

/-- A method over the key. -/
def methodStatement (name : String) (parameters : List Script.Parameter) (result : Expr)
    (cases : List Script.Case) : Statement :=
  .function false [] name (parameter "self" none :: parameter "name" (some (.name "str")) ::
    parameters) (some result) [.match (.name "name") (cases ++ [defaultCase])]

/-- The method that reads. -/
def getMethod (t : Descriptor) : Statement :=
  methodStatement "__getitem__" [] (.name "Any")
    (t.readable.map fun p => keyCase p.name (readStatement p.name))

/-- The method that assigns. -/
def setMethod (t : Descriptor) : Statement :=
  methodStatement "__setitem__" [parameter "value" (some (.name "Any"))] (.constant .none)
    (t.writable.map fun p => keyCase p.name (writeStatement p.name p.type))

/-- A remark as a statement. -/
def remarkStatement (text : List Char) : Statement :=
  .expression (.constant (.text (text.map Char.toNat) false))

/-- The statement that keeps the class without attributes of its own. -/
def slotsStatement : Statement := .assign [.name "__slots__"] (.tuple [])

/-- The class of a mixin. -/
def classStatement (t : Descriptor) : Statement :=
  .class [] (nameOf (className t.identifier).toList) [] []
    [remarkStatement (classRemark t), slotsStatement, getMethod t, setMethod t]

/-- What a mixin imports for the annotations and assignments. -/
def typingStatement (writes : Bool) : Statement :=
  .importFrom 0 (some "typing")
    (some (⟨"Any", none⟩ :: if writes then [⟨"cast", none⟩] else []))

/-- What a mixin imports for the error. -/
def supportStatement : Statement :=
  .importFrom 0 (some "indexgen.runtime") (some [⟨"OutOfRangeError", none⟩])

/-- The statements of a mixin. -/
def moduleStatements (t : Descriptor) : List Statement :=
  [remarkStatement (moduleRemark t), typingStatement !t.writable.isEmpty, supportStatement,
    classStatement t]

/-- The readers for blocks within blocks, with nesting of expressions and patterns up to a depth
and of blocks up to a level. -/
def readersBelow (depth level : Nat) : Readers :=
  let grammar := grammarWithin depth
  let pattern := patternWithin grammar depth
  ⟨grammar, pattern, linesWithin grammar pattern level⟩

section Blocks

variable {depth level : Nat}

private theorem simpleStatement_readLine {name : String} (h : name ∉ reservedWords)
    (rest : List Token) :
    simpleStatement (readersBelow (depth + 3) level) ((readLine name).tokens ++ rest) =
      .ok (readStatement name, .newline :: rest) := by
  rw [readLine, Lexeme.ofName_of_not_mem h]
  rfl

private theorem simpleStatement_raiseLine (rest : List Token) :
    simpleStatement (readersBelow (depth + 3) level) (raiseLine.tokens ++ rest) =
      .ok (raiseStatement, .newline :: rest) := rfl

private theorem simpleStatement_slotsLine (rest : List Token) :
    simpleStatement (readersBelow (depth + 3) level) (slotsLine.tokens ++ rest) =
      .ok (slotsStatement, .newline :: rest) := rfl

private theorem simpleStatement_supportLine (rest : List Token) :
    simpleStatement (readersBelow (depth + 3) level) (supportLine.tokens ++ rest) =
      .ok (supportStatement, .newline :: rest) := rfl

private theorem simpleStatement_typingLine (writes : Bool) (rest : List Token) :
    simpleStatement (readersBelow (depth + 3) level) ((typingLine writes).tokens ++ rest) =
      .ok (typingStatement writes, .newline :: rest) := by
  cases writes with
  | true => rfl
  | false => rfl

private theorem argument_literal (type : String) (rest : List Token) :
    argument (grammarWithin (depth + 1)) .start ((literal type).token :: .op "," :: rest) =
      .ok (⟨[.constant (.text (type.toList.flatMap units) false)], [], false, false⟩,
        .op "," :: rest) := by
  have hexpression := expressionOf_quotation (g := grammarWithin depth)
    (points_asciiForm type.toList) (t := .op ",") rfl rest
  have hargument : argument (grammarWithin (depth + 1)) .start
      ((literal type).token :: .op "," :: rest) =
      (expressionOf (grammarWithin depth) >>= fun value =>
        (pure ⟨[value], [], false, false⟩ : Reader ArgumentsSoFar))
        (.quotation ⟨[], type.toList.flatMap asciiEscape⟩ :: .op "," :: rest) := by rfl
  rw [hargument, bind_of_ok hexpression]
  rfl

private theorem callAfter_literal (function : Expr) (type : String) (rest : List Token) :
    callAfter (grammarWithin (depth + 1)) function
        ((literal type).token :: .op "," :: .name "value".toList :: .op ")" :: rest) =
      .ok (.call function [.constant (.text (type.toList.flatMap units) false), .name "value"] [],
        rest) := by
  have hclose : acceptOp ")" ((literal type).token :: .op "," :: .name "value".toList ::
      .op ")" :: rest) = .ok (false, (literal type).token :: .op "," :: .name "value".toList ::
      .op ")" :: rest) := rfl
  rw [callAfter, bind_of_ok hclose]
  simp only [Bool.false_eq_true, if_false]
  rw [bind_of_ok (argument_literal type _)]
  rfl

/-- The value that a property is assigned is read. -/
theorem expression_cast (type : String) (rest : List Token) :
    expressionOf (grammarWithin (depth + 1)) (.name "cast".toList :: .op "(" ::
        (literal type).token :: .op "," :: .name "value".toList :: .op ")" :: .newline :: rest) =
      .ok (.call (.name "cast") [.constant (.text (type.toList.flatMap units) false),
        .name "value"] [], .newline :: rest) := by
  have hcast : nameOf "cast".toList = "cast" := rfl
  refine expressionOf_of_primary rfl ?_ rfl
  rw [primary, bind_of_ok (atom_name _ _), hcast]
  refine (trailersWithin_call _ _ _).trans ?_
  rw [bind_of_ok (callAfter_literal (.name "cast") type (.newline :: rest))]
  rfl

private theorem simpleStatement_writeLine {name : String} (h : name ∉ reservedWords) (type : String)
    (rest : List Token) :
    simpleStatement (readersBelow (depth + 3) level) ((writeLine name type).tokens ++ rest) =
      .ok (writeStatement name type, .newline :: rest) := by
  have htarget : (readersBelow (depth + 3) level).assigned
      ((writeLine name type).tokens ++ rest) =
      .ok (.member (.name "self") (nameOf name.toList), .op "=" :: .name "cast".toList ::
        .op "(" :: (literal type).token :: .op "," :: .name "value".toList :: .op ")" ::
          .newline :: rest) := by
    rw [writeLine, Lexeme.ofName_of_not_mem h]
    rfl
  exact expressionStatement_assign rfl htarget
    (assigned_of_ok rfl (by simp) (expression_cast type rest)) (List.cons_ne_nil _ _)

/-- The line of a case that reads is read. -/
theorem lineOf_readLine {name : String} (h : name ∉ reservedWords) (rest : List Token) :
    lineOf (readersBelow (depth + 3) level) ((readLine name).tokens ++ rest) =
      .ok ([readStatement name], rest) :=
  lineOf_of_simpleStatement rfl (simpleStatement_readLine h rest)

/-- The line of a case that assigns is read. -/
theorem lineOf_writeLine {name : String} (h : name ∉ reservedWords) (type : String)
    (rest : List Token) :
    lineOf (readersBelow (depth + 3) level) ((writeLine name type).tokens ++ rest) =
      .ok ([writeStatement name type], rest) :=
  lineOf_of_simpleStatement rfl (simpleStatement_writeLine h type rest)

/-- The line of the last case is read. -/
theorem lineOf_raiseLine (rest : List Token) :
    lineOf (readersBelow (depth + 3) level) (raiseLine.tokens ++ rest) =
      .ok ([raiseStatement], rest) :=
  lineOf_of_simpleStatement rfl (simpleStatement_raiseLine rest)

/-- A case is read where its line is. -/
theorem caseOf_written {c : WrittenCase} {s : Statement} (hs : ∀ rest,
      lineOf (readersBelow (depth + 3) level) (c.body.tokens ++ rest) = .ok ([s], rest))
    (rest : List Token) :
    caseOf (readersBelow (depth + 3) (level + 1)) (c.tokens ++ .dedent :: rest) =
      .ok (some (keyCase c.key s), rest) := by
  have htokens : c.tokens ++ .dedent :: rest = .name "case".toList :: (literal c.key).token ::
      .op ":" :: .newline :: .indent :: (c.body.tokens ++ .dedent :: rest) := by
    rw [WrittenCase.tokens, List.append_assoc]
    rfl
  rw [htokens]
  exact caseOf_of_ok (casePattern_quotation (points_asciiForm c.key.toList) _)
    (blockOf_line (hs _))

/-- The last case is read. -/
theorem caseOf_default (rest : List Token) :
    caseOf (readersBelow (depth + 3) (level + 1)) (defaultTokens ++ .dedent :: rest) =
      .ok (some defaultCase, rest) := by
  have htokens : defaultTokens ++ .dedent :: rest = .name "case".toList :: .name ['_'] ::
      .op ":" :: .newline :: .indent :: (raiseLine.tokens ++ .dedent :: rest) := by
    rw [defaultTokens, List.append_assoc]
    rfl
  have hpattern : casePattern (readersBelow (depth + 3) (level + 1)).pattern (.name ['_'] ::
      .op ":" :: .newline :: .indent :: (raiseLine.tokens ++ .dedent :: rest)) =
      .ok (.capture none, .op ":" :: .newline :: .indent :: (raiseLine.tokens ++
        .dedent :: rest)) := rfl
  rw [htokens]
  exact caseOf_of_ok hpattern (blockOf_line (lineOf_raiseLine _))

/-- A line that begins with the keyword of a method begins a function. -/
theorem lineOf_methodLine (name : String) (parameters : List Part) (result : Lexeme)
    (rest : List Token) :
    lineOf (readersBelow (depth + 3) level)
        ((methodLine name parameters result).tokens ++ rest) =
      (functionAfter (readersBelow (depth + 3) level) false [] >>= fun s => pure [s])
        ((methodLine name parameters result).tokens.tail ++ rest) := by rfl

section Cases

variable {properties : List Property} {write : Property → Line}
  {statementOf : Property → Statement}
  (h : ∀ p ∈ properties, ∀ rest,
    lineOf (readersBelow (depth + 3) level) ((write p).tokens ++ rest) =
      .ok ([statementOf p], rest))

include h

/-- All cases are read one after the other. -/
theorem repeats_cases (rest : List Token) :
    Repeats (caseOf (readersBelow (depth + 3) (level + 1)))
      (casesTokens (properties.map fun p => ⟨p.name, write p⟩) ++ .dedent :: .dedent :: rest)
      (properties.map (fun p => keyCase p.name (statementOf p)) ++ [defaultCase])
      (.dedent :: rest) := by
  induction properties with
  | nil =>
    have hend : caseOf (readersBelow (depth + 3) (level + 1)) (.dedent :: rest) =
        .ok (none, .dedent :: rest) := rfl
    refine .more (caseOf_default _) ?_ (.stop hend)
    simp only [List.length_append, List.length_cons]
    omega
  | cons p properties ih =>
    have htokens : ∀ (c : WrittenCase) (cases : List WrittenCase),
        casesTokens (c :: cases) ++ .dedent :: .dedent :: rest =
          c.tokens ++ .dedent :: (casesTokens cases ++ .dedent :: .dedent :: rest) := by
      intro c cases
      simp only [casesTokens, List.flatMap_cons, List.append_assoc, List.cons_append,
        List.nil_append]
    rw [List.map_cons, htokens]
    refine .more (caseOf_written (h p List.mem_cons_self) _) ?_
      (ih fun q hq => h q (List.mem_cons_of_mem _ hq))
    simp only [List.length_append, List.length_cons]
    omega

/-- The choice by the key is read. -/
theorem lineOf_matchLine (rest : List Token) :
    lineOf (readersBelow (depth + 3) (level + 1)) (matchLine.tokens ++ .indent ::
        (casesTokens (properties.map fun p => ⟨p.name, write p⟩) ++ .dedent :: .dedent :: rest)) =
      .ok ([.match (.name "name") (properties.map (fun p => keyCase p.name (statementOf p)) ++
        [defaultCase])], rest) :=
  lineOf_of_matchStatement (matchStatement_of_ok rfl
    (List.append_ne_nil_of_right_ne_nil _ (List.cons_ne_nil _ _))
    (repeats_cases h rest) "name".toList)

/-- A method is read where its first line is. -/
theorem lineOf_methodTokens {name : String} {parameters : List Part} {result : Lexeme}
    {statement : List Statement → Statement}
    (hh : ∀ rest, functionAfter (readersBelow (depth + 3) (level + 2)) false []
        ((methodLine name parameters result).tokens.tail ++ rest) =
      (blockOf (readersBelow (depth + 3) (level + 2)) >>= fun body => pure (statement body))
        (.op ":" :: .newline :: rest)) (rest : List Token) :
    lineOf (readersBelow (depth + 3) (level + 2))
        (methodTokens (methodLine name parameters result)
          (properties.map fun p => ⟨p.name, write p⟩) ++
          Token.dedent :: .dedent :: .dedent :: rest) =
      .ok ([statement [.match (.name "name") (properties.map (fun p =>
        keyCase p.name (statementOf p)) ++ [defaultCase])]], rest) := by
  have hblock := blockOf_line (r := readersBelow (depth + 3) (level + 2))
    (lineOf_matchLine h (.dedent :: rest))
  have htokens : ∀ header cases, methodTokens header cases ++ Token.dedent :: .dedent :: .dedent ::
      rest = header.tokens ++ Token.indent :: (matchLine.tokens ++ Token.indent ::
        (casesTokens cases ++ Token.dedent :: .dedent :: .dedent :: rest)) := by
    intro header cases
    simp only [methodTokens, List.append_assoc, List.cons_append]
  rw [htokens, lineOf_methodLine, bind_of_ok ((hh _).trans (bind_of_ok hblock))]
  rfl

end Cases

/-- The line that begins the method that reads is read. -/
theorem functionAfter_getLine (rest : List Token) :
    functionAfter (readersBelow (depth + 3) level) false [] (getLine.tokens.tail ++ rest) =
      (blockOf (readersBelow (depth + 3) level) >>= fun body =>
        pure (Statement.function false [] "__getitem__" [parameter "self" none,
          parameter "name" (some (.name "str"))] (some (.name "Any")) body))
        (.op ":" :: .newline :: rest) := by rfl

/-- The line that begins the method that assigns is read. -/
theorem functionAfter_setLine (rest : List Token) :
    functionAfter (readersBelow (depth + 3) level) false [] (setLine.tokens.tail ++ rest) =
      (blockOf (readersBelow (depth + 3) level) >>= fun body =>
        pure (Statement.function false [] "__setitem__" [parameter "self" none,
          parameter "name" (some (.name "str")), parameter "value" (some (.name "Any"))]
          (some (.constant .none)) body))
        (.op ":" :: .newline :: rest) := by rfl

/-- The method that reads is read. -/
theorem lineOf_getMethod {t : Descriptor} (h : ∀ p ∈ t.readable, p.name ∉ reservedWords)
    (rest : List Token) :
    lineOf (readersBelow (depth + 3) (level + 2))
        (methodTokens getLine (readCases t) ++ .dedent :: .dedent :: .dedent :: rest) =
      .ok ([getMethod t], rest) :=
  lineOf_methodTokens (fun p hp => lineOf_readLine (h p hp)) functionAfter_getLine rest

/-- The method that assigns is read. -/
theorem lineOf_setMethod {t : Descriptor} (h : ∀ p ∈ t.writable, p.name ∉ reservedWords)
    (rest : List Token) :
    lineOf (readersBelow (depth + 3) (level + 2))
        (methodTokens setLine (writeCases t) ++ .dedent :: .dedent :: .dedent :: rest) =
      .ok ([setMethod t], rest) :=
  lineOf_methodTokens (fun p hp => lineOf_writeLine (h p hp) p.type)
    functionAfter_setLine rest

/-- A literal text is read as a statement. -/
theorem lineOf_quotation {body : List Char} {points : List Nat}
    (h : (⟨[], body⟩ : Quotation).points = some points) (rest : List Token) :
    lineOf (readersBelow (depth + 3) level) (.quotation ⟨[], body⟩ :: .newline :: rest) =
      .ok ([.expression (.constant (.text points false))], rest) := by
  refine lineOf_of_simpleStatement rfl ?_
  have hquotation : (readersBelow (depth + 3) level).assigned
      (.quotation ⟨[], body⟩ :: .newline :: rest) =
      .ok (.constant (.text points false), .newline :: rest) :=
    assigned_of_ok rfl nofun (expressionOf_quotation h rfl rest)
  have hstatement : simpleStatement (readersBelow (depth + 3) level)
      (.quotation ⟨[], body⟩ :: .newline :: rest) =
      expressionStatement (readersBelow (depth + 3) level)
        (.quotation ⟨[], body⟩ :: .newline :: rest) := rfl
  rw [hstatement, expressionStatement, bind_of_ok hquotation]
  rfl

/-- A remark is read as a statement. -/
theorem lineOf_remarkLine (indent : Nat) {text : List Char} (h : ∀ c ∈ text, c ≠ '\\')
    (rest : List Token) :
    lineOf (readersBelow (depth + 3) level) ((remarkLine indent text).tokens ++ rest) =
      .ok ([remarkStatement text], rest) := lineOf_quotation (points_plain h) rest

/-- A line begins one. -/
theorem beginsLine_line (l : Line) (behind : List Token) : BeginsLine (l.tokens ++ behind) := by
  refine ⟨_, _, rfl, ?_⟩
  cases l.first <;> exact ⟨nofun, nofun⟩

/-- So does a method. -/
theorem beginsLine_method (header : Line) (cases : List WrittenCase) (behind : List Token) :
    BeginsLine (methodTokens header cases ++ behind) := by
  rw [methodTokens, List.append_assoc]
  exact beginsLine_line header _

/-- So does the class. -/
theorem beginsLine_class (t : Descriptor) (behind : List Token) :
    BeginsLine (classTokens t ++ behind) := by
  rw [classTokens, List.append_assoc]
  exact beginsLine_line _ _

/-- What stands behind a line is shorter than with it. -/
theorem length_lt_line (l : Line) (behind : List Token) :
    behind.length < (l.tokens ++ behind).length := by
  have hpos : 0 < l.tokens.length := Nat.succ_pos _
  rw [List.length_append]
  omega

/-- A line is read in front of others. -/
theorem repeats_line {r : Readers} {l : Line} {statements : List Statement}
    {others : List (List Statement)} {behind rest : List Token}
    (h : r.line (l.tokens ++ behind) = .ok (statements, behind))
    (hr : Repeats (nextLine r) behind others rest) :
    Repeats (nextLine r) (l.tokens ++ behind) (statements :: others) rest :=
  .more (nextLine_of_ok (beginsLine_line l behind) h) (length_lt_line l behind) hr

/-- The line that keeps the class without attributes is read. -/
theorem lineOf_slotsLine (rest : List Token) :
    lineOf (readersBelow (depth + 3) level) (slotsLine.tokens ++ rest) =
      .ok ([slotsStatement], rest) :=
  lineOf_of_simpleStatement rfl (simpleStatement_slotsLine rest)

/-- A line that begins with the keyword of a class begins one. -/
theorem lineOf_classLine (identifier : String) (rest : List Token) :
    lineOf (readersBelow (depth + 3) level) ((classLine identifier).tokens ++ rest) =
      (classAfter (readersBelow (depth + 3) level) [] >>= fun s => pure [s])
        ((classLine identifier).tokens.tail ++ rest) := by rfl

/-- The line that begins the class is read. -/
theorem classAfter_classLine (identifier : String) (rest : List Token) :
    classAfter (readersBelow (depth + 3) level) [] ((classLine identifier).tokens.tail ++ rest) =
      (blockOf (readersBelow (depth + 3) level) >>= fun body =>
        pure (.class [] (nameOf (className identifier).toList) [] [] body))
        (.op ":" :: .newline :: rest) := by rfl

/-- The class is read. -/
theorem lineOf_classTokens {t : Descriptor} (ht : Free t) (h : ∀ c ∈ classRemark t, c ≠ '\\')
    (rest : List Token) :
    lineOf (readersBelow (depth + 3) (level + 3))
        (classTokens t ++ .dedent :: .dedent :: .dedent :: .dedent :: rest) =
      .ok ([classStatement t], rest) := by
  have htokens : classTokens t ++ .dedent :: .dedent :: .dedent :: .dedent :: rest =
      (classLine t.identifier).tokens ++ .indent :: ((remarkLine 4 (classRemark t)).tokens ++
        (slotsLine.tokens ++ (methodTokens getLine (readCases t) ++ .dedent :: .dedent ::
          .dedent :: (methodTokens setLine (writeCases t) ++ .dedent :: .dedent :: .dedent ::
            .dedent :: rest)))) := by
    simp only [classTokens, List.append_assoc, List.cons_append]
  have hend : nextLine (readersBelow (depth + 3) (level + 3)) (.dedent :: rest) =
      .ok (none, .dedent :: rest) := rfl
  have hset : Repeats (nextLine (readersBelow (depth + 3) (level + 3)))
      (methodTokens setLine (writeCases t) ++ .dedent :: .dedent :: .dedent :: .dedent :: rest)
      [[setMethod t]] (.dedent :: rest) := by
    refine .more (nextLine_of_ok (beginsLine_method _ _ _) (lineOf_setMethod ht.writable _)) ?_
      (.stop hend)
    simp only [List.length_append, List.length_cons]
    omega
  have hget : Repeats (nextLine (readersBelow (depth + 3) (level + 3)))
      (methodTokens getLine (readCases t) ++ .dedent :: .dedent :: .dedent ::
        (methodTokens setLine (writeCases t) ++ .dedent :: .dedent :: .dedent :: .dedent :: rest))
      [[getMethod t], [setMethod t]] (.dedent :: rest) := by
    refine .more (nextLine_of_ok (beginsLine_method _ _ _) (lineOf_getMethod ht.readable _)) ?_ hset
    simp only [List.length_append, List.length_cons]
    omega
  have hblock := blockOf_of_repeats (r := readersBelow (depth + 3) (level + 3))
    (lineOf_remarkLine 4 h _) (repeats_line (lineOf_slotsLine _) hget)
  rw [htokens, lineOf_classLine, bind_of_ok ((classAfter_classLine _ _).trans (bind_of_ok hblock))]
  rfl

/-- The imports are read. -/
theorem lineOf_typingLine (writes : Bool) (rest : List Token) :
    lineOf (readersBelow (depth + 3) level) ((typingLine writes).tokens ++ rest) =
      .ok ([typingStatement writes], rest) := by
  refine lineOf_of_simpleStatement ?_ (simpleStatement_typingLine writes rest)
  cases writes <;> rfl

/-- The import of the error is read. -/
theorem lineOf_supportLine (rest : List Token) :
    lineOf (readersBelow (depth + 3) level) (supportLine.tokens ++ rest) =
      .ok ([supportStatement], rest) :=
  lineOf_of_simpleStatement rfl (simpleStatement_supportLine rest)

/-- The tokens of a mixin are read as its statements. -/
theorem moduleOf_moduleTokens {t : Descriptor} (ht : Spelled t) (hf : Free t) :
    moduleOf (depth + 4) (moduleTokens t ++ [Token.dedent, .dedent, .dedent, .dedent, .finish]) =
      .ok (moduleStatements t, []) := by
  have hmodule : ∀ c ∈ moduleRemark t, c ≠ '\\' := fun c hc => (inRemark_moduleRemark ht c hc).2.1
  have hclass : ∀ c ∈ classRemark t, c ≠ '\\' := fun c hc => (inRemark_classRemark ht c hc).2.1
  have hend : nextLine (readersBelow (depth + 4) (depth + 4)) [.finish] = .ok (none, [.finish]) :=
    rfl
  have hlast : Repeats (nextLine (readersBelow (depth + 4) (depth + 4)))
      (classTokens t ++ [Token.dedent, .dedent, .dedent, .dedent, .finish]) [[classStatement t]]
      [.finish] := by
    refine .more (nextLine_of_ok (beginsLine_class _ _) (lineOf_classTokens hf hclass _)) ?_
      (.stop hend)
    simp only [List.length_append, List.length_cons]
    omega
  have hlines := repeats_line (lineOf_remarkLine 0 hmodule _)
    (repeats_line (lineOf_typingLine (!t.writable.isEmpty) _)
      (repeats_line (lineOf_supportLine _) hlast))
  have hread : linesOf (readersWithin (depth + 4)) _ = _ := linesOf_of_repeats hlines
  have htokens : moduleTokens t ++ [Token.dedent, .dedent, .dedent, .dedent, .finish] =
      (remarkLine 0 (moduleRemark t)).tokens ++ ((typingLine !t.writable.isEmpty).tokens ++
        (supportLine.tokens ++ (classTokens t ++
          [Token.dedent, .dedent, .dedent, .dedent, .finish]))) := by
    simp only [moduleTokens, List.append_assoc]
  rw [htokens, moduleOf, bind_of_ok hread]
  rfl

end Blocks

/-- A mixin is longer than its nesting is deep. -/
theorem two_le_length_render {t : Descriptor} (ht : Spelled t) :
    2 ≤ (render t Access.triedSupport).toList.length := by
  rw [toList_render ht.readable ht.writable, moduleChars, List.length_append]
  exact Nat.le_trans (by decide : 2 ≤ noticeChars.length) (Nat.le_add_right _ _)

/-- The text of a mixin is read as its statements. -/
theorem readModule_render {t : Descriptor} (ht : Spelled t) (hf : Free t) :
    readModule (render t Access.triedSupport).toList = .ok (moduleStatements t) := by
  obtain ⟨depth, hdepth⟩ := Nat.exists_eq_add_of_le' (two_le_length_render ht)
  rw [readModule, not_nul_of_render ht, if_neg Bool.false_ne_true, tokenize_render ht, hdepth,
    moduleOf_moduleTokens ht hf]

end KeyedAccess.Mixin
