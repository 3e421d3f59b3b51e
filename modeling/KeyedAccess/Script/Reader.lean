import KeyedAccess.Script.Token
import KeyedAccess.Text.Normal

/-!
# Readers of tokens

A reader takes tokens from the front of a list and gives a value, or it fails at some token. Where
two readings are tried, the failure that got further is kept, because that is where the text stops
being the beginning of a module.
-/

namespace KeyedAccess.Script

/-- What is wrong at the token where a reading fails. -/
inductive Cause where
  /-- The token cannot stand there. -/
  | token
  /-- A block should begin there. -/
  | missingBlock
  /-- A guarded block ends there and has no handler. -/
  | missingHandler
deriving DecidableEq, Repr

/-- A failed reading. -/
structure Failure where
  /-- The tokens from the offending one on. -/
  rest : List Token
  /-- What is wrong. -/
  cause : Cause
deriving Repr

/-- The failure that got further; of two at the same token the first. -/
def Failure.further (a b : Failure) : Failure := if b.rest.length < a.rest.length then b else a

/-- A reader of tokens. -/
abbrev Reader := StateT (List Token) (Except Failure)

/-- Fails at the next token. -/
def refuse {α : Type} (cause : Cause := .token) : Reader α := fun tokens => .error ⟨tokens, cause⟩

/-- The next token, which is not taken. -/
def peek : Reader Token := fun tokens => .ok (tokens.headD .finish, tokens)

/-- Takes the next token. -/
def advance : Reader Unit := fun tokens => .ok ((), tokens.tail)

/-- Tries a second reading where a first one fails. -/
def orElse {α : Type} (first second : Reader α) : Reader α := fun tokens =>
  match first tokens with
  | .ok result => .ok result
  | .error a =>
    match second tokens with
    | .ok result => .ok result
    | .error b => .error (a.further b)

/-- Takes the next token if it is the given one. -/
def accept (t : Token) : Reader Bool := fun tokens =>
  match tokens with
  | next :: rest => if next = t then .ok (true, rest) else .ok (false, tokens)
  | [] => .ok (false, [])

/-- Takes the given token. -/
def expect (t : Token) : Reader Unit := do
  unless ← accept t do refuse

/-- Takes an operator if it comes next. -/
def acceptOp (op : String) : Reader Bool := accept (.op op)

/-- Takes an operator. -/
def expectOp (op : String) : Reader Unit := expect (.op op)

/-- Takes a reserved word if it comes next. -/
def acceptWord (word : String) : Reader Bool := accept (.word word)

/-- Takes a reserved word. -/
def expectWord (word : String) : Reader Unit := expect (.word word)

/-- Whether an operator comes next. -/
def nextIsOp (op : String) : Reader Bool := return (← peek) == .op op

/-- Whether a reserved word comes next. -/
def nextIsWord (word : String) : Reader Bool := return (← peek) == .word word

/-- The name that an identifier stands for. -/
def nameOf (text : List Char) : String := String.ofList (Text.compatibilityForm text)

/-- Takes an identifier. -/
def identifier : Reader String := do
  match ← peek with
  | .name text =>
    advance
    return nameOf text
  | _ => refuse

/-- Whether an identifier and then an operator come next. -/
def nextIsNameThen (op : String) : Reader Bool := fun tokens =>
  match tokens with
  | .name _ :: next :: _ => .ok (next == .op op, tokens)
  | _ => .ok (false, tokens)

/-- Repeats a reader until it gives nothing, at most the given number of times. -/
def manyWithin {α : Type} (step : Reader (Option α)) : Nat → Reader (List α)
  | 0 => return []
  | count + 1 => do
    match ← step with
    | some value => return value :: (← manyWithin step count)
    | none => return []

/-- Repeats a reader until it gives nothing. Each round takes a token, so their number bounds the
rounds. -/
def many {α : Type} (step : Reader (Option α)) : Reader (List α) := do
  match ← step with
  | some value => fun tokens =>
    (do return value :: (← manyWithin step (tokens.length + 1))) tokens
  | none => return []

/-- One or more values between commas, where a comma is always followed by a value. -/
def commaSeparated {α : Type} (item : Reader α) : Reader (List α) := do
  let first ← item
  let others ← many do
    if ← acceptOp "," then return some (← item) else return none
  return first :: others

/-- Values between commas up to a closing mark, which is not taken; a comma may stand before it. -/
def commaList {α : Type} (close : String) (item : Reader α) : Reader (List α) :=
  many do
    if ← nextIsOp close then return none
    let value ← item
    unless ← nextIsOp close do expectOp ","
    return some value

end KeyedAccess.Script
