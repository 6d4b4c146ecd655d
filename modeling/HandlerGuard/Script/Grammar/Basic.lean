import HandlerGuard.Script.Lexer
import HandlerGuard.Script.Tree

/-!
The reading of syntax trees.

A parser reads trees from a state, which holds the current token and what follows it. A fault either
ends the reading or is only noted: a noted fault spoils the whole reading, unless the place where it
was noted is given up for another reading. What was learnt about places where no arrow function
stands survives also a failed reading.
-/
namespace HandlerGuard.Script

/-- What may be read where. -/
structure Context where
  /-- Types may be written. -/
  types : Bool
  /-- Markup may be written. -/
  markup : Bool
  /-- More than the number of tokens, a bound for every repetition. -/
  budget : Nat
  /-- `in` is an operator. -/
  inOperator : Bool
  yieldAllowed : Bool
  awaitAllowed : Bool
  returnAllowed : Bool
  /-- The expression of a decorator is being read. -/
  decorator : Bool
  /-- Declarations of things defined elsewhere are being read. -/
  ambient : Bool
  /-- A conditional type must stand in parentheses. -/
  noConditionalType : Bool
deriving Repr

/-- The state of a reading. -/
structure State where
  token : Token
  /-- The text after the token. -/
  rest : Text
  /-- Where the token before ended. -/
  before : Nat
  /-- A fault was noted. -/
  flawed : Bool
  /-- Starts of properties with an initial value, which only a pattern may hold. -/
  initialized : List Nat
  /-- Starts of array and object literals that end in a comma. -/
  trailing : List Nat
  /-- Starts of text known not to be the head of an arrow function. -/
  notArrows : List Nat
  /-- Names exported so far. -/
  exports : List Text
deriving Repr

/-- The outcome of a reading. -/
inductive Outcome (α : Type) where
  | found (value : α) (state : State)
  /-- Nothing was found; kept is where no arrow functions stand. -/
  | failed (notArrows : List Nat)

def Parser (α : Type) : Type := Context → State → Outcome α

namespace Parser

protected def pure {α : Type} (a : α) : Parser α := fun _ s => .found a s

/-- Reads one thing and then another that depends on it. -/
protected def bind {α β : Type} (p : Parser α) (f : α → Parser β) : Parser β := fun c s =>
  match p c s with
  | .found a s' => f a c s'
  | .failed known => .failed known

instance : Monad Parser where
  pure := Parser.pure
  bind := Parser.bind

def fail {α : Type} : Parser α := fun _ s => .failed s.notArrows

def note : Parser Unit := fun _ s => .found () { s with flawed := true }

def noteIf (fault : Bool) : Parser Unit := if fault then note else pure ()

def state : Parser State := fun _ s => .found s s

def context : Parser Context := fun c s => .found c s

def modify (f : State → State) : Parser Unit := fun _ s => .found () (f s)

def within {α : Type} (f : Context → Context) (p : Parser α) : Parser α := fun c s => p (f c) s

def current : Parser Token := fun _ s => .found s.token s

def following : Parser Token := fun _ s => .found (readToken s.token.stop s.rest).token s

def here : Parser Nat := fun _ s => .found s.token.start s

/-- The range from `start` to the end of the last token read. -/
def spanFrom (start : Nat) : Parser Span := fun _ s => .found ⟨start, s.before⟩ s

/-- Moves to a token that was read from the text after the current one. -/
def moveTo (next : Lexed) : Parser Unit := fun _ s =>
  .found ()
    { s with
      token := next.token
      rest := next.rest
      before := s.token.stop
      flawed := s.flawed || !next.sound }

def advance : Parser Unit := fun c s => moveTo (readToken s.token.stop s.rest) c s

/-- Moves past a keyword or a punctuator. A keyword has no escapes. -/
def bump : Parser Unit := do
  let t ← current
  noteIf (t.isWord && t.escaped)
  advance

/-- Whether the current token is the given keyword or punctuator. -/
def sees (s : String) : Parser Bool := do return (← current).is s

/-- Whether the current token is one of the given keywords and punctuators. -/
def seesOneOf (ss : List String) : Parser Bool := do return (← current).isOneOf ss

/-- Moves past the given keyword or punctuator if it is there. -/
def accept (s : String) : Parser Bool := do
  if ← sees s then
    bump
    return true
  else return false

/-- Moves past the given keyword or punctuator, which must be there. -/
def expect (s : String) : Parser Unit := do
  if ← sees s then bump else fail

/-- Reads something or, where that fails, goes back and reads nothing. -/
def attempt {α : Type} (p : Parser α) : Parser (Option α) := fun c s =>
  match p c s with
  | .found a s' => .found (some a) s'
  | .failed known => .found none { s with notArrows := known }

/-- The answer of a reading that is then taken back; `false` if it fails. -/
def ahead (p : Parser Bool) : Parser Bool := fun c s =>
  match p c s with
  | .found b s' => .found b { s with notArrows := s'.notArrows }
  | .failed known => .found false { s with notArrows := known }

def budget : Parser Nat := do return (← context).budget

/-- A bounded number of things, until `stop` holds. -/
def untilWithin {α : Type} (stop : Parser Bool) (item : Parser α) : Nat → Parser (List α)
  | 0 => fail
  | n + 1 => do
      if ← stop then return []
      else
        let a ← item
        let others ← untilWithin stop item n
        return a :: others

/-- Things until `stop` holds. -/
def untilStop {α : Type} (stop : Parser Bool) (item : Parser α) : Parser (List α) := do
  untilWithin stop item (← budget)

/-- A bounded number of things separated by commas up to `close`, and whether a comma stands before
`close`. -/
def commaWithin {α : Type} (close : String) (item : Parser α) : Nat → Parser (List α × Bool)
  | 0 => fail
  | n + 1 => do
      if ← sees close then return ([], false)
      else
        let a ← item
        if ← accept "," then
          if ← sees close then return ([a], true)
          else
            let (others, comma) ← commaWithin close item n
            return (a :: others, comma)
        else if ← sees close then return ([a], false)
        else fail

/-- Things separated by commas up to `close`, and whether a comma stands before `close`. -/
def commaList {α : Type} (close : String) (item : Parser α) : Parser (List α × Bool) := do
  commaWithin close item (← budget)

/-- A bounded number of things, at least one, with `separator` between them. -/
def separatedWithin {α : Type} (separator : String) (item : Parser α) : Nat → Parser (List α)
  | 0 => fail
  | n + 1 => do
      let a ← item
      if ← accept separator then
        let others ← separatedWithin separator item n
        return a :: others
      else return [a]

/-- Things, at least one, with `separator` between them. -/
def separated {α : Type} (separator : String) (item : Parser α) : Parser (List α) := do
  separatedWithin separator item (← budget)

/-- Whether a statement may end here without a semicolon. -/
def mayEnd : Parser Bool := do
  let t ← current
  return t.newline || t.is ";" || t.is "\x7d" || t.isEnd

/-- The end of a statement: a semicolon, or a place where none is needed. -/
def semicolon : Parser Unit := do
  if ← accept ";" then return ()
  else if ← mayEnd then return ()
  else fail

/-- With `in` as an operator. -/
def withIn {α : Type} (p : Parser α) : Parser α := within ({ · with inOperator := true }) p

/-- Without `in` as an operator. -/
def withoutIn {α : Type} (p : Parser α) : Parser α := within ({ · with inOperator := false }) p

end Parser

def State.start (offset : Nat) (t : Text) : State :=
  let first := readToken offset t
  { token := first.token
    rest := first.rest
    before := 0
    flawed := !first.sound
    initialized := []
    trailing := []
    notArrows := []
    exports := [] }

end HandlerGuard.Script
