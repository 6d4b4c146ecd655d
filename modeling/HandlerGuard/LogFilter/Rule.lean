import HandlerGuard.LogFilter.Level
import HandlerGuard.LogFilter.ValuePattern
import HandlerGuard.Text.Alphanumeric

/-!
Rules for what is logged.

A rule gives a level, perhaps for a component only, perhaps in brackets for spans of a name or with a
field. A field may be asked to have a value: a truth value, a number or what a regular expression
matches.
-/
namespace HandlerGuard

/-- The value that a field has to have. -/
inductive FieldValue where
  | bool (b : Bool)
  | float (x : Binary64)
  | natural (n : Nat)
  | integer (n : Int)
  | pattern (t : Text)
deriving DecidableEq, Repr

namespace FieldValue

/-- An infinite number or what is no number, in any case. -/
def special? (t : Text) : Option Binary64 :=
  let (negative, body) := Environment.splitSign t
  let name := body.map Char.toLower
  if name = "inf".toList || name = "infinity".toList then some (.infinite negative)
  else if name = "nan".toList then some .notANumber
  else none

def float? (t : Text) : Option Binary64 := (Environment.float? t).orElse fun _ => special? t

/-- The value that a text writes; none if it is a regular expression that cannot be read. -/
def ofText? (t : Text) : Option FieldValue :=
  if t = "true".toList then some (.bool true)
  else if t = "false".toList then some (.bool false)
  else
    match Environment.natural? t, Environment.integer? t, float? t with
    | some n, _, _ => some (.natural n)
    | none, some n, _ => some (.integer n)
    | none, none, some x => some (.float x)
    | none, none, none => if ValuePattern.isValid t then some (.pattern t) else none

def render : FieldValue → Text
  | bool b => if b then "true".toList else "false".toList
  | float x => x.toText
  | natural n => Text.ofNat n
  | integer n => (if n < 0 then ['-'] else []) ++ Text.ofNat n.natAbs
  | pattern t => t

def kindIndex : FieldValue → Nat
  | bool _ => 0
  | float .notANumber => 2
  | float _ => 1
  | natural _ => 3
  | integer _ => 4
  | pattern _ => 5

/-- One value comes before another: kind by kind, and by size within a kind. -/
def less (a b : FieldValue) : Bool :=
  match a, b with
  | bool x, bool y => !x && y
  | float x, float y => x.less y
  | natural x, natural y => x < y
  | integer x, integer y => x < y
  | pattern x, pattern y => decide (x < y)
  | _, _ => a.kindIndex < b.kindIndex

end FieldValue

/-- A field that spans have to have. -/
structure LogField where
  name : Text
  value : Option FieldValue
deriving DecidableEq, Repr

namespace LogField

/-- The field that a text writes: its name and, after `=`, its value up to the next `=`. -/
def parse? (t : Text) : Option LogField :=
  match t.splitAll '=' with
  | name :: value :: _ => (FieldValue.ofText? value).map fun value => ⟨name, some value⟩
  | _ => if t.isEmpty then none else some ⟨t, none⟩

def render (f : LogField) : Text :=
  f.name ++ f.value.elim [] fun value => '=' :: value.render

/-- One field comes before another: those without a value first, then by name and value. -/
def less (a b : LogField) : Bool :=
  match a.value, b.value with
  | none, some _ => true
  | some _, none => false
  | none, none => decide (a.name < b.name)
  | some x, some y => decide (a.name < b.name) || (a.name = b.name && x.less y)

end LogField

/-- A rule of a filter. -/
structure LogRule where
  /-- The component that it is for. -/
  target : Option Text := none
  /-- The name of the spans that it is for. -/
  span : Option Text := none
  field : Option LogField := none
  level : LogLevel
deriving DecidableEq, Repr

namespace LogRule

/-- A character that a rule may begin with. -/
def isFirst (c : Char) : Bool := Text.isAlphanumeric c || c = '-' || c = ':' || c = '_'

/-- The level after its `=`; without one everything is logged. -/
def levelAfter? : Text → Option LogLevel
  | [] => some .trace
  | t => LogLevel.ofText? t

def afterBrackets? : Text → Option LogLevel
  | [] => some .trace
  | '=' :: rest => levelAfter? rest
  | _ => none

/-- The rule with the brackets whose inside begins a text. -/
def bracketed? (target : Option Text) (t : Text) : Option LogRule :=
  let name := t.takeWhile fun c => c ≠ ']' && c ≠ '\x7b'
  match t.drop name.length with
  | ']' :: rest => (afterBrackets? rest).map fun level => { target, span := some name, level }
  | '\x7b' :: rest => do
      let (written, after) := Text.splitFirst '\x7d' rest
      match after with
      | some (']' :: rest) =>
          let field ← if written.isEmpty then none else LogField.parse? written
          let level ← afterBrackets? rest
          some { target, span := if name.isEmpty then none else some name, field := some field, level }
      | _ => none
  | _ => none

/-- The rule that a text writes: a level, or a component and perhaps brackets and a level. Blanks around
it do not count. -/
def parse? (t : Text) : Option LogRule :=
  match t.trim with
  | [] => none
  | '[' :: rest => bracketed? none rest
  | c :: rest =>
      let body := c :: rest
      if !isFirst c then none
      else
        let name := body.takeWhile fun c => c ≠ '=' && c ≠ '['
        match body.drop name.length with
        | '=' :: rest => (levelAfter? rest).map fun level => { target := some name, level }
        | '[' :: rest => bracketed? (some name) rest
        | _ =>
            match LogLevel.ofText? name with
            | some level => some { level }
            | none => some { target := some name, level := .trace }

def brackets (r : LogRule) : Option Text :=
  if r.span.isNone && r.field.isNone then none
  else
    some
      (['['] ++ r.span.getD [] ++
        r.field.elim [] (fun field => ['\x7b'] ++ field.render ++ ['\x7d']) ++ [']'])

def render (r : LogRule) : Text :=
  match r.target, r.brackets with
  | none, none => r.level.label
  | target, brackets => target.getD [] ++ brackets.getD [] ++ ['='] ++ r.level.label

def isScoped (r : LogRule) : Bool := r.span.isSome || r.field.isSome

/-- The rule looks at no name and at no value, so that a message by itself decides it. -/
def isGeneral (r : LogRule) : Bool :=
  r.span.isNone && r.field.all fun field => field.value.isNone

/-- Two rules are for the same messages. -/
def sameScope (a b : LogRule) : Bool :=
  a.target = b.target && a.span = b.span && a.field = b.field

/-- What makes a rule more special than another, the weightiest first: how long the name of its component
is, whether it has a name of spans, and whether it has a field. -/
def rank (r : LogRule) : Nat × Nat × Nat :=
  (r.target.elim 0 (·.byteLength + 1), r.span.elim 0 fun _ => 1, r.field.elim 0 fun _ => 1)

/-- One optional thing comes before another, where things of one kind are compared by `less`. -/
def optionLess {α : Type} (less : α → α → Bool) : Option α → Option α → Bool
  | none, some _ => true
  | some a, some b => less a b
  | _, none => false

/-- Of two rules of one rank, the one comes before the other in the alphabet. -/
def alphabetical (a b : LogRule) : Bool :=
  let textLess (x y : Text) : Bool := decide (x < y)
  optionLess textLess a.target b.target ||
    (a.target = b.target &&
      (optionLess textLess a.span b.span ||
        (a.span = b.span && optionLess LogField.less a.field b.field)))

/-- One rule stands before another: it is more special, or later in the alphabet. -/
def precedes (a b : LogRule) : Bool :=
  let (x₁, x₂, x₃) := a.rank
  let (y₁, y₂, y₃) := b.rank
  y₁ < x₁ ||
    (x₁ = y₁ && (y₂ < x₂ || (x₂ = y₂ && (y₃ < x₃ || (x₃ = y₃ && alphabetical b a)))))

/-- Adds a rule in its place. It replaces a rule for the same messages. -/
def insert (r : LogRule) : List LogRule → List LogRule
  | [] => [r]
  | x :: rest =>
      if x.sameScope r then r :: rest
      else if r.precedes x then r :: x :: rest
      else x :: insert r rest

def arrange (rules : List LogRule) : List LogRule := rules.foldl (fun sorted r => insert r sorted) []

end LogRule

end HandlerGuard
