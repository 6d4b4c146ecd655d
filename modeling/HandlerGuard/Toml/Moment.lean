import HandlerGuard.Json.Reader
import HandlerGuard.Settings.Value

namespace HandlerGuard.Toml

/-- A number of exactly so many digits, and what follows it. -/
def readFixed (count : Nat) (t : Text) : Option (Nat × Text) :=
  let digits := t.take count
  if digits.length = count ∧ digits.all Char.isDigit then some (Json.ofDigits digits, t.drop count)
  else none

/-- What follows a character. -/
def expectChar (c : Char) : Text → Option Text
  | x :: rest => if x = c then some rest else none
  | [] => none

/-- The year has a day more. -/
def isLeapYear (year : Nat) : Bool := year % 4 = 0 && (year % 100 ≠ 0 || year % 400 = 0)

def daysOf (year month : Nat) : Nat :=
  if month = 2 then if isLeapYear year then 29 else 28
  else if month = 4 || month = 6 || month = 9 || month = 11 then 30
  else 31

def skipDate (t : Text) : Option Text := do
  let (year, rest) ← readFixed 4 t
  let rest ← expectChar '-' rest
  let (month, rest) ← readFixed 2 rest
  let rest ← expectChar '-' rest
  let (day, rest) ← readFixed 2 rest
  if 1 ≤ month ∧ month ≤ 12 ∧ 1 ≤ day ∧ day ≤ daysOf year month then some rest else none

/-- What follows a fraction of a second, if there is one. -/
def skipFraction : Text → Option Text
  | '.' :: rest => (Json.readDigits rest).map Prod.snd
  | t => some t

def skipHourMinute (t : Text) : Option Text := do
  let (hour, rest) ← readFixed 2 t
  let rest ← expectChar ':' rest
  let (minute, rest) ← readFixed 2 rest
  if hour ≤ 23 ∧ minute ≤ 59 then some rest else none

def skipTime (t : Text) : Option Text := do
  let rest ← skipHourMinute t
  let rest ← expectChar ':' rest
  let (second, rest) ← readFixed 2 rest
  if second ≤ 60 then skipFraction rest else none

/-- What follows a distance from universal time, if there is one. -/
def skipOffset : Text → Option Text
  | 'Z' :: rest => some rest
  | 'z' :: rest => some rest
  | '+' :: rest => skipHourMinute rest
  | '-' :: rest => skipHourMinute rest
  | t => some t

def skipTimeOfDate (t : Text) : Option Text :=
  match t with
  | c :: rest =>
      if c = 'T' || c = 't' then (skipTime rest).bind skipOffset
      else if c = ' ' then
        match rest with
        | d :: _ => if d.isDigit then (skipTime rest).bind skipOffset else some t
        | [] => some t
      else some t
  | [] => some t

/-- The key under which the written form of a date or time stands. -/
def momentKey : Text := "$__toml_private_datetime".toList

/-- A date, a time or both, and what follows. It counts as a table with its written form. -/
def readMoment (t : Text) : Option (Value × Text) := do
  let rest ← ((skipDate t).bind skipTimeOfDate).orElse fun _ => skipTime t
  some (.table [(momentKey, .text (t.take (t.length - rest.length)))], rest)

end HandlerGuard.Toml
