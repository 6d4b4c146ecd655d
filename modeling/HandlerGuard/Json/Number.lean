import HandlerGuard.Settings.Value

/-!
Numbers of JSON.

Of the digits of a number as many count as fit into 64 bits. A number with a fraction, with an exponent
or with more digits is read as these digits, rounded, times one power of ten, rounded again; so it may
differ in the last place from the number nearest to the decimal.
-/
namespace HandlerGuard.Json

def ofDigits (digits : Text) : Nat :=
  digits.foldl (fun n c => n * 10 + (c.toNat - '0'.toNat)) 0

/-- The digits at the front, of which there is at least one, and what follows. -/
def readDigits (t : Text) : Option (Text × Text) :=
  let digits := t.takeWhile Char.isDigit
  if digits.isEmpty then none else some (digits, t.drop digits.length)

def readFraction (t : Text) : Option (Option Text × Text) :=
  match t with
  | '.' :: rest => (readDigits rest).map fun (digits, others) => (some digits, others)
  | _ => some (none, t)

def readExponent (t : Text) : Option (Option Int × Text) :=
  match t with
  | c :: rest =>
      if c = 'e' || c = 'E' then
        match rest with
        | '+' :: others => (readDigits others).map fun (ds, more) => (some (ofDigits ds : Int), more)
        | '-' :: others => (readDigits others).map fun (ds, more) => (some (-(ofDigits ds : Int)), more)
        | _ => (readDigits rest).map fun (ds, more) => (some (ofDigits ds : Int), more)
      else some (none, t)
  | [] => some (none, t)

/-- Goes on with digits as long as the number fits into 64 bits: the number, and the digits that are
left. -/
def takeDigits (n : Nat) : Text → Nat × Text
  | [] => (n, [])
  | c :: rest =>
      let longer := n * 10 + (c.toNat - '0'.toNat)
      if longer < UInt64.size then takeDigits longer rest else (n, c :: rest)

/-- The digits that count, and the power of ten for them. -/
def significand (whole fraction : Text) : Nat × Int :=
  let (n, left) := takeDigits 0 whole
  let (n, unread) := takeDigits n fraction
  (n, (left.length : Int) - ((fraction.length - unread.length : Nat) : Int))

/-- The greatest exponent of a power of ten that a number is multiplied with or divided by. -/
def greatestPower : Nat := 308

def powerOfTen (exponent : Nat) : Binary64 := Binary64.ofDecimal false 1 exponent

/-- A number times a power of ten; none if it is too large. Powers beyond the greatest are divided by
step by step. -/
def timesPower : Nat → Binary64 → Int → Option Binary64
  | 0, x, _ => some x
  | fuel + 1, x, exponent =>
      if exponent.natAbs ≤ greatestPower then
        if 0 ≤ exponent then
          match x.times (powerOfTen exponent.natAbs) with
          | .infinite _ => none
          | y => some y
        else some (x.dividedBy (powerOfTen exponent.natAbs))
      else if x = Binary64.ofDecimal false 0 0 then some x
      else if 0 ≤ exponent then none
      else timesPower fuel (x.dividedBy (powerOfTen greatestPower)) (exponent + greatestPower)

/-- The number with the given digits and power of ten; none if it is too large. -/
def scaled? (negative : Bool) (digits : Nat) (exponent : Int) : Option Value :=
  match timesPower 4 (Binary64.ofDecimal false digits 0) exponent with
  | some (.finite _ mantissa power) => some (.float (.finite negative mantissa power))
  | _ => none

/-- The value of a number: whole numbers that fit into 64 bits stay whole. -/
def numberValue? (negative : Bool) (whole : Text) (fraction : Option Text) (exponent : Option Int) :
    Option Value :=
  let (digits, places) := significand whole (fraction.getD [])
  if fraction.isNone && exponent.isNone && places = 0 then
    if !negative then some (.natural digits)
    else if 0 < digits ∧ Int64.minValue.toInt ≤ -(digits : Int) then
      some (.integer (-(digits : Int)))
    else scaled? true digits 0
  else scaled? negative digits (places + exponent.getD 0)

/-- A number and what follows it. It has no needless zeros in front. -/
def readNumber (t : Text) : Option (Value × Text) := do
  let (negative, body) :=
    match t with
    | '-' :: rest => (true, rest)
    | _ => (false, t)
  let (whole, rest) ← readDigits body
  if 1 < whole.length ∧ whole.head? = some '0' then none
  let (fraction, rest) ← readFraction rest
  let (exponent, rest) ← readExponent rest
  let value ← numberValue? negative whole fraction exponent
  some (value, rest)

end HandlerGuard.Json
