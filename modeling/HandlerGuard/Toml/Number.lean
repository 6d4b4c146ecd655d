import HandlerGuard.Json.Reader
import HandlerGuard.Settings.Value

namespace HandlerGuard.Toml

/-- Digits of a class with single underscores between them, the underscores left out, and what follows.
`fuel` bounds their number. -/
def readDigitsWith (isDigit : Char → Bool) : Nat → Text → Option (Text × Text)
  | 0, _ => none
  | _ + 1, [] => none
  | fuel + 1, c :: rest =>
      if isDigit c then
        match rest with
        | '_' :: others =>
            (readDigitsWith isDigit fuel others).map fun (tail, rest) => (c :: tail, rest)
        | d :: _ =>
            if isDigit d then
              (readDigitsWith isDigit fuel rest).map fun (tail, rest) => (c :: tail, rest)
            else some ([c], rest)
        | [] => some ([c], [])
      else none

/-- Digits with single underscores between them, and what follows. -/
def readDigitGroup (isDigit : Char → Bool) (t : Text) : Option (Text × Text) :=
  readDigitsWith isDigit (t.length + 1) t

/-- The sign in front, whether it is a minus, and what follows it. -/
def readSign : Text → Bool × Text
  | '+' :: rest => (false, rest)
  | '-' :: rest => (true, rest)
  | t => (false, t)

/-- Decimal digits without needless zeros in front, and what follows. A zero stands alone. -/
def readWhole : Text → Option (Text × Text)
  | '0' :: rest => some (['0'], rest)
  | t => readDigitGroup Char.isDigit t

/-- A whole number with a sign that fits into 64 bits. -/
def integer? (n : Int) : Option Value :=
  if Int64.minValue.toInt ≤ n ∧ n ≤ Int64.maxValue.toInt then some (.integer n) else none

def inBase (base : Nat) (digits : Text) : Nat :=
  digits.foldl (fun n c => n * base + (Json.hexValue? c).getD 0) 0

/-- A whole number in another base after its mark, and what follows it. -/
def readInBase (base : Nat) (t : Text) : Option (Value × Text) := do
  let isDigit := fun c => (Json.hexValue? c).any (· < base)
  let (digits, rest) ← readDigitGroup isDigit t
  let value ← integer? (inBase base digits)
  some (value, rest)

/-- A whole number and what follows it. -/
def readInteger : Text → Option (Value × Text)
  | '0' :: 'x' :: rest => readInBase 16 rest
  | '0' :: 'o' :: rest => readInBase 8 rest
  | '0' :: 'b' :: rest => readInBase 2 rest
  | t => do
      let (negative, body) := readSign t
      let (digits, rest) ← readWhole body
      let n : Int := Json.ofDigits digits
      let value ← integer? (if negative then -n else n)
      some (value, rest)

/-- The exponent in front, if there is one. A mark without digits is refused. -/
def readPower (t : Text) : Option (Option Int × Text) :=
  match t with
  | c :: rest =>
      if c = 'e' || c = 'E' then do
        let (negative, body) := readSign rest
        let (digits, others) ← readDigitGroup Char.isDigit body
        let n : Int := Json.ofDigits digits
        some (some (if negative then -n else n), others)
      else some (none, t)
  | [] => some (none, t)

/-- A number with a fraction or an exponent. One that is too large is refused. -/
def readDecimal (t : Text) : Option (Value × Text) := do
  let (negative, body) := readSign t
  let (whole, rest) ← readWhole body
  let (fraction, rest) ←
    match rest with
    | '.' :: others => (readDigitGroup Char.isDigit others).map fun (ds, more) => (some ds, more)
    | _ => some (none, rest)
  let (power, rest) ← readPower rest
  if fraction.isNone ∧ power.isNone then none
  let places := fraction.getD []
  let x :=
    Binary64.ofDecimal negative (Json.ofDigits (whole ++ places))
      (power.getD 0 - (places.length : Int))
  if x = .infinite false then none else some (.float x, rest)

/-- An infinite number or what is no number, with a sign, and what follows it. -/
def readSpecial (t : Text) : Option (Value × Text) :=
  let (negative, body) := readSign t
  match body with
  | 'i' :: 'n' :: 'f' :: rest => some (.float (.infinite negative), rest)
  | 'n' :: 'a' :: 'n' :: rest => some (.float .notANumber, rest)
  | _ => none

def readNumber (t : Text) : Option (Value × Text) :=
  (readDecimal t).orElse fun _ => (readSpecial t).orElse fun _ => readInteger t

end HandlerGuard.Toml
