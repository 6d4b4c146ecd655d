import HandlerGuard.Text.Basic

namespace HandlerGuard

/-- A floating-point number of 64 bits; a finite one is `mantissa * 2 ^ exponent` with its sign. -/
inductive Binary64 where
  | finite (negative : Bool) (mantissa : Nat) (exponent : Int)
  | infinite (negative : Bool)
  | notANumber
deriving DecidableEq, Repr

namespace Binary64

/-- A quotient as numerator and denominator. -/
abbrev Ratio := Nat × Nat

/-- The quotient times a power of `base`. -/
def scale (r : Ratio) (base : Nat) (exponent : Int) : Ratio :=
  if 0 ≤ exponent then (r.1 * base.pow exponent.toNat, r.2)
  else (r.1, r.2 * base.pow (-exponent).toNat)

/-- The whole number nearest to a quotient; of two the even one. -/
def nearest (r : Ratio) : Nat :=
  let low := r.1 / r.2
  let twice := 2 * (r.1 % r.2)
  if twice < r.2 then low
  else if r.2 < twice then low + 1
  else if low % 2 = 0 then low
  else low + 1

def leastExponent : Int := -1074

def leastMantissa : Nat := Nat.pow 2 52

/-- The number nearest to a quotient. -/
def ofRatio (negative : Bool) (r : Ratio) : Binary64 :=
  if r.1 = 0 then .finite negative 0 leastExponent
  else
    let guess : Int := (Nat.log2 r.1 : Int) - (Nat.log2 r.2 : Int) - 52
    let scaled := scale r 2 (-guess)
    let exponent :=
      max (if scaled.1 / scaled.2 < leastMantissa then guess - 1 else guess) leastExponent
    let mantissa := nearest (scale r 2 (-exponent))
    let (mantissa, exponent) :=
      if mantissa = 2 * leastMantissa then (leastMantissa, exponent + 1) else (mantissa, exponent)
    if 971 < exponent then .infinite negative else .finite negative mantissa exponent

/-- The number nearest to `digits * 10 ^ exponent`. Beyond four hundred places it is infinite or
zero. -/
def ofDecimal (negative : Bool) (digits : Nat) (exponent : Int) : Binary64 :=
  let places : Int := (Nat.toDigits 10 digits).length
  if digits = 0 then .finite negative 0 leastExponent
  else if 400 < places + exponent then .infinite negative
  else if places + exponent < -400 then .finite negative 0 leastExponent
  else ofRatio negative (scale (digits, 1) 10 exponent)

/-- The quotient that `mantissa * 2 ^ exponent` is. -/
def ratio (mantissa : Nat) (exponent : Int) : Ratio := scale (mantissa, 1) 2 exponent

/-- The product, rounded to the nearest number. -/
def times : Binary64 → Binary64 → Binary64
  | .finite m a e, .finite n b f =>
      let x := ratio a e
      let y := ratio b f
      ofRatio (m != n) (x.1 * y.1, x.2 * y.2)
  | .infinite m, .finite n b _ => if b = 0 then .notANumber else .infinite (m != n)
  | .finite m a _, .infinite n => if a = 0 then .notANumber else .infinite (m != n)
  | .infinite m, .infinite n => .infinite (m != n)
  | _, _ => .notANumber

/-- The quotient of two numbers, rounded to the nearest number. -/
def dividedBy : Binary64 → Binary64 → Binary64
  | .finite m a e, .finite n b f =>
      if b = 0 then if a = 0 then .notANumber else .infinite (m != n)
      else
        let x := ratio a e
        let y := ratio b f
        ofRatio (m != n) (x.1 * y.2, x.2 * y.1)
  | .infinite m, .finite n _ _ => .infinite (m != n)
  | .finite m _ _, .infinite n => .finite (m != n) 0 leastExponent
  | _, _ => .notANumber

/-- One quotient is at most the other. -/
def atMost (a b : Ratio) : Bool := a.1 * b.2 ≤ b.1 * a.2

/-- One quotient is less than the other. -/
def below (a b : Ratio) : Bool := a.1 * b.2 < b.1 * a.2

/-- One number is less than the other. -/
def less : Binary64 → Binary64 → Bool
  | .finite m a e, .finite n b f =>
      if a = 0 && b = 0 then false
      else
        match m, n with
        | false, false => below (ratio a e) (ratio b f)
        | true, true => below (ratio b f) (ratio a e)
        | true, false => true
        | false, true => false
  | .infinite m, .infinite n => m && !n
  | .infinite m, .finite _ _ _ => m
  | .finite _ _ _, .infinite n => !n
  | _, _ => false

def distance (a b : Ratio) : Ratio :=
  (a.1 * b.2 - b.1 * a.2 + (b.1 * a.2 - a.1 * b.2), a.2 * b.2)

/-- The exponent of ten of the first digit of a quotient, from a guess that is at most a few too
low. -/
def leadingExponent (r : Ratio) : Nat → Int → Int
  | 0, guess => guess
  | fuel + 1, guess =>
      if below r (scale (1, 1) 10 (guess + 1)) then guess else leadingExponent r fuel (guess + 1)

/-- The decimal with so many digits that lies between two bounds and nearest to the value, if there is
one, as its digits and the exponent of the last of them. -/
def candidate? (value low high : Ratio) (inclusive : Bool) (leading : Int) (count : Nat) :
    Option (Nat × Int) :=
  let unit : Int := leading - (count : Int) + 1
  let scaled := scale value 10 (-unit)
  let down := scaled.1 / scaled.2
  let fits (d : Nat) : Bool :=
    let point := scale (d, 1) 10 unit
    if inclusive then atMost low point && atMost point high else below low point && below point high
  let far (d : Nat) : Ratio := distance value (scale (d, 1) 10 unit)
  if fits down && fits (down + 1) then
    some (if below (far (down + 1)) (far down) then (down + 1, unit) else (down, unit))
  else if fits down then some (down, unit)
  else if fits (down + 1) then some (down + 1, unit)
  else none

/-- The shortest decimal that `mantissa * 2 ^ exponent` is the nearest number to. -/
def shortest (mantissa : Nat) (exponent : Int) : Nat × Int :=
  let at4 (n : Nat) : Ratio := scale (n, 4) 2 exponent
  let value := at4 (4 * mantissa)
  let low :=
    if mantissa = leastMantissa ∧ leastExponent < exponent then at4 (4 * mantissa - 1)
    else at4 (4 * mantissa - 2)
  let high := at4 (4 * mantissa + 2)
  let guess : Int := ((Nat.log2 mantissa : Int) + exponent) * 30103 / 100000 - 1
  let leading := leadingExponent value 4 guess
  ((List.range 17).findSome? fun n =>
    candidate? value low high (mantissa % 2 = 0) leading (n + 1)).getD (mantissa, 0)

/-- A decimal without an exponent and without needless zeros. -/
def positional (digits : Nat) (exponent : Int) : Text :=
  let written := Text.ofNat digits
  if 0 ≤ exponent then written ++ List.replicate exponent.toNat '0'
  else
    let places := (-exponent).toNat
    let padded := List.replicate (places + 1 - written.length) '0' ++ written
    let fraction := (padded.drop (padded.length - places)).reverse.dropWhile (· = '0')
    let whole := padded.take (padded.length - places)
    if fraction.isEmpty then whole else whole ++ '.' :: fraction.reverse

/-- The number in decimal notation, with as few digits as tell it from all others. -/
def toText : Binary64 → Text
  | .finite negative mantissa exponent =>
      let sign := if negative then ['-'] else []
      if mantissa = 0 then sign ++ ['0']
      else
        let (digits, unit) := shortest mantissa exponent
        sign ++ positional digits unit
  | .infinite negative => if negative then "-inf".toList else "inf".toList
  | .notANumber => "NaN".toList

end Binary64

end HandlerGuard
