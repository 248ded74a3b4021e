namespace ApexConstants.Number

/-- A binary floating point value. A finite one is `significand * 2 ^ exponent` with the sign given;
the significand has 53 bits unless the exponent is the least one. -/
inductive Binary64
  | finite (negative : Bool) (significand : Nat) (exponent : Int)
  | infinite (negative : Bool)
  | notANumber
deriving DecidableEq, Repr

namespace Binary64

def leastExponent : Int := -1074

def greatestExponent : Int := 971

def leastFull : Nat := Nat.pow 2 52

def significandBound : Nat := Nat.pow 2 53

def isZero : Binary64 → Bool
  | .finite _ m _ => m == 0
  | _ => false

/-- `numerator / denominator` rounded to a whole number, a half going to the even neighbour. -/
def roundedQuotient (numerator denominator : Nat) : Nat :=
  let q := numerator / denominator
  let r := numerator % denominator
  if 2 * r < denominator then q
  else if denominator < 2 * r then q + 1
  else if q % 2 == 0 then q else q + 1

def power (base : Nat) (e : Int) : Nat × Nat := (Nat.pow base e.toNat, Nat.pow base (-e).toNat)

def truncated? : Binary64 → Option Int
  | .finite negative m e =>
    let (up, down) := power 2 e
    let n : Int := (m * up / down : Nat)
    some (if negative then -n else n)
  | _ => none

def isBelow (n : Nat) : Binary64 → Bool
  | .finite true m _ => n != 0 || m != 0
  | .finite false m e =>
    let (up, down) := power 2 e
    m * up < n * down
  | .infinite negative => negative
  | .notANumber => false

/-- The value nearest to a positive quotient: the exponent is chosen so that the significand has
53 bits, and no lower than the least. -/
def nearest (negative : Bool) (numerator denominator : Nat) : Binary64 :=
  let guess : Int := (numerator.log2 : Int) - denominator.log2 - 52
  let scaled (e : Int) : Nat × Nat :=
    let (up, down) := power 2 (-e)
    (numerator * up, denominator * down)
  let (n, d) := scaled guess
  let e := max (if n < leastFull * d then guess - 1 else guess) leastExponent
  let (n, d) := scaled e
  let m := roundedQuotient n d
  let (m, e) := if m == significandBound then (m / 2, e + 1) else (m, e)
  if greatestExponent < e then .infinite negative else .finite negative m e

/-- The value of `digits * 10 ^ exponent`. A number far outside the range is settled by its size. -/
def ofDecimal (negative : Bool) (digits : Nat) (exponent : Int) : Binary64 :=
  let size : Int := (Nat.toDigits 10 digits).length + exponent
  if digits == 0 || size < -400 then .finite negative 0 leastExponent
  else if 400 < size then .infinite negative
  else
    let (up, down) := power 10 exponent
    nearest negative (digits * up) down

end Binary64

end ApexConstants.Number

namespace ApexConstants.Number.Binary64

structure Interval where
  low : Nat
  middle : Nat
  high : Nat
  denominator : Nat
  closed : Bool

/-- The reals that read as `significand * 2 ^ exponent`. Below a power of two the neighbours stand
twice as close. -/
def interval (significand : Nat) (exponent : Int) : Interval :=
  let (up, down) := power 2 (exponent - 2)
  let below := if significand == leastFull && leastExponent < exponent then 1 else 2
  { low := (4 * significand - below) * up
    middle := 4 * significand * up
    high := (4 * significand + 2) * up
    denominator := down
    closed := significand % 2 == 0 }

def Interval.has (i : Interval) (numerator denominator : Nat) : Bool :=
  let x := numerator * i.denominator
  if i.closed then i.low * denominator ≤ x && x ≤ i.high * denominator
  else i.low * denominator < x && x < i.high * denominator

/-- The point of the grid with step `10 ^ e` that lies in the interval and is nearest to its
middle, as a multiple of the step. Of two that are equally near the even one is taken. -/
def Interval.point? (i : Interval) (e : Int) : Option Nat :=
  let (up, down) := power 10 e
  let under := i.middle * down / (i.denominator * up)
  let fits (k : Nat) := i.has (k * up) down
  match fits under, fits (under + 1) with
  | true, false => some under
  | false, true => some (under + 1)
  | false, false => none
  | true, true =>
    let twice := 2 * (i.middle * down)
    let between := (2 * under + 1) * (i.denominator * up)
    if twice < between || twice == between && under % 2 == 0 then some under
    else some (under + 1)

/-- The number of decimal digits before the point of `numerator / denominator`, zero or less when
it is below one: found from an estimate that is at most one too small. -/
def decimalPlaces (numerator denominator : Nat) : Int :=
  let bits : Int := (numerator.log2 : Int) - denominator.log2
  let estimate : Int := bits * 30103 / 100000
  let reaches (k : Int) : Bool :=
    let (up, down) := power 10 k
    denominator * up ≤ numerator * down
  let rec climb : Nat → Int → Int
    | 0, k => k
    | fuel + 1, k => if reaches k then climb fuel (k + 1) else k
  climb 5 (estimate - 1)

def Interval.shortest (i : Interval) : Nat → Int → Nat × Int
  | 0, e => (i.middle / i.denominator, e)
  | count + 1, e =>
    match i.point? e with
    | some k => (k, e)
    | none => i.shortest count (e - 1)

def shortestDigits (significand : Nat) (exponent : Int) : List Char × Int :=
  let i := interval significand exponent
  let places := decimalPlaces i.middle i.denominator
  let (k, e) := i.shortest 18 (places - 1)
  let digits := Nat.toDigits 10 k
  let kept := (digits.reverse.dropWhile (· == '0')).reverse
  (kept, (digits.length : Int) + e)

def positional (digits : List Char) (point : Int) : List Char :=
  if point ≤ 0 then '0' :: '.' :: List.replicate (-point).toNat '0' ++ digits
  else
    let n := point.toNat
    let whole := digits.take n ++ List.replicate (n - digits.length) '0'
    let fraction := digits.drop n
    whole ++ '.' :: (if fraction.isEmpty then ['0'] else fraction)

def scientific (digits : List Char) (point : Int) : List Char :=
  let e := point - 1
  let size := Nat.toDigits 10 e.natAbs
  let fraction := digits.drop 1
  digits.take 1 ++ (if fraction.isEmpty then [] else '.' :: fraction) ++
    'e' :: (if e < 0 then '-' else '+') :: List.replicate (2 - size.length) '0' ++ size

/-- The text of a value: positional from `0.0001` up to sixteen digits before the point, scientific
elsewhere. -/
def text : Binary64 → String
  | .notANumber => "nan"
  | .infinite negative => if negative then "-inf" else "inf"
  | .finite negative m e =>
    let sign := if negative then ['-'] else []
    if m == 0 then String.ofList (sign ++ ['0', '.', '0'])
    else
      let (digits, point) := shortestDigits m e
      String.ofList
        (sign ++ if -4 < point && point ≤ 16 then positional digits point else scientific digits point)

end ApexConstants.Number.Binary64
