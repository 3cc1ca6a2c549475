/-!
# Decimal text of floating-point numbers

A finite number is written with the fewest digits that read back as the same number, without an exponent:
`1`, `0.5`, `100000000000000000000`.

A number is a natural number times a power of two.  The real numbers that are rounded to it form an
interval, whose ends belong to it when the factor is even.  For one digit, two digits and so on, the two
neighbours of the number among the decimals of that many digits are tested for lying in the interval.  The
first count with a hit is taken; of two hits the nearer wins, and the upper one if they are equally near.
All of it is exact arithmetic on natural numbers.

In the other direction `ofDecimal` reads a natural number times a power of ten.
-/

namespace RuleMatch.Number

/-- Whether an integer has a binary form of 64 bits with a sign. -/
def fitsWord (n : Int) : Bool :=
  -0x8000000000000000 ≤ n && n < 0x8000000000000000

/-- A positive fraction. -/
structure Ratio where
  num : Nat
  den : Nat

namespace Ratio

/-- The number `m` times two to the power `q`. -/
def scaled (m : Nat) (q : Int) : Ratio :=
  if 0 ≤ q then ⟨m * Nat.pow 2 q.toNat, 1⟩ else ⟨m, Nat.pow 2 (-q).toNat⟩

/-- A number divided by ten to the power `p`. -/
def shift (x : Ratio) (p : Int) : Ratio :=
  if 0 ≤ p then ⟨x.num, x.den * Nat.pow 10 p.toNat⟩
  else ⟨x.num * Nat.pow 10 (-p).toNat, x.den⟩

/-- Whether `n` lies below a fraction, or at it where the bound is included. -/
def allowsBelow (x : Ratio) (included : Bool) (n : Nat) : Bool :=
  n * x.den < x.num || (included && n * x.den == x.num)

/-- Whether `n` lies above a fraction, or at it where the bound is included. -/
def allowsAbove (x : Ratio) (included : Bool) (n : Nat) : Bool :=
  x.num < n * x.den || (included && n * x.den == x.num)

end Ratio

/-- A positive number of the floating-point format with the interval of reals that are rounded to it. -/
structure Rounded where
  value : Ratio
  lower : Ratio
  upper : Ratio
  /-- Whether the ends belong to the interval. -/
  closed : Bool

namespace Rounded

/-- The positive number with the given fields of its binary form: a biased exponent and a fraction. -/
def ofFields (exponent fraction : Nat) : Rounded :=
  let m := if exponent = 0 then fraction else fraction + 0x10000000000000
  let q : Int := (max exponent 1 : Nat) - 1075
  { value := .scaled m q
    lower := if fraction = 0 ∧ 1 < exponent then .scaled (4 * m - 1) (q - 2)
      else .scaled (2 * m - 1) (q - 1)
    upper := .scaled (2 * m + 1) (q - 1)
    closed := m % 2 == 0 }

/-- The least number of zeros behind the point in front of a fraction below one, in `steps` trials. -/
def zerosFrom (x : Ratio) : (steps zeros : Nat) → Nat
  | 0, zeros => zeros
  | steps + 1, zeros =>
      if x.den ≤ x.num * Nat.pow 10 (zeros + 1) then zeros else zerosFrom x steps (zeros + 1)

/-- The power of ten of the leading digit. -/
def leadingPower (x : Ratio) : Int :=
  if x.den ≤ x.num then ((Nat.toDigits 10 (x.num / x.den)).length : Int) - 1
  else -((zerosFrom x 400 0 : Nat) : Int) - 1

/-- The best multiple of ten to the power `p` that is rounded to the number, by its factor. -/
def candidate? (x : Rounded) (p : Int) : Option Nat :=
  let value := x.value.shift p
  let low := value.num / value.den
  let high := low + 1
  let fits := fun n =>
    (x.lower.shift p).allowsAbove x.closed n && (x.upper.shift p).allowsBelow x.closed n
  if value.num % value.den = 0 then some low
  else if fits low then
    if fits high && high * value.den - value.num ≤ value.num - low * value.den then some high
    else some low
  else if fits high then some high
  else none

/-- The fewest decimal digits, from `count` digits on, and the power of ten that they are counted in. -/
def shortestFrom (x : Rounded) (power : Int) : (steps count : Nat) → Nat × Int
  | 0, count => (x.value.num / x.value.den, count)
  | steps + 1, count =>
      let p := power - (count : Int) + 1
      match candidate? x p with
      | some digits => (digits, p)
      | none => shortestFrom x power steps (count + 1)

/-- The shortest decimal that reads back as the number.  Where a digit is carried all the way up, the
decimal found is a power of ten, and its zero is taken off. -/
def shortest (x : Rounded) : Nat × Int :=
  let (digits, power) := shortestFrom x (leadingPower x.value) 20 1
  if digits % 10 = 0 then (digits / 10, power + 1) else (digits, power)

end Rounded

/-- A natural number times a power of ten, written without an exponent. -/
def positional (digits : Nat) (power : Int) : String :=
  let text := Nat.toDigits 10 digits
  if 0 ≤ power then String.ofList (text ++ List.replicate power.toNat '0')
  else
    let places := (-power).toNat
    let padded := List.replicate (places + 1 - text.length) '0' ++ text
    let whole := padded.length - places
    String.ofList (padded.take whole ++ '.' :: padded.drop whole)

/-- The text of a floating-point number. -/
def floatText (x : Float) : String :=
  let bits := x.toBits.toNat
  let sign := if bits / 0x8000000000000000 = 1 then "-" else ""
  let exponent := bits / 0x10000000000000 % 0x800
  let fraction := bits % 0x10000000000000
  if exponent = 2047 then
    if fraction = 0 then sign ++ "inf" else "NaN"
  else if exponent = 0 ∧ fraction = 0 then sign ++ "0"
  else
    let (digits, power) := (Rounded.ofFields exponent fraction).shortest
    sign ++ positional digits power

/-- The text of a floating-point number that is marked as such: a whole number ends in a point and a
zero. -/
def markedFloatText (x : Float) : String :=
  let text := floatText x
  if x.isFinite && !text.toList.contains '.' then text ++ ".0" else text

/-- The floating-point number nearest to `digits` times ten to the power `power`.  Powers far outside the
format are answered at once. -/
def ofDecimal (digits : Nat) (power : Int) : Float :=
  let leading := ((Nat.toDigits 10 digits).length : Int) + power
  if digits = 0 ∨ leading < -400 then 0
  else if 400 < leading then 1 / 0
  else Float.ofScientific digits (power < 0) power.natAbs

end RuleMatch.Number
