/-!
# The shortest decimal of a float

Every finite float is a whole number times a power of two, and every real number near enough to it
rounds to it. `shortest` finds a decimal with the fewest digits among the reals that round to a
given float, and of two such decimals the nearer one; of two equally near ones it takes the larger.
All of it is exact arithmetic on whole numbers. `Decimal.positional` writes a decimal without an
exponent.
-/

set_option autoImplicit false
set_option relaxedAutoImplicit false

namespace Packrat

/-- How many fractions the floats of one exponent have: the bits of a float hold its sign, its
exponent and its fraction, the latter in 52 bits. -/
def fractionCount : Nat := 0x10000000000000

/-- How many exponents floats have; the last one is that of infinity and of what is no number. -/
def exponentCount : Nat := 0x800

/-- The number `digits * 10 ^ exponent`. -/
structure Decimal where
  /-- The significant digits, as a whole number. -/
  digits : Nat
  /-- The power of ten. -/
  exponent : Int
deriving DecidableEq, Repr

namespace Decimal

/-- How many decimal digits a whole number has. -/
def digitCount (n : Nat) : Nat := (Nat.toDigits 10 n).length

/-- The same number without zeros at the end of its digits; at most `room` of them are dropped. -/
def dropZeros : Nat → Decimal → Decimal
  | 0, d => d
  | room + 1, d =>
    if d.digits ≠ 0 ∧ d.digits % 10 = 0 then dropZeros room ⟨d.digits / 10, d.exponent + 1⟩ else d

/-- The decimal written with all its places and without an exponent. -/
def positional (d : Decimal) : List Char :=
  let written := Nat.toDigits 10 d.digits
  if 0 ≤ d.exponent then written ++ List.replicate d.exponent.toNat '0'
  else
    let places := (-d.exponent).toNat
    let padded := List.replicate (places + 1 - written.length) '0' ++ written
    padded.take (padded.length - places) ++ '.' :: padded.drop (padded.length - places)

end Decimal

/-- The reals that round to a positive float, as fractions over one denominator: the float itself
and the two ends, which belong to the interval when `closed` holds. -/
structure RoundingInterval where
  /-- Numerator of the float. -/
  value : Nat
  /-- Numerator of the lower end. -/
  low : Nat
  /-- Numerator of the upper end. -/
  high : Nat
  /-- The common denominator. -/
  denominator : Nat
  /-- Whether the ends round to the float too. -/
  closed : Bool

namespace RoundingInterval

/-- The interval of a positive finite float, from the bits of its exponent and of its fraction. The
float is `mantissa * 2 ^ power`; the gap below a power of two is half as wide. -/
def ofFields (exponent fraction : Nat) : RoundingInterval :=
  let mantissa := if exponent = 0 then fraction else fractionCount + fraction
  let power : Int := (if exponent = 0 then 1 else (exponent : Int)) - 1075
  let below := if fraction = 0 ∧ 1 < exponent then 1 else 2
  let scale := Nat.pow 2 (power - 2).toNat
  { value := 4 * mantissa * scale
    low := (4 * mantissa - below) * scale
    high := (4 * mantissa + 2) * scale
    denominator := Nat.pow 2 (2 - power).toNat
    closed := mantissa % 2 == 0 }

/-- The least place such that the float is below ten to that place. -/
def place (interval : RoundingInterval) : Int :=
  (Decimal.digitCount (interval.value * Nat.pow 10 340 / interval.denominator) : Int) - 340

/-- Whether a decimal rounds to the float. -/
def holds (interval : RoundingInterval) (d : Decimal) : Bool :=
  let point := d.digits * Nat.pow 10 d.exponent.toNat * interval.denominator
  let unit := Nat.pow 10 (-d.exponent).toNat
  if interval.closed then interval.low * unit ≤ point && point ≤ interval.high * unit
  else interval.low * unit < point && point < interval.high * unit

/-- The neighbours of the float among the multiples of ten to the given power: the greatest that is
not above it, and the next one. -/
def neighbours (interval : RoundingInterval) (exponent : Int) : Decimal × Decimal :=
  let whole := interval.value * Nat.pow 10 (-exponent).toNat /
    (interval.denominator * Nat.pow 10 exponent.toNat)
  (⟨whole, exponent⟩, ⟨whole + 1, exponent⟩)

/-- Whether the middle of two neighbours is at most the float. -/
def upperIsNearer (interval : RoundingInterval) (lower : Decimal) : Bool :=
  (2 * lower.digits + 1) * Nat.pow 10 lower.exponent.toNat * interval.denominator ≤
    2 * interval.value * Nat.pow 10 (-lower.exponent).toNat

/-- The decimal of the interval with the given number of digits that is nearest to the float. -/
def nearest? (interval : RoundingInterval) (count : Nat) : Option Decimal :=
  let (lower, upper) := interval.neighbours (interval.place - count)
  if interval.holds upper && (interval.upperIsNearer lower || !interval.holds lower) then some upper
  else if interval.holds lower then some lower
  else none

/-- The decimal with the fewest digits that rounds to the float; seventeen always suffice. -/
def shortest (interval : RoundingInterval) : Decimal :=
  ((List.range' 1 17).findSome? interval.nearest?).getD ⟨0, 0⟩ |>.dropZeros 400

end RoundingInterval

/-- The text of a float in full: its shortest decimal without an exponent, `inf` and `NaN`. -/
def floatDigits (x : Float) : List Char :=
  let bits := x.toBits.toNat
  let sign := if fractionCount * exponentCount ≤ bits then ['-'] else []
  let exponent := bits / fractionCount % exponentCount
  let fraction := bits % fractionCount
  if exponent + 1 = exponentCount then
    if fraction = 0 then sign ++ ['i', 'n', 'f'] else ['N', 'a', 'N']
  else if exponent = 0 ∧ fraction = 0 then sign ++ ['0']
  else sign ++ (RoundingInterval.ofFields exponent fraction).shortest.positional

/-- Whether a float is a whole number below ten to the sixteenth in size. -/
def isSmallWhole (x : Float) : Bool :=
  let bits := x.toBits.toNat
  let exponent := bits / fractionCount % exponentCount
  let interval := RoundingInterval.ofFields exponent (bits % fractionCount)
  exponent + 1 ≠ exponentCount && interval.value % interval.denominator == 0 &&
    interval.value < Nat.pow 10 16 * interval.denominator

/-- The text of a float in results: whole numbers below ten to the sixteenth keep one place after
the point, all others are written in full. -/
def floatText (x : Float) : List Char :=
  if isSmallWhole x then floatDigits x ++ ['.', '0'] else floatDigits x

end Packrat
