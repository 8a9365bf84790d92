import Signpost.Text.Numeral

/-!
# Binary fractions and their shortest decimals

A number with a fractional part is kept as a binary fraction: a whole number of
at most 53 bits times a power of two.  `BinaryFraction.nearest` rounds a
quotient to such a number, a half to the even neighbour.

It is written with the fewest digits that lie among the decimals rounding to it.
The coarsest decimal grid with a point among those decimals is searched for; of
two points on it the nearer one is taken, and of two equally near ones the even
one.  Plain notation is used for magnitudes from 10⁻⁵ to 10¹⁶, and an exponent
beyond that.
-/

namespace Signpost

/-- The number `mantissa * 2 ^ exponent`. -/
structure BinaryFraction where
  mantissa : Nat
  exponent : Int
  deriving DecidableEq, Repr

namespace BinaryFraction

/-- The bits of the longest mantissa. -/
def precision : Nat := 53

/-- No mantissa reaches this number. -/
def mantissaBound : Nat := Nat.pow 2 precision

/-- The least exponent. -/
def minExponent : Int := -1074

/-- The factors that stand for a power of a base in a numerator and in a denominator. -/
def powerParts (base : Nat) (exponent : Int) : Nat × Nat :=
  (base.pow exponent.toNat, base.pow (-exponent).toNat)

/-- A quotient in units of a power of two, rounded to the nearest whole number. -/
def inUnits (num den : Nat) (exponent : Int) : Nat :=
  let (up, down) := powerParts 2 exponent
  Numeral.roundQuotient (num * down) (den * up)

/-- The binary fraction nearest to a quotient. -/
def nearest (num den : Nat) : BinaryFraction :=
  let guess := (num.log2 : Int) - den.log2 - precision
  let exponent := max minExponent guess
  let mantissa := inUnits num den exponent
  if mantissa < mantissaBound then { mantissa, exponent }
  else
    let mantissa := inUnits num den (exponent + 1)
    if mantissa < mantissaBound then { mantissa, exponent := exponent + 1 }
    else { mantissa := mantissaBound / 2, exponent := exponent + 2 }

/-- The number in quarters of its last place, with the ends of the range that rounds to it.  Below
a power of two the places are half as wide. -/
def quarters (x : BinaryFraction) : Nat × Nat × Nat :=
  let narrow := x.mantissa == mantissaBound / 2 && minExponent < x.exponent
  (4 * x.mantissa - (if narrow then 1 else 2), 4 * x.mantissa, 4 * x.mantissa + 2)

/-- The multiple of `10 ^ place` that is nearest to the number among those rounding to it. -/
def onGrid? (x : BinaryFraction) (place : Int) : Option Nat :=
  let (low, middle, high) := x.quarters
  let (tenUp, tenDown) := powerParts 10 place
  let (twoUp, twoDown) := powerParts 2 (x.exponent - 2)
  let step := tenUp * twoDown
  let unit := twoUp * tenDown
  let closed := x.mantissa % 2 == 0
  let inside (digits : Nat) : Bool :=
    let point := digits * step
    (low * unit < point && point < high * unit) ||
      (closed && (low * unit == point || point == high * unit))
  let below := middle * unit / step
  let twice := 2 * middle * unit
  let sum := (2 * below + 1) * step
  match inside below, inside (below + 1) with
  | false, false => none
  | true, false => some below
  | false, true => some (below + 1)
  | true, true =>
    if twice < sum then some below
    else if sum < twice then some (below + 1)
    else if below % 2 == 0 then some below
    else some (below + 1)

/-- The decimal places searched, coarsest first. -/
def places : List Int := (List.range 700).map fun (below : Nat) => 309 - (below : Int)

/-- The fewest digits that round to the number, with the place of the last one. -/
def shortest (x : BinaryFraction) : Nat × Int :=
  (places.findSome? fun place => (x.onGrid? place).map fun digits => (digits, place)).getD (0, 0)

def zeros (count : Nat) : String := String.ofList (List.replicate count '0')

/-- The shortest decimal, with a point or an exponent. -/
def text (x : BinaryFraction) : String :=
  let (number, place) := x.shortest
  let digits := Nat.toDigits 10 number
  let point := (digits.length : Int) + place
  if number == 0 then "0.0"
  else if 0 ≤ place ∧ point ≤ 16 then String.ofList digits ++ zeros place.toNat ++ ".0"
  else if 0 < point ∧ point ≤ 16 then
    String.ofList (digits.take point.toNat) ++ "." ++ String.ofList (digits.drop point.toNat)
  else if -5 < point ∧ point ≤ 0 then "0." ++ zeros (-point).toNat ++ String.ofList digits
  else
    let mark := if digits.length == 1 then "" else "."
    String.ofList (digits.take 1) ++ mark ++ String.ofList (digits.drop 1) ++ "e" ++
      Numeral.decimalInt (point - 1)

end BinaryFraction

end Signpost
