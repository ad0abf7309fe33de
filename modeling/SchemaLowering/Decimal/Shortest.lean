import SchemaLowering.Decimal.Binary

/-!
The shortest decimal text of a floating-point number: the fewest digits that read back as the same
number, and of those the nearest. The notation is positional for moderate exponents and scientific
for the others.
-/

namespace SchemaLowering

/-- A decimal `digits · 10 ^ scale`. -/
structure Decimal where
  digits : Nat
  scale : Int
  deriving DecidableEq, Repr

namespace Binary

/-- A positive number as a fraction, doubled so that half steps stay whole, with the distances to
the nearest values that still round to it. -/
structure Neighbourhood where
  den : Nat
  value : Nat
  below : Nat
  above : Nat
  closed : Bool

/-- Every point of the neighbourhood rounds to the number; its ends do when the mantissa is even.
Below a power of two the spacing of the format is halved. -/
def neighbourhood (mantissa : Nat) (exponent : Int) : Neighbourhood :=
  let up := Nat.pow 2 exponent.toNat
  let down := Nat.pow 2 (-exponent).toNat
  let narrow := mantissa = Nat.pow 2 (precision - 1) ∧ leastExponent < exponent
  { den := 4 * down
    value := 4 * mantissa * up
    below := if narrow then up else 2 * up
    above := 2 * up
    closed := mantissa % 2 = 0 }

/-- Whether the fraction `num / den` lies in the neighbourhood. -/
def Neighbourhood.holds (n : Neighbourhood) (num den : Nat) : Bool :=
  let point := num * n.den
  let low := (n.value - n.below) * den
  let high := (n.value + n.above) * den
  if n.closed then low ≤ point && point ≤ high else low < point && point < high

/-- The largest power of ten that is at most `num / den`, for a positive fraction, searched upwards
from a lower bound. -/
def powerOfTen (num den : Nat) : Nat → Int → Int
  | 0, power => power
  | fuel + 1, power =>
    let next := power + 1
    let fits := if 0 ≤ next then Nat.pow 10 next.toNat * den ≤ num
      else den ≤ num * Nat.pow 10 (-next).toNat
    if fits then powerOfTen num den fuel next else power

/-- The nearest decimal with the given scale that lies in the neighbourhood, the even one of two
that are equally near. -/
def Neighbourhood.decimal? (n : Neighbourhood) (scale : Int) : Option Decimal :=
  let up := Nat.pow 10 scale.toNat
  let down := Nat.pow 10 (-scale).toNat
  let num := n.value * down
  let den := n.den * up
  let whole := num / den
  let floorHolds := 0 < whole && n.holds (whole * up) down
  let ceilHolds := n.holds ((whole + 1) * up) down
  let twice := 2 * (num % den)
  if floorHolds && (!ceilHolds || twice < den || (twice == den && whole % 2 == 0)) then
    some ⟨whole, scale⟩
  else if ceilHolds then some ⟨whole + 1, scale⟩
  else none

/-- The first decimal found on finer and finer grids. -/
def Neighbourhood.search (n : Neighbourhood) : Nat → Int → Decimal
  | 0, scale => ⟨n.value / n.den, scale⟩
  | fuel + 1, scale => (n.decimal? scale).getD (n.search fuel (scale - 1))

/-- The shortest decimal that reads back as the positive number `mantissa · 2 ^ exponent`. Seventeen
digits always suffice. -/
def shortest (mantissa : Nat) (exponent : Int) : Decimal :=
  let n := neighbourhood mantissa exponent
  let top := powerOfTen n.value n.den 700 (-330)
  n.search 18 (top + 1)

/-- How a decimal is laid out as text. -/
structure Layout where
  /-- The least power of ten of the first digit that is written positionally. -/
  leastPower : Int
  /-- From this power of the first digit on, the notation is scientific. -/
  scientificFrom : Int
  /-- Digits of the exponent are filled up to this number. -/
  exponentWidth : Nat

/-- Numbers from `0.0001` up to sixteen digits are positional; an exponent has a sign and at least
two digits. -/
def plainLayout : Layout := ⟨-4, 16, 2⟩

/-- Digits with a point after the first `count`, filled with zeros on either side, and at least one
digit after the point. -/
def positional (digits : List Char) (count : Int) : List Char :=
  if count ≤ 0 then '0' :: '.' :: (List.replicate (-count).toNat '0' ++ digits)
  else
    let whole := digits.take count.toNat
    let fraction := digits.drop count.toNat
    whole ++ List.replicate (count.toNat - whole.length) '0'
      ++ '.' :: (if fraction.isEmpty then ['0'] else fraction)

/-- Digits with a point after the first and the power of ten after them. -/
def scientific (style : Layout) (digits : List Char) (power : Int) : List Char :=
  let mantissa := match digits with
    | first :: rest@(_ :: _) => first :: '.' :: rest
    | short => short
  let exponent := Nat.toDigits 10 power.natAbs
  let filled := List.replicate (style.exponentWidth - exponent.length) '0' ++ exponent
  mantissa ++ 'e' :: (if power < 0 then '-' else '+') :: filled

/-- The text of a positive decimal. -/
def laidOut (style : Layout) (decimal : Decimal) : List Char :=
  let all := Nat.toDigits 10 decimal.digits
  let power : Int := all.length + decimal.scale - 1
  let digits := (all.reverse.dropWhile (· == '0')).reverse
  if style.leastPower ≤ power ∧ power < style.scientificFrom then
    positional digits (power + 1)
  else scientific style digits power

/-- The shortest text that reads back as the number. -/
def text : Binary → String
  | .nan => "nan"
  | .infinite negative => if negative then "-inf" else "inf"
  | .finite negative mantissa exponent =>
    let unsigned :=
      if mantissa = 0 then ['0', '.', '0']
      else laidOut plainLayout (shortest mantissa exponent)
    String.ofList (if negative then '-' :: unsigned else unsigned)

end Binary

end SchemaLowering
