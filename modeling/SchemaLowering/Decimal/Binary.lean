/-!
Binary floating-point numbers of double precision, as exact values: a sign, a whole mantissa and a
power of two. Decimal notation is read to the nearest such number, ties going to the even mantissa.
-/

namespace SchemaLowering

/-- A number of double precision. A finite one is `± mantissa · 2 ^ exponent`. -/
inductive Binary where
  | finite (negative : Bool) (mantissa : Nat) (exponent : Int)
  | infinite (negative : Bool)
  | nan
  deriving DecidableEq, Repr

namespace Binary

/-- Mantissas stay below two to this power. -/
def precision : Nat := 53

/-- No exponent is lower. -/
def leastExponent : Int := -1074

/-- No exponent is higher. -/
def greatestExponent : Int := 971

def zero (negative : Bool) : Binary := .finite negative 0 leastExponent

/-- The whole number nearest to a quotient, the even one of two that are equally near. -/
def roundDiv (num den : Nat) : Nat :=
  let whole := num / den
  let twice := 2 * (num % den)
  if den < twice ∨ (twice = den ∧ whole % 2 = 1) then whole + 1 else whole

/-- The quotient scaled down by a power of two, as a new fraction. -/
def scaled (num den : Nat) (exponent : Int) : Nat × Nat :=
  if 0 ≤ exponent then (num, den * Nat.pow 2 exponent.toNat)
  else (num * Nat.pow 2 (-exponent).toNat, den)

/-- The exponent at which the whole part of a quotient fills the mantissa. -/
def exponentOf (num den : Nat) : Int :=
  let estimate : Int := (num.log2 : Int) - den.log2 - (precision - 1 : Nat)
  let (n, d) := scaled num den estimate
  let exact := if n / d < Nat.pow 2 (precision - 1) then estimate - 1 else estimate
  max exact leastExponent

/-- The number nearest to a positive quotient. -/
def ofQuotient (negative : Bool) (num den : Nat) : Binary :=
  let exponent := exponentOf num den
  let (n, d) := scaled num den exponent
  let mantissa := roundDiv n d
  let (mantissa, exponent) :=
    if mantissa = Nat.pow 2 precision then (Nat.pow 2 (precision - 1), exponent + 1)
    else (mantissa, exponent)
  if greatestExponent < exponent then .infinite negative else .finite negative mantissa exponent

/-- The number nearest to `± digits · 10 ^ scale`. Magnitudes far outside the range of the format
are settled by their number of digits. -/
def ofDecimal (negative : Bool) (digits : Nat) (scale : Int) : Binary :=
  let magnitude : Int := (Nat.toDigits 10 digits).length + scale
  if digits = 0 ∨ magnitude < -330 then zero negative
  else if 310 < magnitude then .infinite negative
  else if 0 ≤ scale then ofQuotient negative (digits * Nat.pow 10 scale.toNat) 1
  else ofQuotient negative digits (Nat.pow 10 (-scale).toNat)

/-- Whether a number is one of the two zeros. -/
def isZero : Binary → Bool
  | .finite _ 0 _ => true
  | _ => false

/-- Whether a number is exactly the given whole number. -/
def equalsInt : Binary → Int → Bool
  | .finite negative mantissa exponent, n =>
    let signed : Int := if negative then -mantissa else mantissa
    if 0 ≤ exponent then signed * Nat.pow 2 exponent.toNat == n
    else signed == n * Nat.pow 2 (-exponent).toNat
  | _, _ => false

/-- Equality of values: the two zeros are equal, and a value that is not a number equals itself. -/
def same (a b : Binary) : Bool :=
  a == b || (a.isZero && b.isZero)

end Binary

end SchemaLowering
