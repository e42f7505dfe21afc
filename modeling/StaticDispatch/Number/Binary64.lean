/-!
Contract: double-precision numbers as exact values.

A finite number is a sign and an exact size, so that `0.0` and `-0.0` are two
numbers of one value. An undefined number carries an identity, because it is
equal to nothing but itself.

Owns: the type, rounding a fraction to the nearest double, and the exact value
under which numbers of different kinds are compared.
Does not own: decimal text.
-/

namespace StaticDispatch.Number

inductive Binary64 where
  | finite (negative : Bool) (size : Dyadic)
  | infinite (negative : Bool)
  | undefined (identity : Nat)
deriving DecidableEq

/-- What numeric equality looks at: one value for all ways to write a number. -/
inductive Exact where
  | finite (value : Dyadic)
  | infinite (negative : Bool)
  | undefined (identity : Nat)
deriving DecidableEq

def Exact.ofInt (value : Int) : Exact :=
  .finite (Dyadic.ofInt value)

namespace Binary64

def exact : Binary64 → Exact
  | .finite negative size => .finite (if negative then -size else size)
  | .infinite negative => .infinite negative
  | .undefined identity => .undefined identity

/-- A quotient rounded to the nearest integer, a half to the even neighbour. -/
def roundQuotient (numerator denominator : Nat) : Nat :=
  let quotient := numerator / denominator
  let doubled := 2 * (numerator % denominator)
  if doubled < denominator ∨ (doubled = denominator ∧ quotient % 2 = 0) then
    quotient
  else
    quotient + 1

/-- The fraction `numerator / denominator` times `2 ^ shift`, as a fraction. -/
def scaled (numerator denominator : Nat) (shift : Int) : Nat × Nat :=
  if 0 ≤ shift then
    (numerator * Nat.pow 2 shift.toNat, denominator)
  else
    (numerator, denominator * Nat.pow 2 (-shift).toNat)

/-- The exponent of the leading binary digit of a positive fraction. -/
def leadingExponent (numerator denominator : Nat) : Int :=
  let guess : Int := numerator.log2 - denominator.log2
  let (upper, lower) := scaled numerator denominator (-guess)
  if upper < lower then guess - 1 else guess

/-- The exponent of the last binary digit that a double keeps, given the
exponent of its leading one. -/
def lastExponent (leading : Int) : Int :=
  max (leading - 52) (-1074)

/-- The double nearest to a fraction, a half to the even neighbour. Fractions
that round beyond the largest double are infinite. -/
def nearest (negative : Bool) (numerator denominator : Nat) : Binary64 :=
  if numerator = 0 then
    .finite negative .zero
  else
    let last := lastExponent (leadingExponent numerator denominator)
    let (upper, lower) := scaled numerator denominator (-last)
    let mantissa := roundQuotient upper lower
    if 971 < last ∨ (last = 971 ∧ Nat.pow 2 53 ≤ mantissa) then
      .infinite negative
    else
      .finite negative (Dyadic.ofIntWithPrec mantissa (-last))

end Binary64

end StaticDispatch.Number
