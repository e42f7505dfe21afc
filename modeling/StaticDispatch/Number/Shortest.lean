import StaticDispatch.Number.Binary64

/-!
Contract: the fewest decimal digits that read back as a given double.

For one, two and more digits, the two neighbours of the value on the grid of
decimals with that many digits are tried. The first grid with a neighbour inside
the interval of reals that round to the double wins; of two such neighbours the
nearer one is taken, and of two equally near the even one.

Owns: the interval of a double and the search.
Does not own: where the point and the exponent are written.
-/

namespace StaticDispatch.Number

/-- The decimal number `digits * 10 ^ exponent`. -/
structure Decimal where
  digits : Nat
  exponent : Int
deriving DecidableEq, Repr

namespace Shortest

/-- A positive double `mantissa * 2 ^ last` with the digits it keeps. -/
structure Kept where
  mantissa : Nat
  last : Int

def kept : Dyadic → Option Kept
  | .zero => none
  | .ofOdd odd precision _ =>
      let leading : Int := odd.natAbs.log2 - precision
      let last := Binary64.lastExponent leading
      some ⟨odd.natAbs * Nat.pow 2 (-precision - last).toNat, last⟩

/-- The interval of reals that round to a double, over one denominator. -/
structure Interval where
  lower : Nat
  value : Nat
  upper : Nat
  denominator : Nat
  closed : Bool

def Kept.interval (number : Kept) : Interval :=
  let atPower := number.mantissa = Nat.pow 2 52 ∧ -1074 < number.last
  let below := if atPower then 1 else 2
  let shift := number.last - 2
  let factor := if 0 ≤ shift then Nat.pow 2 shift.toNat else 1
  { lower := (4 * number.mantissa - below) * factor
    value := 4 * number.mantissa * factor
    upper := (4 * number.mantissa + 2) * factor
    denominator := if 0 ≤ shift then 1 else Nat.pow 2 (-shift).toNat
    closed := number.mantissa % 2 = 0 }

/-- Compares `digits * 10 ^ exponent` with `numerator / denominator`. -/
def compareTo (decimal : Decimal) (numerator denominator : Nat) : Ordering :=
  if 0 ≤ decimal.exponent then
    compare (decimal.digits * Nat.pow 10 decimal.exponent.toNat * denominator) numerator
  else
    compare (decimal.digits * denominator) (numerator * Nat.pow 10 (-decimal.exponent).toNat)

def Interval.admits (interval : Interval) (decimal : Decimal) : Bool :=
  let low := compareTo decimal interval.lower interval.denominator
  let high := compareTo decimal interval.upper interval.denominator
  if interval.closed then
    low != .lt && high != .gt
  else
    low == .gt && high == .lt

/-- The number of digits before the point; negative or zero for small values. -/
def pointPosition (numerator denominator : Nat) : Int :=
  ((Nat.toDigits 10 (numerator * Nat.pow 10 400 / denominator)).length : Int) - 400

/-- The better neighbour of the value on the grid with `count` digits. -/
def onGrid (interval : Interval) (point : Int) (count : Nat) : Option Decimal :=
  let exponent := point - count
  let (upper, lower) :=
    if 0 ≤ exponent then
      (interval.value, interval.denominator * Nat.pow 10 exponent.toNat)
    else
      (interval.value * Nat.pow 10 (-exponent).toNat, interval.denominator)
  let below : Decimal := ⟨upper / lower, exponent⟩
  let above : Decimal := ⟨upper / lower + 1, exponent⟩
  let nearer : Decimal := ⟨Binary64.roundQuotient upper lower, exponent⟩
  match interval.admits below, interval.admits above with
  | true, true => some nearer
  | true, false => some below
  | false, true => some above
  | false, false => none

/-- Moves trailing zeros of the digits into the exponent. -/
def trimZeros : Nat → Decimal → Decimal
  | 0, decimal => decimal
  | fuel + 1, decimal =>
      if decimal.digits ≠ 0 ∧ decimal.digits % 10 = 0 then
        trimZeros fuel ⟨decimal.digits / 10, decimal.exponent + 1⟩
      else
        decimal

def search (interval : Interval) (point : Int) : List Nat → Option Decimal
  | [] => none
  | count :: rest => (onGrid interval point count).or (search interval point rest)

end Shortest

/-- The decimal with the fewest digits that rounds to the double. Seventeen
digits always suffice. -/
def shortestDecimal (size : Dyadic) : Decimal :=
  match Shortest.kept size with
  | none => ⟨0, 0⟩
  | some number =>
      let interval := number.interval
      let point := Shortest.pointPosition interval.value interval.denominator
      match Shortest.search interval point ((List.range 17).map (· + 1)) with
      | some decimal => Shortest.trimZeros 20 decimal
      | none => ⟨0, 0⟩

end StaticDispatch.Number
