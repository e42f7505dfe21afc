import StaticDispatch.Number.Shortest

/-!
Contract: doubles as decimal text, both ways.

Numbers from `0.0001` up to below `1e16` are written positionally and always
show a fraction; others have an exponent with a sign and at least two digits.

Owns: reading a decimal text as the nearest double and writing a double.
Does not own: integers, which are exact.
-/

namespace StaticDispatch.Number

def digitsValue (digits : List Char) : Nat :=
  digits.foldl (fun value digit => 10 * value + (digit.toNat - '0'.toNat)) 0

/-- The double nearest to `digits * 10 ^ exponent`. Exponents far outside the
range of doubles are settled without building the power. -/
def Decimal.toBinary64 (negative : Bool) (decimal : Decimal) : Binary64 :=
  let size : Int := (Nat.toDigits 10 decimal.digits).length + decimal.exponent
  if decimal.digits = 0 ∨ size < -400 then
    .finite negative .zero
  else if 400 < size then
    .infinite negative
  else if 0 ≤ decimal.exponent then
    .nearest negative (decimal.digits * Nat.pow 10 decimal.exponent.toNat) 1
  else
    .nearest negative decimal.digits (Nat.pow 10 (-decimal.exponent).toNat)

def splitSign : List Char → Bool × List Char
  | '-' :: rest => (true, rest)
  | '+' :: rest => (false, rest)
  | rest => (false, rest)

def readExponent : List Char → Option Int
  | [] => some 0
  | mark :: rest =>
      let (negative, digits) := splitSign rest
      if (mark = 'e' ∨ mark = 'E') ∧ digits ≠ [] ∧ digits.all Char.isDigit then
        some (if negative then -(digitsValue digits : Int) else digitsValue digits)
      else
        none

/-- Digits, an optional fraction and an optional exponent. -/
def readDecimal (text : List Char) : Option Decimal :=
  let whole := text.takeWhile Char.isDigit
  let afterWhole := text.dropWhile Char.isDigit
  let (fraction, afterFraction) :=
    match afterWhole with
    | '.' :: rest => (rest.takeWhile Char.isDigit, rest.dropWhile Char.isDigit)
    | rest => ([], rest)
  if whole = [] ∧ fraction = [] then
    none
  else
    (readExponent afterFraction).map fun exponent =>
      ⟨digitsValue (whole ++ fraction), exponent - fraction.length⟩

/-- A number in decimal text, or the names of the infinite and undefined ones.
An undefined number gets the identity that is supplied. -/
def Binary64.ofText? (identity : Nat) (text : String) : Option Binary64 :=
  let (negative, body) := splitSign text.toList
  match String.ofList body with
  | "inf" => some (.infinite negative)
  | "nan" => some (.undefined identity)
  | _ => (readDecimal body).map (·.toBinary64 negative)

/-- Digits with the point after `point` of them, padded with zeros. -/
def positional (digits : List Char) (point : Int) : List Char :=
  if point ≤ 0 then
    '0' :: '.' :: List.replicate (-point).toNat '0' ++ digits
  else
    let count := point.toNat
    let whole := digits.take count ++ List.replicate (count - digits.length) '0'
    let fraction := digits.drop count
    whole ++ '.' :: (if fraction = [] then ['0'] else fraction)

/-- A sign and at least two digits. -/
def exponentText (exponent : Int) : List Char :=
  let digits := Nat.toDigits 10 exponent.natAbs
  (if exponent < 0 then '-' else '+') :: List.replicate (2 - digits.length) '0' ++ digits

def scientific (digits : List Char) (point : Int) : List Char :=
  let fraction := digits.drop 1
  digits.take 1 ++ (if fraction = [] then [] else '.' :: fraction) ++
    'e' :: exponentText (point - 1)

def Decimal.text (decimal : Decimal) : List Char :=
  let digits := Nat.toDigits 10 decimal.digits
  let point := digits.length + decimal.exponent
  if -4 < point ∧ point ≤ 16 then
    positional digits point
  else
    scientific digits point

def signText (negative : Bool) : String :=
  if negative then "-" else ""

/-- A double as text that reads back as the same number. -/
def Binary64.text : Binary64 → String
  | .finite negative .zero => signText negative ++ "0.0"
  | .finite negative size => signText negative ++ String.ofList (shortestDecimal size).text
  | .infinite negative => signText negative ++ "inf"
  | .undefined _ => "nan"

end StaticDispatch.Number
