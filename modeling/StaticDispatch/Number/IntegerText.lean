import StaticDispatch.Number.DecimalText

/-!
Contract: integers as decimal text, with a bound on their length.

The bound holds both ways: a longer text is not read, and an integer with more
digits is not written. Leading zeros count as digits, the sign does not.

Owns: reading signed digits, the largest number of digits, which integers can be
written, and the reports of longer ones.
Does not own: where integer texts occur.
-/

namespace StaticDispatch.Number

/-- The largest number of digits that an integer text may have. -/
def digitLimit : Nat := 4300

structure TooManyDigits where
  count : Nat
deriving DecidableEq, Repr

def TooManyDigits.message (fault : TooManyDigits) : String :=
  s!"Exceeds the limit ({digitLimit} digits) for integer string conversion: value has " ++
    s!"{fault.count} digits; use sys.set_int_max_str_digits() to increase the limit"

def readInteger (negative : Bool) (digits : List Char) : Except TooManyDigits Int :=
  if digitLimit < digits.length then
    .error ⟨digits.length⟩
  else
    let size : Int := digitsValue digits
    .ok (if negative then -size else size)

/-- An integer in decimal, without leading zeros. -/
def integerText (value : Int) : String :=
  toString value

def digitCount (value : Int) : Nat :=
  (Nat.toDigits 10 value.natAbs).length

def isWritable (value : Int) : Bool :=
  digitCount value ≤ digitLimit

/-- An integer with more digits than the limit was to be written. -/
structure Unwritable where
deriving DecidableEq, Repr

def Unwritable.message (_ : Unwritable) : String :=
  s!"Exceeds the limit ({digitLimit} digits) for integer string conversion; " ++
    "use sys.set_int_max_str_digits() to increase the limit"

end StaticDispatch.Number
