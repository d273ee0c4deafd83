import Recall.Number.Order

namespace Recall.Number

def isDigit (c : Char) : Bool := '0' ≤ c && c ≤ '9'

def digitValue (c : Char) : Nat := c.toNat - '0'.toNat

def digitsValue (digits : List Char) : Nat :=
  digits.foldl (fun value digit => 10 * value + digitValue digit) 0

def natural? (text : List Char) : Option Nat :=
  if !text.isEmpty && text.all isDigit then some (digitsValue text) else none

def naturalBelow? (bound : Nat) (text : String) : Option Nat :=
  let digits := match text.toList with
    | '+' :: rest => rest
    | all => all
  (natural? digits).filter (· < bound)

def digitCount (n : Nat) : Nat := (toString n).length

/-- The double nearest to `digits * 10 ^ exponent`. Far outside the range of doubles the
answer is known without computing the power. -/
def nearest (negative : Bool) (digits : Nat) (exponent : Int) : Float :=
  let size : Int := digitCount digits + exponent
  let value : Float :=
    if digits = 0 || size < -400 then 0
    else if 400 < size then Float.ofBits (infiniteMagnitude.toUInt64)
    else Float.ofScientific digits (exponent < 0) exponent.natAbs
  if negative then -value else value

end Recall.Number
