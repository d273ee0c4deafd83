import Recall.Number.Decimal
import Recall.Number.Word

/-!
JSON numbers as doubles. The leading digits, as many as a 64-bit word holds, are converted
first, and the result is scaled by a power of ten. Both steps round, so a number of more than
fifteen digits may miss the nearest double by a little.
-/

namespace Recall.Json

structure Leading where
  digits : Nat := 0
  exponent : Int := 0
  isFull : Bool := false
  deriving DecidableEq, Repr

namespace Leading

def next (n : Leading) (digit : Char) : Nat := 10 * n.digits + Number.digitValue digit

def addWhole (n : Leading) (digit : Char) : Leading :=
  if n.isFull || Number.wordBound ≤ n.next digit then
    { n with exponent := n.exponent + 1, isFull := true }
  else { n with digits := n.next digit }

def addFraction (n : Leading) (digit : Char) : Leading :=
  if n.isFull || Number.wordBound ≤ n.next digit then { n with isFull := true }
  else { n with digits := n.next digit, exponent := n.exponent - 1 }

def ofDigits (whole fraction : List Char) : Leading :=
  let leading := whole.foldl addWhole {}
  fraction.foldl addFraction { leading with isFull := false }

end Leading

def powerOfTen (n : Nat) : Float := Number.nearest false 1 n

/-- Nothing when the result is too large for a double. -/
def scaled? (x : Float) (exponent : Int) : Option Float :=
  if x == 0 then some x
  else if 308 < exponent then none
  else if 0 ≤ exponent then (some (x * powerOfTen exponent.natAbs)).filter Number.isFinite
  else if -308 ≤ exponent then some (x / powerOfTen exponent.natAbs)
  else if -616 ≤ exponent then some (x / powerOfTen 308 / powerOfTen (exponent + 308).natAbs)
  else some 0

def double? (negative : Bool) (whole fraction : List Char) (exponent : Int) : Option Float :=
  let leading := Leading.ofDigits whole fraction
  (scaled? (Float.ofNat leading.digits) (leading.exponent + exponent)).map fun x =>
    if negative then -x else x

end Recall.Json
