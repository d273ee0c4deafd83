import Recall.Number.Decimal

/-!
The fewest decimal digits that read back as the same double; among equally short ones the
nearest to the exact value.
-/

namespace Recall.Number

structure DecimalDigits where
  digits : Nat
  exponent : Int
  deriving DecidableEq, Repr

def DecimalDigits.toDouble (d : DecimalDigits) : Float := nearest false d.digits d.exponent

/-- The point of the grid `10 ^ exponent` just below `dividend / divisor`, and twice what is
left above it in units of the grid, as a fraction over the second number. -/
def gridBelow (dividend divisor : Nat) (exponent : Int) : Nat × Nat × Nat :=
  let dividend := dividend * Nat.pow 10 (-exponent).toNat
  let divisor := divisor * Nat.pow 10 exponent.toNat
  (dividend / divisor, 2 * (dividend % divisor), divisor)

def neighbours (dividend divisor : Nat) (exponent : Int) : List DecimalDigits :=
  let (below, twiceRest, unit) := gridBelow dividend divisor exponent
  if twiceRest < unit || (twiceRest = unit && below % 2 = 0) then
    [⟨below, exponent⟩, ⟨below + 1, exponent⟩]
  else [⟨below + 1, exponent⟩, ⟨below, exponent⟩]

def decimalSize (dividend divisor : Nat) : Int :=
  if divisor ≤ dividend then digitCount (dividend / divisor)
  else 1 - digitCount (divisor / dividend)

def stripZeros : (fuel : Nat) → DecimalDigits → DecimalDigits
  | 0, d => d
  | fuel + 1, d =>
    if d.digits ≠ 0 && d.digits % 10 = 0 then stripZeros fuel ⟨d.digits / 10, d.exponent + 1⟩
    else d

/-- Seventeen digits always tell doubles apart; the exact value stands last so that nothing
is ever guessed. -/
def shortest (m : Nat) : DecimalDigits :=
  let x := BinaryFraction.ofMagnitude m
  let dividend := x.significand * Nat.pow 2 x.scale
  let divisor := Nat.pow 2 1074
  let size := decimalSize dividend divisor
  let found := (List.range 17).findSome? fun n =>
    (neighbours dividend divisor (size - (n + 1 : Nat))).find? fun d =>
      magnitude d.toDouble = m
  let exact : DecimalDigits := ⟨dividend * Nat.pow 5 1074, -1074⟩
  stripZeros 2000 (found.getD exact)

end Recall.Number
