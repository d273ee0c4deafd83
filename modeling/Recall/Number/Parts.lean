import Recall.Number.Word

namespace Recall.Number

/-- The bits without the sign. Magnitudes are ordered as the values they stand for. -/
def magnitude (x : Float) : Nat := x.toBits.toNat % signedBound

def isNegative (x : Float) : Bool := signedBound ≤ x.toBits.toNat

abbrev fractionBound : Nat := 4503599627370496

def infiniteMagnitude : Nat := 2047 * fractionBound

def isNaN (x : Float) : Bool := infiniteMagnitude < magnitude x

def isInfinite (x : Float) : Bool := magnitude x = infiniteMagnitude

def isFinite (x : Float) : Bool := magnitude x < infiniteMagnitude

/-- The value `significand * 2 ^ (scale - 1074)`. -/
structure BinaryFraction where
  significand : Nat
  scale : Nat
  deriving DecidableEq, Repr

def BinaryFraction.ofMagnitude (m : Nat) : BinaryFraction :=
  let exponent := m / fractionBound
  let fraction := m % fractionBound
  if exponent = 0 then ⟨fraction, 0⟩ else ⟨fractionBound + fraction, exponent - 1⟩

end Recall.Number
