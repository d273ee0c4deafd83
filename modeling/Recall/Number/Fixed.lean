import Recall.Number.Parts

namespace Recall.Number

def roundedQuotient (dividend divisor : Nat) : Nat :=
  let quotient := dividend / divisor
  let remainder := dividend % divisor
  if 2 * remainder < divisor then quotient
  else if divisor < 2 * remainder then quotient + 1
  else quotient + quotient % 2

def BinaryFraction.scaledBy (x : BinaryFraction) (factor : Nat) : Nat :=
  roundedQuotient (x.significand * factor * Nat.pow 2 x.scale) (Nat.pow 2 1074)

def padLeft (width : Nat) (fill : Char) (text : String) : String :=
  String.ofList (List.replicate (width - text.length) fill) ++ text

def padRight (width : Nat) (fill : Char) (text : String) : String :=
  text ++ String.ofList (List.replicate (width - text.length) fill)

def placed (places units : Nat) : String :=
  if places = 0 then toString units
  else toString (units / Nat.pow 10 places) ++ "." ++
    padLeft places '0' (toString (units % Nat.pow 10 places))

def fixed (places : Nat) (x : Float) : String :=
  if isNaN x then "nan"
  else if isInfinite x then if isNegative x then "-inf" else "inf"
  else
    let units := (BinaryFraction.ofMagnitude (magnitude x)).scaledBy (Nat.pow 10 places)
    (if isNegative x && units ≠ 0 then "-" else "") ++ placed places units

def bitsText (x : Float) : String :=
  padLeft 16 '0' (String.ofList (Nat.toDigits 16 x.toBits.toNat))

end Recall.Number
