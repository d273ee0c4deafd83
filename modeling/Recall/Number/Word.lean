namespace Recall.Number

/-- The first number past the signed 64-bit ones, the 63rd power of two. -/
abbrev signedBound : Nat := 9223372036854775808

/-- The first number past the unsigned 64-bit ones, the 64th power of two. -/
abbrev wordBound : Nat := 18446744073709551616

abbrev halfWordBound : Nat := 4294967296

def isSigned (n : Int) : Bool := -(signedBound : Int) ≤ n && n < signedBound

def isUnsigned (n : Int) : Bool := 0 ≤ n && n < wordBound

end Recall.Number
