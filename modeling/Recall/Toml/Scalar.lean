import Recall.Number.Decimal
import Recall.Toml.Value

namespace Recall.Toml

def groupedDigits? (isDigit : Char → Bool) : List Char → Option (List Char)
  | [] => none
  | [c] => if isDigit c then some [c] else none
  | c :: '_' :: rest =>
    if isDigit c then (groupedDigits? isDigit rest).map (c :: ·) else none
  | c :: rest =>
    if isDigit c then (groupedDigits? isDigit rest).map (c :: ·) else none

def digitOf (c : Char) : Nat :=
  if '0' ≤ c && c ≤ '9' then c.toNat - 48
  else if 'a' ≤ c && c ≤ 'f' then c.toNat - 87
  else if 'A' ≤ c && c ≤ 'F' then c.toNat - 55
  else 16

def inBase? (base : Nat) (text : List Char) : Option Nat :=
  (groupedDigits? (digitOf · < base) text).map fun digits =>
    digits.foldl (fun value digit => base * value + digitOf digit) 0

def wholePart? (text : List Char) : Option (List Char) :=
  (groupedDigits? Number.isDigit text).filter fun digits =>
    digits.length = 1 || digits.head? ≠ some '0'

def splitSign : List Char → Bool × List Char
  | '-' :: rest => (true, rest)
  | '+' :: rest => (false, rest)
  | rest => (false, rest)

def boundedInteger? (n : Int) : Option Toml :=
  if -(Nat.pow 2 127 : Nat) ≤ n && n < (Nat.pow 2 128 : Nat) then some (integer n) else none

def integer? (text : List Char) : Option Toml := do
  let n ← match text with
    | '0' :: 'x' :: digits => (inBase? 16 digits).map Int.ofNat
    | '0' :: 'o' :: digits => (inBase? 8 digits).map Int.ofNat
    | '0' :: 'b' :: digits => (inBase? 2 digits).map Int.ofNat
    | text =>
      let (negative, digits) := splitSign text
      (wholePart? digits).map fun digits =>
        let n : Int := Number.digitsValue digits
        if negative then -n else n
  boundedInteger? n

def isExponentMark (c : Char) : Bool := c = 'e' || c = 'E'

def exponent? : List Char → Option Int
  | [] => some 0
  | _ :: rest => do
    let (negative, digits) := splitSign rest
    let n := Number.digitsValue (← groupedDigits? Number.isDigit digits)
    return if negative then -(n : Int) else n

def fraction? : List Char → Option (List Char)
  | [] => some []
  | _ :: digits => groupedDigits? Number.isDigit digits

def finiteReal? (x : Float) : Option Toml :=
  if Number.isFinite x then some (real x) else none

def real? (text : List Char) : Option Toml := do
  let (negative, digits) := splitSign text
  if digits = "inf".toList then
    return real (Float.ofBits (if negative then 0xfff0000000000000 else 0x7ff0000000000000))
  else if digits = "nan".toList then
    return real (Float.ofBits 0x7ff8000000000000)
  else
    let mantissa := digits.takeWhile (!isExponentMark ·)
    let exponent ← exponent? (digits.dropWhile (!isExponentMark ·))
    let whole ← wholePart? (mantissa.takeWhile (· ≠ '.'))
    let fraction ← fraction? (mantissa.dropWhile (· ≠ '.'))
    finiteReal? (Number.nearest negative (Number.digitsValue (whole ++ fraction))
      (exponent - fraction.length))

def fixedDigits? (count : Nat) (text : List Char) : Option (Nat × List Char) :=
  let digits := text.take count
  if digits.length = count && digits.all Number.isDigit then
    some (Number.digitsValue digits, text.drop count)
  else none

def daysInMonth (year month : Nat) : Nat :=
  if month = 2 then
    if year % 4 = 0 && (year % 100 ≠ 0 || year % 400 = 0) then 29 else 28
  else if month ∈ [4, 6, 9, 11] then 30
  else 31

def expect? (c : Char) : List Char → Option (List Char)
  | d :: rest => if c = d then some rest else none
  | [] => none

def date? (text : List Char) : Option (List Char) := do
  let (year, rest) ← fixedDigits? 4 text
  let (month, rest) ← fixedDigits? 2 (← expect? '-' rest)
  let (day, rest) ← fixedDigits? 2 (← expect? '-' rest)
  if 1 ≤ month && month ≤ 12 && 1 ≤ day && day ≤ daysInMonth year month then return rest
  else none

def seconds? : List Char → Option (List Char)
  | ':' :: rest => do
    let (second, rest) ← fixedDigits? 2 rest
    if 60 < second then none
    else match rest with
      | '.' :: rest =>
        if (rest.takeWhile Number.isDigit).isEmpty then none
        else some (rest.dropWhile Number.isDigit)
      | rest => some rest
  | rest => some rest

def time? (text : List Char) : Option (List Char) := do
  let (hour, rest) ← fixedDigits? 2 text
  let (minute, rest) ← fixedDigits? 2 (← expect? ':' rest)
  if 23 < hour || 59 < minute then none else seconds? rest

def offset? : List Char → Option (List Char)
  | 'Z' :: rest | 'z' :: rest => some rest
  | sign :: rest =>
    if sign = '+' || sign = '-' then do
      let (hour, rest) ← fixedDigits? 2 rest
      let (minute, rest) ← fixedDigits? 2 (← expect? ':' rest)
      if 23 < hour || 59 < minute then none else some rest
    else some (sign :: rest)
  | [] => some []

def isDateDelimiter (c : Char) : Bool := c = 'T' || c = 't' || c = ' '

def moment? (text : List Char) : Option Toml := do
  let rest ← match date? text with
    | some [] => some []
    | some (c :: rest) => if isDateDelimiter c then (time? rest).bind offset? else none
    | none => time? text
  if rest.isEmpty then some moment else none

def scalar? (text : List Char) : Option Toml :=
  if text = "true".toList then some (boolean true)
  else if text = "false".toList then some (boolean false)
  else integer? text <|> real? text <|> moment? text

end Recall.Toml
