import Recall.Json.Value
import Recall.Json.Real

namespace Recall.Json

def isSpace (c : Char) : Bool := c = ' ' || c = '\n' || c = '\t' || c = '\r'

def skipSpace (chars : List Char) : List Char := chars.dropWhile isSpace

def hexDigit? (c : Char) : Option Nat :=
  if '0' ≤ c && c ≤ '9' then some (c.toNat - 48)
  else if 'a' ≤ c && c ≤ 'f' then some (c.toNat - 87)
  else if 'A' ≤ c && c ≤ 'F' then some (c.toNat - 55)
  else none

def codeUnit? : List Char → Option (Nat × List Char)
  | a :: b :: c :: d :: rest => do
    let a ← hexDigit? a
    let b ← hexDigit? b
    let c ← hexDigit? c
    let d ← hexDigit? d
    return (((a * 16 + b) * 16 + c) * 16 + d, rest)
  | _ => none

/-- What stands after `\u`: one code unit, or two that make a surrogate pair. -/
def escapedCodePoint? (chars : List Char) : Option (Char × List Char) := do
  let (high, rest) ← codeUnit? chars
  if 0xd800 ≤ high && high < 0xdc00 then
    match rest with
    | '\\' :: 'u' :: rest =>
      let (low, rest) ← codeUnit? rest
      if 0xdc00 ≤ low && low < 0xe000 then
        return (Char.ofNat (0x10000 + (high - 0xd800) * 0x400 + (low - 0xdc00)), rest)
      else none
    | _ => none
  else if 0xdc00 ≤ high && high < 0xe000 then none
  else return (Char.ofNat high, rest)

def simpleEscape? : Char → Option Char
  | '\x22' => some '\x22'
  | '\\' => some '\\'
  | '/' => some '/'
  | 'b' => some '\x08'
  | 'f' => some '\x0c'
  | 'n' => some '\n'
  | 'r' => some '\r'
  | 't' => some '\t'
  | _ => none

def stringBody? : (fuel : Nat) → (read : List Char) → List Char →
    Option (String × List Char)
  | 0, _, _ => none
  | fuel + 1, read, chars =>
    match chars with
    | [] => none
    | '\x22' :: rest => some (String.ofList read.reverse, rest)
    | '\\' :: 'u' :: rest => do
      let (c, rest) ← escapedCodePoint? rest
      stringBody? fuel (c :: read) rest
    | '\\' :: c :: rest => do
      let c ← simpleEscape? c
      stringBody? fuel (c :: read) rest
    | c :: rest => if c.toNat < 32 then none else stringBody? fuel (c :: read) rest

def fraction? : List Char → Option (List Char × List Char)
  | '.' :: rest =>
    let digits := rest.takeWhile Number.isDigit
    if digits.isEmpty then none else some (digits, rest.dropWhile Number.isDigit)
  | rest => some ([], rest)

def exponentDigits? (negative : Bool) (chars : List Char) : Option (Int × List Char) :=
  let digits := chars.takeWhile Number.isDigit
  if digits.isEmpty then none
  else
    let size : Int := Number.digitsValue digits
    some (if negative then -size else size, chars.dropWhile Number.isDigit)

def exponent? : List Char → Option (Option Int × List Char)
  | 'e' :: rest | 'E' :: rest => do
    let (size, rest) ← match rest with
      | '-' :: rest => exponentDigits? true rest
      | '+' :: rest => exponentDigits? false rest
      | rest => exponentDigits? false rest
    return (some size, rest)
  | rest => some (none, rest)

def realNumber? (negative : Bool) (whole fraction : List Char) (exponent : Int) : Option Json :=
  (double? negative whole fraction exponent).map real

/-- Minus zero is a real, since no integer stands for it. -/
def wholeNumber? (negative : Bool) (digits : List Char) : Option Json :=
  let n := Number.digitsValue digits
  if negative && 0 < n && n ≤ Number.signedBound then some (integer (-(n : Int)))
  else if !negative && n < Number.wordBound then some (integer n)
  else realNumber? negative digits [] 0

def unsignedNumber? (negative : Bool) (chars : List Char) : Option (Json × List Char) := do
  let digits := chars.takeWhile Number.isDigit
  let rest := chars.dropWhile Number.isDigit
  if digits.isEmpty || (digits.head? = some '0' && 1 < digits.length) then none
  else
    let (fraction, rest) ← fraction? rest
    let (exponent, rest) ← exponent? rest
    let value ←
      if fraction.isEmpty && exponent.isNone then wholeNumber? negative digits
      else realNumber? negative digits fraction (exponent.getD 0)
    return (value, rest)

def number? : List Char → Option (Json × List Char)
  | '-' :: rest => unsignedNumber? true rest
  | chars => unsignedNumber? false chars

mutual

def value? : (fuel : Nat) → List Char → Option (Json × List Char)
  | 0, _ => none
  | fuel + 1, chars =>
    match skipSpace chars with
    | 'n' :: 'u' :: 'l' :: 'l' :: rest => some (null, rest)
    | 't' :: 'r' :: 'u' :: 'e' :: rest => some (boolean true, rest)
    | 'f' :: 'a' :: 'l' :: 's' :: 'e' :: rest => some (boolean false, rest)
    | '\x22' :: rest => (stringBody? (rest.length + 1) [] rest).map fun (s, rest) => (text s, rest)
    | '[' :: rest =>
      match skipSpace rest with
      | ']' :: rest => some (array [], rest)
      | rest => (items? fuel rest).map fun (items, rest) => (array items, rest)
    | '\x7b' :: rest =>
      match skipSpace rest with
      | '\x7d' :: rest => some (object [], rest)
      | rest => (members? fuel rest).map fun (members, rest) => (object members, rest)
    | rest => number? rest

def items? : (fuel : Nat) → List Char → Option (List Json × List Char)
  | 0, _ => none
  | fuel + 1, chars => do
    let (item, rest) ← value? fuel chars
    match skipSpace rest with
    | ',' :: rest =>
      let (items, rest) ← items? fuel rest
      return (item :: items, rest)
    | ']' :: rest => return ([item], rest)
    | _ => none

def members? : (fuel : Nat) → List Char → Option (List (String × Json) × List Char)
  | 0, _ => none
  | fuel + 1, chars => do
    match skipSpace chars with
    | '\x22' :: rest =>
      let (name, rest) ← stringBody? (rest.length + 1) [] rest
      match skipSpace rest with
      | ':' :: rest =>
        let (value, rest) ← value? fuel rest
        match skipSpace rest with
        | ',' :: rest =>
          let (members, rest) ← members? fuel rest
          return ((name, value) :: members, rest)
        | '\x7d' :: rest => return ([(name, value)], rest)
        | _ => none
      | _ => none
    | _ => none

end

/-- The one document that makes up the whole text. Every step of the reader consumes a
character, so twice the length is fuel enough. -/
def parse? (source : String) : Option Json := do
  let chars := source.toList
  let (value, rest) ← value? (2 * chars.length + 2) chars
  if (skipSpace rest).isEmpty then some value else none

end Recall.Json
