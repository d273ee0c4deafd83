import Recall.Json.Value
import Recall.Number.Shortest

namespace Recall.Json

def hexByte (n : Nat) : List Char := [Nat.digitChar (n / 16), Nat.digitChar (n % 16)]

def escaped (c : Char) : List Char :=
  if c = '\x22' || c = '\\' then ['\\', c]
  else if c = '\x08' then ['\\', 'b']
  else if c = '\x0c' then ['\\', 'f']
  else if c = '\n' then ['\\', 'n']
  else if c = '\r' then ['\\', 'r']
  else if c = '\t' then ['\\', 't']
  else if c.toNat < 32 then ['\\', 'u', '0', '0'] ++ hexByte c.toNat
  else [c]

def quotedText (text : String) : String :=
  String.ofList ('\x22' :: text.toList.flatMap escaped ++ ['\x22'])

/-- Positional from five zeros after the point up to sixteen digits before it, otherwise
with an exponent. -/
def layout (digits : String) (exponent : Int) : String :=
  let size : Int := digits.length + exponent
  let zeros (n : Int) := String.ofList (List.replicate n.toNat '0')
  if 0 ≤ exponent && size ≤ 16 then digits ++ zeros exponent ++ ".0"
  else if 0 < size && size ≤ 16 then
    String.ofList (digits.toList.take size.toNat) ++ "." ++
      String.ofList (digits.toList.drop size.toNat)
  else if -5 < size && size ≤ 0 then "0." ++ zeros (-size) ++ digits
  else
    let tail := String.ofList (digits.toList.drop 1)
    String.ofList (digits.toList.take 1) ++ (if tail.isEmpty then "" else "." ++ tail) ++
      "e" ++ toString (size - 1)

def realText (x : Float) : String :=
  if !Number.isFinite x then "null"
  else
    let sign := if Number.isNegative x then "-" else ""
    if Number.magnitude x = 0 then sign ++ "0.0"
    else
      let d := Number.shortest (Number.magnitude x)
      sign ++ layout (toString d.digits) d.exponent

mutual

def render : Json → String
  | null => "null"
  | boolean value => if value then "true" else "false"
  | integer value => toString value
  | real value => realText value
  | text value => quotedText value
  | array items => "[" ++ renderItems items ++ "]"
  | object members => "\x7b" ++ renderMembers members ++ "\x7d"

def renderItems : List Json → String
  | [] => ""
  | [item] => item.render
  | item :: items => item.render ++ "," ++ renderItems items

def renderMembers : List (String × Json) → String
  | [] => ""
  | [(name, value)] => quotedText name ++ ":" ++ value.render
  | (name, value) :: members =>
    quotedText name ++ ":" ++ value.render ++ "," ++ renderMembers members

end

end Recall.Json
