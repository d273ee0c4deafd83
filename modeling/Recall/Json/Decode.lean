import Recall.Json.Value
import Recall.Number.Decimal
import Recall.Number.Word

/-!
Reading typed values off a JSON document. A record is written either as an object with named
members or as an array that lists the same members in their order.
-/

namespace Recall.Json

def asText? : Json → Option String
  | text value => some value
  | _ => none

def asBoolean? : Json → Option Bool
  | boolean value => some value
  | _ => none

def asInteger? : Json → Option Int
  | integer n => if Number.isSigned n then some n else none
  | _ => none

def asNatural? : Json → Option Nat
  | integer n => if Number.isUnsigned n then some n.toNat else none
  | _ => none

def asReal? : Json → Option Float
  | real x => some x
  | integer n => some (Number.nearest (n < 0) n.natAbs 0)
  | _ => none

def orNull? (read : Json → Option α) : Json → Option (Option α)
  | null => some none
  | value => (read value).map some

def asList? (read : Json → Option α) : Json → Option (List α)
  | array items => items.mapM read
  | _ => none

def asMap? (read : Json → Option α) : Json → Option (List (String × α))
  | object members => do
    let entries ← (distinctMembers members).mapM fun (name, value) => do
      return (name, ← read value)
    return entries.mergeSort fun a b => a.1 ≤ b.1
  | _ => none

/-- A name alone, or an object whose only member has that name and the value null. -/
def asName? : Json → Option String
  | text name => some name
  | object members =>
    match distinctMembers members with
    | [(name, null)] => some name
    | _ => none
  | _ => none

inductive Layout
  | named (members : List (String × Json))
  | listed (items : List Json)

namespace Layout

/-- `size` is the number of members the record has; a longer array is refused. -/
def ofJson? (size : Nat) : Json → Option Layout
  | object members => some (named members)
  | array items => if items.length ≤ size then some (listed items) else none
  | _ => none

def value? (layout : Layout) (position : Nat) (name : String) : Option Json :=
  match layout with
  | named members => memberOf members name
  | listed items => items[position]?

def required (layout : Layout) (position : Nat) (name : String) (read : Json → Option α) :
    Option α :=
  (layout.value? position name).bind read

def defaulted (layout : Layout) (position : Nat) (name : String) (read : Json → Option α)
    (default : α) : Option α :=
  match layout.value? position name with
  | some value => read value
  | none => some default

/-- An optional member may be null, and in an object it may be left out. -/
def optional (layout : Layout) (position : Nat) (name : String) (read : Json → Option α) :
    Option (Option α) :=
  match layout.value? position name, layout with
  | some value, _ => orNull? read value
  | none, named _ => some none
  | none, listed _ => none

end Layout

end Recall.Json
