import Recall.Number.Word

namespace Recall

inductive Toml
  | text (value : String)
  | integer (value : Int)
  | real (value : Float)
  | boolean (value : Bool)
  | moment
  | array (items : List Toml)
  | table (members : List (String × Toml))
  deriving Repr

namespace Toml

def asText? : Toml → Option String
  | text value => some value
  | _ => none

def asNatural? : Toml → Option Nat
  | integer n => if Number.isUnsigned n then some n.toNat else none
  | _ => none

end Toml

end Recall
