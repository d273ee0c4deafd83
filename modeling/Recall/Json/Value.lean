namespace Recall

inductive Json
  | null
  | boolean (value : Bool)
  | integer (value : Int)
  | real (value : Float)
  | text (value : String)
  | array (items : List Json)
  | object (members : List (String × Json))
  deriving Repr

namespace Json

/-- Of members with the same name the last counts. -/
def memberOf (members : List (String × Json)) (name : String) : Option Json :=
  (members.reverse.find? (·.1 = name)).map (·.2)

def member? (name : String) : Json → Option Json
  | object members => memberOf members name
  | _ => none

def distinctMembers (members : List (String × Json)) : List (String × Json) :=
  members.foldl (fun kept (name, value) =>
    if kept.any (·.1 = name) then kept.map fun m => if m.1 = name then (name, value) else m
    else kept ++ [(name, value)]) []

def ofOption (write : α → Json) : Option α → Json
  | some value => write value
  | none => null

def ofTexts (texts : List String) : Json := array (texts.map text)

def ofIntegers (numbers : List Int) : Json := array (numbers.map integer)

end Json

end Recall
