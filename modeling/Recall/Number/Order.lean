import Recall.Number.Parts

/-!
Comparing doubles by whole numbers. `valueKey` orders them by value; `totalKey` also tells
the two zeros apart, the negative one first.
-/

namespace Recall.Number

def valueKey (x : Float) : Int :=
  if isNegative x then -(magnitude x : Int) else magnitude x

def totalKey (x : Float) : Int :=
  if isNegative x then -(magnitude x : Int) - 1 else magnitude x

def atMost (x y : Float) : Bool :=
  !isNaN x && !isNaN y && valueKey x ≤ valueKey y

end Recall.Number
