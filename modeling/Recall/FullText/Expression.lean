import Recall.FullText.Wildcard

/-!
Queries as text: the match expression of the ranked search, and the condition of the
wildcard search with its numbered parameters. A condition can be too deep to be taken.
-/

namespace Recall.FullText

def matchExpression (keywords : List String) : String :=
  " OR ".intercalate (keywords.map fun keyword => "\x22" ++ keyword ++ "\x22")

inductive Condition
  | like (column : String) (parameter : Nat)
  | anyOf (conditions : List Condition)

namespace Condition

mutual

def render : Condition → String
  | like column parameter => column ++ " LIKE ?" ++ toString parameter
  | anyOf conditions => "(" ++ " OR ".intercalate (renderAll conditions) ++ ")"

def renderAll : List Condition → List String
  | [] => []
  | condition :: conditions => condition.render :: renderAll conditions

end

mutual

def holds (row : String → Option String) (bound : Nat → Option String) : Condition → Bool
  | like column parameter =>
    match row column, bound parameter with
    | some text, some pattern => FullText.like pattern text
    | _, _ => false
  | anyOf conditions => holdsAny row bound conditions

def holdsAny (row : String → Option String) (bound : Nat → Option String) :
    List Condition → Bool
  | [] => false
  | condition :: conditions => holds row bound condition || holdsAny row bound conditions

end

mutual

/-- Depth as an expression. A column is named with its table, and alternatives are joined
from the left. -/
def depth : Condition → Nat
  | like _ _ => 3
  | anyOf conditions => depthAny 0 conditions

def depthAny (joined : Nat) : List Condition → Nat
  | [] => joined
  | condition :: conditions =>
    let depth := condition.depth
    depthAny (if joined = 0 then depth else max joined depth + 1) conditions

end

end Condition

def largestDepth : Nat := 1000

def likeCondition (columns : List String) (first count : Nat) : Condition :=
  .anyOf ((List.range' first count).map fun parameter =>
    .anyOf (columns.map fun column => .like column parameter))

def likeParameters (keywords : List String) : List String := keywords.map containsPattern

end Recall.FullText
