import Recall.Number.Order

/-!
The numbers that scores are computed in. A ranking rule is stated once for all of them:
requests use doubles, and statements about the rule use exact fractions.
-/

namespace Recall.Ranking

class Score (S : Type) extends Add S, Div S, NatCast S where
  size : S → S
  atMost : S → S → Bool

instance : Score Float where
  natCast := Float.ofNat
  size := Float.abs
  atMost x y := Number.totalKey x ≤ Number.totalKey y

instance : Score Rat where
  size x := if x ≤ 0 then -x else x
  atMost x y := x ≤ y

/-- A relevance of any size, mapped into the range from 0 up to 1. -/
def normalize [Score S] (relevance : S) : S :=
  let size := Score.size relevance
  size / (((1 : Nat) : S) + size)

end Recall.Ranking
