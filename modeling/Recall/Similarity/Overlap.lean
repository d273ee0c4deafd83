import Recall.Number.Order
import Recall.Similarity.Terms

/-!
How much two sets have in common: the shared elements over all elements. Two empty sets
are equal and so have everything in common; an empty and a non-empty set share nothing.
-/

namespace Recall.Similarity

structure Overlap where
  shared : Nat
  union : Nat
  deriving DecidableEq, Repr

/-- Both sets are given without repetitions. -/
def overlap (a b : List String) : Overlap :=
  if a.isEmpty && b.isEmpty then ⟨1, 1⟩
  else
    let shared := a.countP (b.contains ·)
    ⟨shared, a.length + b.length - shared⟩

def Overlap.toRat (o : Overlap) : Rat := (o.shared : Rat) / o.union

def Overlap.toDouble (o : Overlap) : Float :=
  if o.shared = 0 then 0
  else if o.shared = o.union then 1
  else Float.ofNat o.shared / Float.ofNat o.union

/-- Nothing is similar under a threshold that is not a number. -/
def similar (threshold : Float) (a b : List String) : Bool :=
  Number.atMost threshold (overlap a b).toDouble

end Recall.Similarity
