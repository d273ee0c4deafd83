import Recall.Ranking.Score

/-!
Fusion of rankings. Each list is given best first. An item earns points for every place at
which it occurs, the more the nearer the place is to the top; the first two lists count
double. Items are ranked by their points, and equal ones by where they are first met.
-/

namespace Recall.Ranking

structure Scored (S : Type) where
  docType : String
  id : Int
  score : S
  deriving DecidableEq, Repr

def Scored.key (item : Scored S) : String × Int := (item.docType, item.id)

def weight (list : Nat) : Nat := if list < 2 then 2 else 1

/-- In hundredths. -/
def topBonus (rank : Nat) : Nat :=
  if rank = 0 then 5 else if rank ≤ 2 then 2 else 0

def points (S : Type) [Score S] (list rank : Nat) : S :=
  (weight list : S) / ((60 + rank + 1 : Nat) : S) + (topBonus rank : S) / ((100 : Nat) : S)

structure Occurrence (S : Type) where
  key : String × Int
  points : S
  deriving DecidableEq, Repr

def occurrences [Score S] (lists : List (List (Scored S))) : List (Occurrence S) :=
  lists.zipIdx.flatMap fun (list, number) =>
    list.zipIdx.map fun (item, rank) => ⟨item.key, points S number rank⟩

def sum [Score S] : List S → S
  | [] => ((0 : Nat) : S)
  | first :: rest => rest.foldl (· + ·) first

def fusedScore [Score S] (met : List (Occurrence S)) (key : String × Int) : S :=
  sum ((met.filter (·.key = key)).map (·.points))

def bestFirst [Score S] (a b : Scored S) : Bool := Score.atMost b.score a.score

def fuse [Score S] (lists : List (List (Scored S))) : List (Scored S) :=
  let met := occurrences lists
  let keys := (met.map (·.key)).eraseDups
  (keys.map fun key => ⟨key.1, key.2, fusedScore met key⟩).mergeSort bestFirst

end Recall.Ranking
