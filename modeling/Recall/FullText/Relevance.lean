import Recall.FullText.Token
import Recall.Number.Order

/-!
Relevance of the rows of a table to a list of phrases. A phrase that few rows have weighs
more, and an occurrence in a short row counts more than one in a long row. The scores are
negative, and the lowest is the best.
-/

namespace Recall.FullText

structure Indexed (α : Type) where
  row : α
  columns : List (List Token)

def total (counts : List Nat) : Nat := counts.foldr (· + ·) 0

namespace Indexed

def phraseCount (entry : Indexed α) (phrase : List Token) : Nat :=
  total (entry.columns.map (FullText.phraseCount phrase))

def size (entry : Indexed α) : Nat := total (entry.columns.map List.length)

def hasAny (entry : Indexed α) (phrases : List (List Token)) : Bool :=
  phrases.any fun phrase => 0 < entry.phraseCount phrase

end Indexed

/-- A phrase that stands in half of the rows or more keeps a small weight. -/
def phraseWeight (rows having : Nat) : Float :=
  let odds := (Float.ofNat rows - Float.ofNat having + 0.5) / (Float.ofNat having + 0.5)
  let weight := odds.log
  if Number.atMost weight 0 then 1e-6 else weight

def saturation : Float := 1.2

def sizeInfluence : Float := 0.75

def phraseScore (weight averageSize : Float) (size count : Nat) : Float :=
  let frequency := Float.ofNat count
  let relativeSize := 1 - sizeInfluence + sizeInfluence * Float.ofNat size / averageSize
  weight * ((frequency * (saturation + 1)) / (frequency + saturation * relativeSize))

/-- The score of each row that has one of the phrases, rows in the given order. All rows
count for the weights. -/
def relevances (phrases : List (List Token)) (entries : List (Indexed α)) :
    List (Indexed α × Float) :=
  let rows := entries.length
  let averageSize := Float.ofNat (total (entries.map (·.size))) / Float.ofNat rows
  let weighted := phrases.map fun phrase =>
    (phrase, phraseWeight rows (entries.countP fun entry => 0 < entry.phraseCount phrase))
  (entries.filter (·.hasAny phrases)).map fun entry =>
    (entry, -(weighted.foldl (fun score (phrase, weight) =>
      score + phraseScore weight averageSize entry.size (entry.phraseCount phrase)) 0))

def ranked (phrases : List (List Token)) (entries : List (Indexed α)) : List (α × Float) :=
  ((relevances phrases entries).mergeSort fun a b =>
    Number.totalKey a.2 ≤ Number.totalKey b.2).map fun (entry, score) => (entry.row, score)

end Recall.FullText
