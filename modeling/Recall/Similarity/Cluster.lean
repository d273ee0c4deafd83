import Recall.Similarity.Overlap

/-!
Near-duplicates. The first record of a list stands for all later ones that are similar to
it; those stand for nothing themselves, and the rest is treated in the same way.
-/

namespace Recall.Similarity

def representatives (similar : α → α → Bool) : List α → List α
  | [] => []
  | first :: rest => first :: representatives similar (rest.filter (!similar first ·))
termination_by items => items.length
decreasing_by
  have shorter := List.length_filter_le (fun x => !similar first x.val) rest.attach
  simpa [Nat.lt_succ_iff] using shorter

def clusterIndices (contents : List ObservationContent) (threshold : Float) : List Nat :=
  let numbered := (contents.map terms).zipIdx
  (representatives (fun a b => similar threshold a.1 b.1) numbered).map (·.2)

def similarToAny (candidate : ObservationContent) (existing : List ObservationContent)
    (threshold : Float) : Bool :=
  let own := terms candidate
  existing.any fun content => similar threshold own (terms content)

end Recall.Similarity
