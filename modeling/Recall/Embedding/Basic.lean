import Recall.Failure

namespace Recall

abbrev Embedding := Array Float32

namespace Embedding

def dimensions : Nat := 384

def sum (values : Embedding) : Float32 := values.foldl (· + ·) 0

def dot (a b : Embedding) : Float32 := sum (a.zipWith (· * ·) b)

def norm (v : Embedding) : Float32 := (dot v v).sqrt

def normalized (v : Embedding) : Embedding :=
  let length := v.norm
  if 0 < length then v.map (· / length) else v

/-- One less the cosine of the angle. Dot products are of single precision, and so is the
result, but the quotient is computed in doubles. -/
def distance (a b : Embedding) : Float :=
  let lengths := (dot a a).toFloat.sqrt * (dot b b).toFloat.sqrt
  (1 - (dot a b).toFloat / lengths).toFloat32.toFloat

def bytes (v : Embedding) : List UInt8 :=
  v.toList.flatMap fun x =>
    let bits : UInt32 := x.toBits
    [bits.toUInt8, (bits >>> 8).toUInt8, (bits >>> 16).toUInt8, (bits >>> 24).toUInt8]

end Embedding

structure Embedder where
  version : String
  embed : String → Except Failure Embedding
  embedBatch : List String → Except Failure (List Embedding)
  embed_size {text : String} {vector : Embedding} (made : embed text = .ok vector) :
    vector.size = Embedding.dimensions
  embedBatch_size {texts : List String} {vectors : List Embedding}
    (made : embedBatch texts = .ok vectors) :
    ∀ vector ∈ vectors, vector.size = Embedding.dimensions

end Recall
