import Recall.Embedding.Basic
import Recall.Number.Word

/-!
Mean pooling. A model gives a vector for each token of each row of a batch, in one flat
buffer; a row's embedding is the mean over those of its tokens that the mask keeps.
-/

namespace Recall.Embedding

structure HiddenStates where
  rows : Nat
  tokens : Nat
  values : Embedding

structure Mask where
  tokens : Nat
  values : Array Int

def HiddenStates.vector (hidden : HiddenStates) (row token : Nat) : Embedding :=
  let start := (row * hidden.tokens + token) * dimensions
  hidden.values.extract start (start + dimensions)

def Mask.keeps (mask : Mask) (row token : Nat) : Bool :=
  mask.values.getD (row * mask.tokens + token) 0 ≠ 0

/-- The positions that are both computed and masked, as far as the mask keeps them. -/
def keptTokens (hidden : HiddenStates) (mask : Mask) (row : Nat) : List Nat :=
  (List.range (min hidden.tokens mask.tokens)).filter (mask.keeps row)

/-- Sum and count are of single precision, in the order of the vectors. -/
def mean (vectors : List Embedding) : Embedding :=
  let total := vectors.foldl (fun sum v => sum.zipWith (· + ·) v) (Array.replicate dimensions 0)
  let count : Float32 := vectors.foldl (fun count _ => count + 1) 0
  if 0 < count then total.map (· / count) else total

def pooledRow (hidden : HiddenStates) (mask : Mask) (row : Nat) : Embedding :=
  (mean ((keptTokens hidden mask row).map (hidden.vector row))).normalized

def asWord (n : Int) : Nat := (n % Number.wordBound).toNat

/-- Sizes are multiplied as 64-bit words. -/
def meanPool (shape : List Int) (values : Embedding) (mask : Mask) :
    Except Failure (List Embedding) :=
  match shape with
  | [rows, tokens, width] =>
    if width ≠ dimensions then .error (.hiddenStateShape shape)
    else
      let hidden : HiddenStates := ⟨asWord rows, asWord tokens, values⟩
      let expected := hidden.rows * hidden.tokens * dimensions % Number.wordBound
      if values.size ≠ expected then .error (.hiddenStateSize values.size expected)
      else .ok ((List.range hidden.rows).map (pooledRow hidden mask))
  | _ => .error (.hiddenStateShape shape)

end Recall.Embedding
