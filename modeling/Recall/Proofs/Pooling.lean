import Mathlib.Algebra.BigOperators.Group.List.Basic
import Mathlib.Algebra.Order.Ring.Nat
import Mathlib.Tactic.GCongr
import Mathlib.Tactic.Ring
import Recall.Embedding.Pooling

namespace Recall.Embedding

def average (numbers : List Float32) : Float32 :=
  let total := numbers.foldl (· + ·) 0
  let count : Float32 := numbers.foldl (fun count _ => count + 1) 0
  if 0 < count then total / count else total

/-- Hidden states and a mask that pass the checks, with a mask for each row. -/
structure Batch where
  hidden : HiddenStates
  mask : Mask
  filled : hidden.values.size = hidden.rows * hidden.tokens * dimensions
  counted : hidden.values.size < Number.wordBound
  signed : hidden.rows < Number.signedBound ∧ hidden.tokens < Number.signedBound
  masked : hidden.rows * mask.tokens ≤ mask.values.size

namespace Batch

def shape (batch : Batch) : List Int := [batch.hidden.rows, batch.hidden.tokens, dimensions]

def pooled (batch : Batch) : Except Failure (List Embedding) :=
  meanPool batch.shape batch.hidden.values batch.mask

def number (batch : Batch) (row token place : Nat) : Float32 :=
  batch.hidden.values.getD ((row * batch.hidden.tokens + token) * dimensions + place) 0

def covered (batch : Batch) : Nat := min batch.hidden.tokens batch.mask.tokens

def masks (batch : Batch) (row token : Nat) : Int :=
  batch.mask.values.getD (row * batch.mask.tokens + token) 0

def kept (batch : Batch) (row : Nat) : List Nat :=
  (List.range batch.covered).filter fun token => batch.masks row token ≠ 0

def vector (batch : Batch) (row : Nat) : Embedding :=
  normalized (Array.ofFn fun place : Fin dimensions =>
    average ((batch.kept row).map fun token => batch.number row token place))

/-- Rows of two batches that keep the same positions, with the same numbers at them. Nothing
is asked of other positions or of other rows. -/
structure SameTokens (batch : Batch) (row : Nat) (other : Batch) (otherRow : Nat) : Prop where
  positions : ∀ token, token < batch.covered ∧ batch.masks row token ≠ 0 ↔
    token < other.covered ∧ other.masks otherRow token ≠ 0
  numbers : ∀ token < batch.covered, batch.masks row token ≠ 0 → ∀ place < dimensions,
    batch.number row token place = other.number otherRow token place

/-- A batch of the same rows with further tokens, which are masked with zeros. -/
structure Pads (batch padded : Batch) : Prop where
  rows : padded.hidden.rows = batch.hidden.rows
  longer : batch.covered ≤ padded.covered
  numbers : ∀ row < batch.hidden.rows, ∀ token < batch.covered, ∀ place < dimensions,
    padded.number row token place = batch.number row token place
  masks : ∀ row < batch.hidden.rows, ∀ token < batch.covered,
    padded.masks row token = batch.masks row token
  zeros : ∀ row < batch.hidden.rows, ∀ token, batch.covered ≤ token → token < padded.covered →
    padded.masks row token = 0

end Batch

section

variable {vectors : List Embedding}

theorem foldl_zipWith_ofFn {size : Nat} (start : Fin size → Float32)
    (sized : ∀ v ∈ vectors, v.size = size) :
    vectors.foldl (fun sum v => sum.zipWith (· + ·) v) (Array.ofFn start) =
      Array.ofFn fun place : Fin size =>
        (vectors.map (·.getD place 0)).foldl (· + ·) (start place) := by
  induction vectors generalizing start with
  | nil => rfl
  | cons first rest ih =>
      obtain ⟨own, others⟩ := List.forall_mem_cons.mp sized
      have added : (Array.ofFn start).zipWith (· + ·) first =
          Array.ofFn fun place : Fin size => start place + first.getD place 0 := by
        apply Array.ext
        · simp [own]
        · intro place inside _
          have within : place < first.size := by
            simp only [Array.size_zipWith, Array.size_ofFn] at inside
            omega
          simp [Array.getD, within]
      rw [List.foldl_cons, added, ih _ others]
      rfl

theorem ofFn_const (size : Nat) (number : Float32) :
    (Array.ofFn fun _ : Fin size => number) = Array.replicate size number := by
  apply Array.ext
  · simp
  · intro place _ _
    simp

theorem mean_eq_ofFn (sized : ∀ v ∈ vectors, v.size = dimensions) :
    mean vectors = Array.ofFn fun place : Fin dimensions =>
      average (vectors.map (·.getD place 0)) := by
  have counts (place : Fin dimensions) : (vectors.map (·.getD place 0)).foldl
      (fun (count : Float32) _ => count + 1) 0 = vectors.foldl (fun count _ => count + 1) 0 := by
    rw [List.foldl_map]
  simp only [mean, ← ofFn_const, foldl_zipWith_ofFn _ sized, average, counts]
  split
  · apply Array.ext
    · simp
    · intro place _ _
      simp
  · rfl

end

theorem normalized_zero (size : Nat) :
    normalized (Array.replicate size 0) = Array.replicate size 0 := by
  have nothing : sum (Array.replicate size 0) = 0 := by
    rw [sum, ← Array.foldl_toList, Array.toList_replicate]
    induction size with
    | zero => rfl
    | succ size ih =>
        have still : (0 : Float32) + 0 = 0 := by decide
        rw [List.replicate_succ, List.foldl_cons, still]
        exact ih
  have lengthless : norm (Array.replicate size 0) = 0 := by
    have squared : (0 : Float32) * 0 = 0 := by decide
    have rooted : (0 : Float32).sqrt = 0 := by decide
    rw [norm, dot, Array.zipWith_replicate, Nat.min_self, squared, nothing, rooted]
  have least : ¬ (0 : Float32) < 0 := by decide
  simp only [normalized, lengthless, if_neg least]

namespace Batch

variable {batch other padded : Batch} {row token : Nat}

theorem keptTokens_eq : keptTokens batch.hidden batch.mask row = batch.kept row :=
  rfl

theorem mem_kept_iff :
    token ∈ batch.kept row ↔ token < batch.covered ∧ batch.masks row token ≠ 0 := by
  rw [kept, List.mem_filter, List.mem_range, decide_eq_true_eq]

theorem vector_within (own : row < batch.hidden.rows) (inside : token < batch.hidden.tokens) :
    (row * batch.hidden.tokens + token) * dimensions + dimensions ≤ batch.hidden.values.size := by
  rw [batch.filled]
  calc
    (row * batch.hidden.tokens + token) * dimensions + dimensions =
        (row * batch.hidden.tokens + (token + 1)) * dimensions := by ring
    _ ≤ (row * batch.hidden.tokens + batch.hidden.tokens) * dimensions := by gcongr; omega
    _ = (row + 1) * batch.hidden.tokens * dimensions := by ring
    _ ≤ batch.hidden.rows * batch.hidden.tokens * dimensions := by gcongr; omega

theorem mask_within (own : row < batch.hidden.rows) (inside : token < batch.mask.tokens) :
    row * batch.mask.tokens + token < batch.mask.values.size := by
  calc
    row * batch.mask.tokens + token < row * batch.mask.tokens + batch.mask.tokens := by omega
    _ = (row + 1) * batch.mask.tokens := by ring
    _ ≤ batch.hidden.rows * batch.mask.tokens := by gcongr; omega
    _ ≤ batch.mask.values.size := batch.masked

theorem size_vector (own : row < batch.hidden.rows) (inside : token < batch.hidden.tokens) :
    (batch.hidden.vector row token).size = dimensions := by
  have within := vector_within own inside
  simp only [HiddenStates.vector, Array.size_extract]
  omega

theorem getD_vector (own : row < batch.hidden.rows) (inside : token < batch.hidden.tokens)
    (place : Fin dimensions) :
    (batch.hidden.vector row token).getD place 0 = batch.number row token place := by
  have within := vector_within own inside
  have sized := size_vector own inside
  have bound := place.isLt
  rw [Array.getD, dif_pos (by omega), number, Array.getD, dif_pos (by omega)]
  simp [HiddenStates.vector]

theorem pooledRow_eq (own : row < batch.hidden.rows) :
    pooledRow batch.hidden batch.mask row = batch.vector row := by
  have inside : ∀ token ∈ batch.kept row, token < batch.hidden.tokens := by
    intro token member
    exact Nat.lt_of_lt_of_le (mem_kept_iff.mp member).1 (Nat.min_le_left _ _)
  rw [pooledRow, keptTokens_eq, mean_eq_ofFn, vector]
  · congr 2
    funext place
    rw [List.map_map]
    congr 1
    apply List.map_congr_left
    intro token member
    exact getD_vector own (inside token member) place
  · intro v listed
    obtain ⟨token, member, rfl⟩ := List.mem_map.mp listed
    exact size_vector own (inside token member)

end Batch

theorem asWord_of_signed {n : Nat} (signed : n < Number.signedBound) : asWord n = n := by
  rw [asWord, ← Int.natCast_emod, Int.toNat_natCast,
    Nat.mod_eq_of_lt (Nat.lt_trans signed (by decide))]

/-! Reads that are checked, as the buffers are read one token after the other. -/

def vector? (values : Embedding) (start : Nat) : Option Embedding :=
  if start + dimensions ≤ values.size then some (values.extract start (start + dimensions))
  else none

def takeToken? (hidden : HiddenStates) (mask : Mask) (row : Nat) (sofar : Embedding × Float32)
    (token : Nat) : Option (Embedding × Float32) := do
  let masked ← mask.values[row * mask.tokens + token]?
  if masked = 0 then return sofar
  let vector ← vector? hidden.values ((row * hidden.tokens + token) * dimensions)
  return (sofar.1.zipWith (· + ·) vector, sofar.2 + 1)

def poolRow? (hidden : HiddenStates) (mask : Mask) (row : Nat) : Option Embedding := do
  let (total, count) ← (List.range (min hidden.tokens mask.tokens)).foldlM
    (takeToken? hidden mask row) (Array.replicate dimensions 0, 0)
  return normalized (if 0 < count then total.map (· / count) else total)

def pool? (hidden : HiddenStates) (mask : Mask) : Option (List Embedding) :=
  (List.range hidden.rows).mapM (poolRow? hidden mask)

theorem foldlM_of_total {step : σ → α → Option σ} {next : σ → α → σ} {items : List α}
    (total : ∀ state, ∀ item ∈ items, step state item = some (next state item)) (start : σ) :
    items.foldlM step start = some (items.foldl next start) := by
  induction items generalizing start with
  | nil => rfl
  | cons first rest ih =>
      rw [List.foldlM_cons, total start first List.mem_cons_self, List.foldl_cons]
      exact ih (fun state item later => total state item (List.mem_cons_of_mem _ later)) _

theorem mapM_of_total {f : α → Option β} {g : α → β} {items : List α}
    (total : ∀ item ∈ items, f item = some (g item)) : items.mapM f = some (items.map g) := by
  induction items with
  | nil => rfl
  | cons first rest ih =>
      rw [List.mapM_cons, total first List.mem_cons_self,
        ih fun item later => total item (List.mem_cons_of_mem _ later)]
      rfl

theorem foldl_pair (f : σ → α → σ) (g : τ → α → τ) (items : List α) (first : σ) (second : τ) :
    items.foldl (fun state item => (f state.1 item, g state.2 item)) (first, second) =
      (items.foldl f first, items.foldl g second) := by
  induction items generalizing first second with
  | nil => rfl
  | cons item rest ih => exact ih (f first item) (g second item)

namespace Batch

variable {batch other padded : Batch} {row token : Nat}

theorem takeToken?_eq (own : row < batch.hidden.rows) (inside : token < batch.covered)
    (sofar : Embedding × Float32) : takeToken? batch.hidden batch.mask row sofar token =
      some (if batch.mask.keeps row token then
        (sofar.1.zipWith (· + ·) (batch.hidden.vector row token), sofar.2 + 1) else sofar) := by
  have computed : token < batch.hidden.tokens := Nat.lt_of_lt_of_le inside (Nat.min_le_left _ _)
  have there := mask_within own (Nat.lt_of_lt_of_le inside (Nat.min_le_right _ _))
  rw [takeToken?, Array.getElem?_eq_getElem there, Mask.keeps, Array.getD, dif_pos there, vector?,
    if_pos (vector_within own computed)]
  by_cases zero : batch.mask.values[row * batch.mask.tokens + token] = 0
  · simp [zero]
  · simp [zero, HiddenStates.vector]

theorem poolRow?_eq (own : row < batch.hidden.rows) :
    poolRow? batch.hidden batch.mask row = some (batch.vector row) := by
  have read := foldlM_of_total (fun sofar token member =>
    takeToken?_eq own (List.mem_range.mp member) sofar) (Array.replicate dimensions 0, 0)
  have parted := foldl_pair (fun (total : Embedding) token => total.zipWith (· + ·)
    (batch.hidden.vector row token)) (fun (count : Float32) (_ : Nat) => count + 1)
    ((List.range batch.covered).filter (batch.mask.keeps row)) (Array.replicate dimensions 0) 0
  rw [← List.foldl_filter, parted] at read
  rw [← pooledRow_eq own, poolRow?, ← covered, read, pooledRow, mean, List.foldl_map,
    List.foldl_map]
  rfl

theorem pool?_eq (batch : Batch) :
    pool? batch.hidden batch.mask = some ((List.range batch.hidden.rows).map batch.vector) :=
  mapM_of_total fun _ member => poolRow?_eq (List.mem_range.mp member)

theorem pooled_eq (batch : Batch) :
    batch.pooled = .ok ((List.range batch.hidden.rows).map batch.vector) := by
  have rows := asWord_of_signed batch.signed.1
  have tokens := asWord_of_signed batch.signed.2
  have expected : batch.hidden.rows * batch.hidden.tokens * dimensions % Number.wordBound =
      batch.hidden.values.size := by
    rw [← batch.filled]
    exact Nat.mod_eq_of_lt batch.counted
  simp only [pooled, shape, meanPool, rows, tokens, expected, ne_eq, not_true_eq_false, if_false]
  refine congrArg Except.ok (List.map_congr_left fun row member => ?_)
  exact pooledRow_eq (List.mem_range.mp member)

theorem average_nil : average [] = 0 := by
  have least : ¬ (0 : Float32) < 0 := by decide
  simp only [average, List.foldl_nil, least, if_false]

theorem vector_of_kept_nil (masked : batch.kept row = []) :
    batch.vector row = Array.replicate dimensions 0 := by
  simp only [vector, masked, List.map_nil, average_nil, ofFn_const, normalized_zero]

theorem size_normalized (v : Embedding) : v.normalized.size = v.size := by
  simp only [normalized]
  split
  · exact Array.size_map
  · rfl

theorem vector_size (batch : Batch) (row : Nat) : (batch.vector row).size = dimensions := by
  rw [vector, size_normalized, Array.size_ofFn]

namespace SameTokens

variable {otherRow : Nat}

theorem kept_eq (same : batch.SameTokens row other otherRow) :
    batch.kept row = other.kept otherRow := by
  have ascending (b : Batch) (r : Nat) : (b.kept r).Pairwise (· < ·) :=
    List.pairwise_lt_range.filter _
  apply List.Perm.eq_of_pairwise (fun _ _ _ _ below above => absurd below (by omega))
    (ascending _ _) (ascending _ _)
  rw [List.perm_ext_iff_of_nodup ((ascending _ _).imp Nat.ne_of_lt)
    ((ascending _ _).imp Nat.ne_of_lt)]
  intro token
  rw [mem_kept_iff, mem_kept_iff]
  exact same.positions token

theorem vector_eq (same : batch.SameTokens row other otherRow) :
    batch.vector row = other.vector otherRow := by
  rw [vector, vector, ← same.kept_eq]
  refine congrArg (fun numbers => normalized (Array.ofFn numbers)) (funext fun place => ?_)
  refine congrArg average (List.map_congr_left fun token member => ?_)
  obtain ⟨inside, unmasked⟩ := mem_kept_iff.mp member
  exact same.numbers token inside unmasked place place.isLt

end SameTokens

namespace Pads

/-- What is not masked in the longer batch was there before. -/
theorem covered_of_unmasked (pads : batch.Pads padded) (own : row < batch.hidden.rows)
    (inside : token < padded.covered) (unmasked : padded.masks row token ≠ 0) :
    token < batch.covered := by
  by_contra beyond
  exact unmasked (pads.zeros row own token (Nat.le_of_not_lt beyond) inside)

theorem sameTokens (pads : batch.Pads padded) (own : row < batch.hidden.rows) :
    padded.SameTokens row batch row where
  positions token := by
    constructor
    · rintro ⟨inside, unmasked⟩
      have before := pads.covered_of_unmasked own inside unmasked
      rw [pads.masks row own token before] at unmasked
      exact ⟨before, unmasked⟩
    · rintro ⟨inside, unmasked⟩
      rw [← pads.masks row own token inside] at unmasked
      exact ⟨Nat.lt_of_lt_of_le inside pads.longer, unmasked⟩
  numbers token inside unmasked place within :=
    pads.numbers row own token (pads.covered_of_unmasked own inside unmasked) place within

theorem pooled_eq (pads : batch.Pads padded) : padded.pooled = batch.pooled := by
  rw [Batch.pooled_eq, Batch.pooled_eq, pads.rows]
  refine congrArg Except.ok (List.map_congr_left fun row member => ?_)
  exact (pads.sameTokens (List.mem_range.mp member)).vector_eq

end Pads

end Batch

section

variable {shape : List Int} {values : Embedding} {mask : Mask} {pooled : List Embedding}

theorem shape_of_pooled (done : meanPool shape values mask = .ok pooled) :
    ∃ rows tokens : Int, shape = [rows, tokens, dimensions] := by
  match shape, done with
  | [rows, tokens, width], done =>
    by_cases fits : width = dimensions
    · exact ⟨rows, tokens, by rw [fits]⟩
    · simp [meanPool, fits] at done

theorem filled_of_pooled {rows tokens : Nat} (fewRows : rows < Number.signedBound)
    (fewTokens : tokens < Number.signedBound)
    (product : rows * tokens * dimensions < Number.wordBound)
    (done : meanPool [rows, tokens, dimensions] values mask = .ok pooled) :
    values.size = rows * tokens * dimensions := by
  by_contra other
  simp [meanPool, asWord_of_signed fewRows, asWord_of_signed fewTokens,
    Nat.mod_eq_of_lt product, other] at done

theorem pooled_iff_batch (sizes : ∀ size ∈ shape, 0 ≤ size ∧ size < Number.signedBound)
    (product : shape.prod < Number.wordBound)
    (masked : shape.headD 0 * mask.tokens ≤ mask.values.size) :
    (∃ pooled, meanPool shape values mask = .ok pooled) ↔
      ∃ batch : Batch, batch.shape = shape ∧ batch.hidden.values = values ∧ batch.mask = mask := by
  constructor
  · rintro ⟨pooled, done⟩
    obtain ⟨rows, tokens, rfl⟩ := shape_of_pooled done
    simp only [List.forall_mem_cons] at sizes
    obtain ⟨⟨rowsFrom, rowsBelow⟩, ⟨tokensFrom, tokensBelow⟩, -⟩ := sizes
    lift rows to Nat using rowsFrom
    lift tokens to Nat using tokensFrom
    have fewRows : rows < Number.signedBound := by exact_mod_cast rowsBelow
    have fewTokens : tokens < Number.signedBound := by exact_mod_cast tokensBelow
    have whole : rows * tokens * dimensions < Number.wordBound := by
      have volume : [(rows : Int), tokens, dimensions].prod =
          (rows * tokens * dimensions : Nat) := by
        simp [mul_assoc]
      rw [volume] at product
      exact_mod_cast product
    have filled := filled_of_pooled fewRows fewTokens whole done
    have maskFilled : rows * mask.tokens ≤ mask.values.size := by
      rw [List.headD_cons] at masked
      exact_mod_cast masked
    let batch : Batch :=
      ⟨⟨rows, tokens, values⟩, mask, filled, filled ▸ whole, ⟨fewRows, fewTokens⟩, maskFilled⟩
    exact ⟨batch, rfl, rfl, rfl⟩
  · rintro ⟨batch, rfl, rfl, rfl⟩
    exact ⟨_, batch.pooled_eq⟩

end

/-- Whenever sizes, buffer and mask pass the checks, all reads are inside their buffers, and
each row becomes the mean of its own kept vectors, made a vector of length one, or the zero
vector if it keeps none. Rows that keep the same vectors become the same, whatever else is in
the batch, and padding a batch with masked tokens changes nothing. -/
theorem pools_own_tokens :
    (∀ (shape : List Int) (values : Embedding) (mask : Mask),
      (∀ size ∈ shape, 0 ≤ size ∧ size < Number.signedBound) → shape.prod < Number.wordBound →
        shape.headD 0 * mask.tokens ≤ mask.values.size →
          ((∃ pooled, meanPool shape values mask = .ok pooled) ↔
            ∃ batch : Batch,
              batch.shape = shape ∧ batch.hidden.values = values ∧ batch.mask = mask)) ∧
    ∀ batch : Batch,
      (∃ pooled, batch.pooled = .ok pooled ∧ pool? batch.hidden batch.mask = some pooled ∧
        pooled.length = batch.hidden.rows ∧ (∀ v ∈ pooled, v.size = dimensions) ∧
          ∀ row < batch.hidden.rows, pooled[row]? = some (batch.vector row)) ∧
      (∀ row, batch.kept row = [] → batch.vector row = Array.replicate dimensions 0) ∧
      (∀ row other otherRow, batch.SameTokens row other otherRow →
        batch.vector row = other.vector otherRow) ∧
      ∀ padded, batch.Pads padded → padded.pooled = batch.pooled := by
  refine ⟨fun _ _ _ => pooled_iff_batch, fun batch => ⟨?_, fun _ => Batch.vector_of_kept_nil,
    fun _ _ _ => Batch.SameTokens.vector_eq, fun _ => Batch.Pads.pooled_eq⟩⟩
  refine ⟨_, batch.pooled_eq, batch.pool?_eq, by simp, fun v listed => ?_, fun row own => ?_⟩
  · obtain ⟨row, _, rfl⟩ := List.mem_map.mp listed
    exact batch.vector_size row
  · rw [List.getElem?_map, List.getElem?_range own, Option.map_some]

def narrowBatch : Batch where
  hidden := ⟨2, 1, Array.replicate 768 1⟩
  mask := ⟨1, #[1, 0]⟩
  filled := by simp [dimensions]
  counted := by
    rw [Array.size_replicate]
    decide
  signed := by decide
  masked := by decide

def wideBatch : Batch where
  hidden := ⟨2, 2, Array.replicate 384 1 ++ Array.replicate 384 7 ++ Array.replicate 384 1 ++
    Array.replicate 384 7⟩
  mask := ⟨2, #[1, 0, 0, 0]⟩
  filled := by simp [dimensions]
  counted := by
    simp only [Array.size_append, Array.size_replicate]
    decide
  signed := by decide
  masked := by decide

theorem wideBatch_pads : narrowBatch.Pads wideBatch where
  rows := rfl
  longer := by decide
  numbers row own token inside place within := by
    have close : place < 384 := within
    obtain rfl : token = 0 := Nat.lt_one_iff.mp inside
    obtain rfl | rfl := Nat.le_one_iff_eq_zero_or_eq_one.mp (Nat.le_of_lt_succ own)
    all_goals
      simp only [Batch.number, narrowBatch, wideBatch, dimensions, Array.getD, Array.size_append,
        Array.size_replicate, Array.getInternal_eq_getElem, Array.getElem_append,
        Array.getElem_replicate]
      grind
  masks := by decide
  zeros row own token beyond inside := by
    obtain rfl : token = 1 := Nat.le_antisymm (Nat.le_of_lt_succ inside) beyond
    obtain rfl | rfl := Nat.le_one_iff_eq_zero_or_eq_one.mp (Nat.le_of_lt_succ own)
    all_goals decide

theorem narrowBatch_pools_alike :
    ((∀ size ∈ narrowBatch.shape, 0 ≤ size ∧ size < Number.signedBound) ∧
      narrowBatch.shape.prod < Number.wordBound ∧
      narrowBatch.shape.headD 0 * narrowBatch.mask.tokens ≤ narrowBatch.mask.values.size ∧
      ∃ pooled, meanPool narrowBatch.shape narrowBatch.hidden.values narrowBatch.mask =
        .ok pooled) ∧
    (narrowBatch.kept 1 = [] ∧ narrowBatch.vector 1 = Array.replicate dimensions 0) ∧
    (wideBatch.SameTokens 0 narrowBatch 0 ∧ wideBatch.vector 0 = narrowBatch.vector 0) ∧
    narrowBatch.Pads wideBatch ∧ wideBatch.pooled = narrowBatch.pooled := by
  have sizes : ∀ size ∈ narrowBatch.shape, 0 ≤ size ∧ size < Number.signedBound := by decide
  have product : narrowBatch.shape.prod < Number.wordBound := by decide
  have masked : narrowBatch.shape.headD 0 * narrowBatch.mask.tokens ≤
    narrowBatch.mask.values.size := by decide
  have accepted := (pools_own_tokens.1 narrowBatch.shape narrowBatch.hidden.values
    narrowBatch.mask sizes product masked).mpr ⟨narrowBatch, rfl, rfl, rfl⟩
  obtain ⟨_, empty, _, padded⟩ := pools_own_tokens.2 narrowBatch
  obtain ⟨_, _, alike, _⟩ := pools_own_tokens.2 wideBatch
  have padding : narrowBatch.kept 1 = [] := by decide
  have same : wideBatch.SameTokens 0 narrowBatch 0 := wideBatch_pads.sameTokens (by decide)
  exact ⟨⟨sizes, product, masked, accepted⟩, ⟨padding, empty 1 padding⟩,
    ⟨same, alike 0 narrowBatch 0 same⟩, wideBatch_pads, padded wideBatch wideBatch_pads⟩

end Recall.Embedding
