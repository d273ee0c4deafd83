import Recall.Embedding.Basic
import Recall.Text.Word

namespace Recall.Embedding

def wordHash (word : String) : UInt64 :=
  word.toUTF8.foldl (fun h b => h * 131 + b.toUInt64) 17

def wordSlot (word : String) : Nat := 1 + (wordHash word).toNat % (dimensions - 1)

def countWords (words : List String) (start : Embedding) : Embedding :=
  words.foldl (fun v word => v.modify (wordSlot word) (· + 1)) start

theorem size_countWords (words : List String) (start : Embedding) :
    (countWords words start).size = start.size := by
  induction words generalizing start with
  | nil => rfl
  | cons word words ih => exact (ih _).trans (Array.size_modify ..)

def wordCounts (text : String) : Embedding :=
  countWords (Text.words text) ((Array.replicate dimensions 0).set! 0 0.01)

def ofWords (text : String) : Embedding :=
  let counts := wordCounts text
  let length := counts.norm
  counts.map (· / length)

theorem size_ofWords (text : String) : (ofWords text).size = dimensions := by
  rw [ofWords, Array.size_map, wordCounts, size_countWords, Array.set!_eq_setIfInBounds,
    Array.size_setIfInBounds, Array.size_replicate]

def wordEmbedder (version : String) : Embedder where
  version
  embed text := .ok (ofWords text)
  embedBatch texts := .ok (texts.map ofWords)
  embed_size made := by
    cases made
    exact size_ofWords _
  embedBatch_size made vector member := by
    cases made
    obtain ⟨text, -, rfl⟩ := List.mem_map.mp member
    exact size_ofWords text

def contains (pattern text : List Char) : Bool :=
  match text with
  | [] => pattern.isEmpty
  | _ :: rest => pattern.isPrefixOf text || contains pattern rest

/-- The same embedder, except that a text with the word `poison` cannot be embedded, and a
batch that has a text with the word `shortfall` gives one vector too few. -/
def withFaults (inner : Embedder) : Embedder where
  version := inner.version
  embed text :=
    if contains "poison".toList text.toList then .error .embedderOffline else inner.embed text
  embedBatch texts :=
    if texts.any fun text => contains "poison".toList text.toList then .error .embedderOffline
    else (inner.embedBatch texts).map fun vectors =>
      if texts.any fun text => contains "shortfall".toList text.toList then vectors.dropLast
      else vectors
  embed_size made := by
    split at made
    · cases made
    · exact inner.embed_size made
  embedBatch_size {texts vectors} made vector member := by
    split at made
    · cases made
    · cases embedded : inner.embedBatch texts with
      | error failure =>
          rw [embedded] at made
          cases made
      | ok whole =>
          rw [embedded] at made
          cases made
          refine inner.embedBatch_size embedded vector ?_
          split at member
          · exact List.dropLast_subset whole member
          · exact member

end Recall.Embedding
