import Recall.Proofs.DocumentIds
import Recall.Proofs.Indexing

namespace Recall

def Embedder.NeverFails (embedder : Embedder) : Prop :=
  ∀ texts, ∃ vectors, embedder.embedBatch texts = .ok vectors ∧ vectors.length = texts.length

def constantEmbedder : Embedder where
  version := "constant"
  embed _ := .ok (Array.replicate Embedding.dimensions 1)
  embedBatch texts := .ok (texts.map fun _ => Array.replicate Embedding.dimensions 1)
  embed_size := by
    rintro text vector ⟨⟩
    exact Array.size_replicate
  embedBatch_size := by
    rintro texts vectors ⟨⟩ vector member
    obtain ⟨text, -, rfl⟩ := List.mem_map.mp member
    exact Array.size_replicate

theorem constantEmbedder_neverFails : constantEmbedder.NeverFails :=
  fun _ => ⟨_, rfl, List.length_map _⟩

def Embedder.Completes (embedder : Embedder) (texts : List String) : Prop :=
  ∃ vectors, embedder.embedBatch texts = .ok vectors ∧ vectors.length = texts.length

namespace VectorIndex

theorem batches_flatten {size : Nat} (positive : 0 < size) (fuel : Nat) (items : List α)
    (enough : items.length ≤ fuel) : (batches size fuel items).flatten = items := by
  induction fuel generalizing items with
  | zero =>
      rw [List.length_eq_zero_iff.mp (Nat.le_zero.mp enough)]
      rfl
  | succ fuel ih =>
      cases items with
      | nil => rfl
      | cons first rest =>
          have shorter : ((first :: rest).drop size).length ≤ fuel := by
            rw [List.length_drop]
            omega
          rw [batches, List.flatten_cons, ih _ shorter, List.take_append_drop]
          simp

theorem embedBatches_complete {embedder : Embedder} {pieces : List (List String)}
    (complete : ∀ piece ∈ pieces, embedder.Completes piece) :
    ∃ embedded, pieces.mapM embedder.embedBatch = .ok embedded ∧
      embedded.flatten.length = pieces.flatten.length := by
  induction pieces with
  | nil => exact ⟨[], rfl, rfl⟩
  | cons first rest ih =>
      obtain ⟨vectors, made, counted⟩ := complete first List.mem_cons_self
      obtain ⟨others, madeOthers, countedOthers⟩ :=
        ih fun piece member => complete piece (List.mem_cons_of_mem _ member)
      refine ⟨vectors :: others, ?_, ?_⟩
      · rw [List.mapM_cons, made, madeOthers]
        rfl
      · simp only [List.flatten_cons, List.length_append, counted, countedOthers]

theorem embedAll_complete {embedder : Embedder} (texts : List String)
    (complete : ∀ piece ∈ batches batchSize texts.length texts, embedder.Completes piece) :
    ∃ vectors, embedAll embedder texts = .ok vectors ∧ vectors.length = texts.length := by
  obtain ⟨embedded, made, counted⟩ := embedBatches_complete complete
  have whole : (batches batchSize texts.length texts).flatten = texts :=
    batches_flatten (by decide) _ texts (Nat.le_refl _)
  rw [whole] at counted
  refine ⟨embedded.flatten, ?_, counted⟩
  simp only [embedAll, made]
  exact if_pos counted

theorem add_total {index : VectorIndex} (online : index.reach = .online)
    (total : index.embedder.NeverFails) {documents : List Document}
    (once : (documents.map (·.docId)).Nodup) :
    ∃ after count, index.add documents = .ok (after, count) ∧ ∀ d, d ∈ after.stored ↔
      (d ∈ index.stored ∧ d.docId ∉ documents.map (·.docId)) ∨ d ∈ documents := by
  obtain ⟨vectors, made, counted⟩ :=
    embedAll_complete (documents.map (·.content)) fun piece _ => total piece
  rw [List.length_map] at counted
  have firsts : (documents.zip vectors).map Prod.fst = documents :=
    List.map_fst_zip (Nat.le_of_eq counted.symm)
  have ids : (documents.zip vectors).map (·.1.docId) = documents.map (·.docId) := by
    calc
      (documents.zip vectors).map (·.1.docId) =
          ((documents.zip vectors).map Prod.fst).map (·.docId) := by
        rw [List.map_map]
        rfl
      _ = documents.map (·.docId) := by rw [firsts]
  refine ⟨_, _, (add_ok_iff online).mpr ⟨rfl, vectors, made, rfl⟩, fun d => ?_⟩
  rw [mem_foldl_put (ids ▸ once), firsts, ids]

end VectorIndex

def Engine.Reliable (engine : Engine) : Prop :=
  ∃ index, engine.index = some index ∧ index.reach = .online ∧ index.embedder.NeverFails

namespace Engine

theorem Reliable.embeds {engine : Engine} (reliable : engine.Reliable)
    (documents : List Document) : engine.Embeds documents := by
  obtain ⟨index, held, online, total⟩ := reliable
  obtain ⟨vectors, made, -⟩ :=
    VectorIndex.embedAll_complete (documents.map (·.content)) fun piece _ => total piece
  exact ⟨index.embedder, vectors, by simp [service, held, online], made⟩

theorem Reliable.online {engine : Engine} (reliable : engine.Reliable) : engine.Online :=
  (reliable.embeds []).online

theorem Reliable.of_service {before after : Engine} (reliable : before.Reliable)
    (same : after.service = before.service) : after.Reliable := by
  obtain ⟨index, held, online, total⟩ := reliable
  have served : before.service = some (index.reach, index.embedder) := by
    simp only [service, held, Option.map_some]
  obtain ⟨other, present, service⟩ := Option.map_eq_some_iff.mp (same.trans served)
  obtain ⟨reach, embedder⟩ := Prod.mk.inj service
  exact ⟨other, present, reach ▸ online, embedder ▸ total⟩

theorem Reliable.addDocuments {engine : Engine} (reliable : engine.Reliable)
    {documents : List Document} (once : (documents.map (·.docId)).Nodup) (d : Document) :
    d ∈ (engine.addDocuments documents).documents ↔
      (d ∈ engine.documents ∧ d.docId ∉ documents.map (·.docId)) ∨ d ∈ documents := by
  obtain ⟨index, held, online, total⟩ := reliable
  obtain ⟨after, count, added, members⟩ := index.add_total online total once
  have whole : d ∈ engine.documents ↔ d ∈ index.stored := by
    simp [mem_documents, held]
  rw [whole, ← members d]
  simp only [Engine.addDocuments]
  split
  · rename_i bare
    rw [List.isEmpty_iff.mp bare] at added
    simp only [VectorIndex.add, VectorIndex.whenOnline, online, if_true, List.isEmpty_nil] at added
    cases added
    exact whole
  · simp [withIndex, held, added, mem_documents]

end Engine

end Recall
