import Recall.Proofs.IndexRequests

/-!
Giving stale documents new vectors. One notion of staleness serves the report, the list and the
update. The update is made as a whole or not at all: each stale document is put in again with a
vector of the current embedder, and nothing else in the index changes, so that a second update
has nothing to do.
-/

namespace Recall

theorem RebuildNeed.reason_mismatch_iff {need : RebuildNeed} {n : Nat} :
    need.reason = s!"model_mismatch:{n}" ↔ need = .otherVersions n := by
  constructor
  · intro same
    have texts := congrArg String.toList same
    have begun : (toString "model_mismatch:").toList = 'm' :: "odel_mismatch:".toList := rfl
    simp only [String.toList_append] at texts
    cases need with
    | upToDate | empty =>
        rw [begun] at texts
        simp [reason] at texts
    | otherVersions m =>
        simp only [reason, String.toList_append] at texts
        have numbers := List.append_cancel_left texts
        rw [toString_natural_toList, toString_natural_toList] at numbers
        rw [toDigits_injective numbers]
  · rintro rfl
    rfl

namespace VectorIndex

def vectorsOf (index : VectorIndex) (docId : String) : List Embedding :=
  (index.embeddings.filter (·.1 = docId)).map Prod.snd

def timesOf (index : VectorIndex) (docId : String) : List Int :=
  (index.times.filter (·.1 = docId)).map Prod.snd

def supersede (key : α → String) (docIds : List String) (new table : List α) : List α :=
  table.filter (fun entry => !(key entry ∈ docIds)) ++ new

theorem supersede_put (key : α → String) {docIds : List String} (first : α)
    (apart : key first ∉ docIds) (new table : List α) :
    supersede key docIds new (table.filter (key · ≠ key first) ++ [first]) =
      supersede key (key first :: docIds) (first :: new) table := by
  have others : (table.filter (key · ≠ key first)).filter (fun entry => !(key entry ∈ docIds)) =
      table.filter fun entry => !(key entry ∈ key first :: docIds) := by
    rw [List.filter_filter]
    refine List.filter_congr fun entry _ => ?_
    simp [Bool.and_comm]
  simp only [supersede, List.filter_append, others]
  simp [apart]

theorem exists_mem_zip {related : α → β → Prop} {items : List α} {results : List β}
    (all : List.Forall₂ related items results) {item : α} (member : item ∈ items) :
    ∃ result, (item, result) ∈ items.zip results ∧ related item result := by
  induction all with
  | nil => cases member
  | cons first _ ih =>
      rcases List.mem_cons.mp member with rfl | later
      · exact ⟨_, List.mem_cons_self, first⟩
      · obtain ⟨result, zipped, own⟩ := ih later
        exact ⟨result, List.mem_cons_of_mem _ zipped, own⟩

theorem map_zip_of_fst {first : List α} {second : List β}
    (counted : second.length = first.length) (f : α → γ) :
    ((first.zip second).map fun pair => f pair.1) = first.map f := by
  calc
    ((first.zip second).map fun pair => f pair.1) = ((first.zip second).map Prod.fst).map f := by
      rw [List.map_map]
      rfl
    _ = first.map f := by rw [List.map_fst_zip (Nat.le_of_eq counted.symm)]

theorem foldl_put_eq {version : String} {index : VectorIndex}
    {entries : List (Document × Embedding)} (once : (entries.map (·.1.docId)).Nodup) :
    entries.foldl (put version) index = { index with
      documents := supersede (·.document.docId) (entries.map (·.1.docId))
        (entries.map fun entry => ⟨entry.1, version⟩) index.documents
      embeddings := supersede Prod.fst (entries.map (·.1.docId))
        (entries.map fun entry => (entry.1.docId, entry.2)) index.embeddings
      times := supersede Prod.fst (entries.map (·.1.docId))
        (entries.map fun entry => (entry.1.docId, index.clock)) index.times } := by
  induction entries generalizing index with
  | nil => simp [supersede]
  | cons first rest ih =>
      obtain ⟨apart, others⟩ := List.nodup_cons.mp once
      rw [List.foldl_cons, ih others]
      simp only [put, List.map_cons]
      congr 1
      · exact supersede_put (fun d : IndexedDocument => d.document.docId) ⟨first.1, version⟩
          apart _ _
      · exact supersede_put Prod.fst (first.1.docId, first.2) apart _ _
      · exact supersede_put Prod.fst (first.1.docId, index.clock) apart _ _

theorem filter_supersede_other {key : α → String} {docIds : List String} {docId : String}
    {new : List α} (ids : new.map key = docIds) (apart : docId ∉ docIds) (table : List α) :
    (supersede key docIds new table).filter (key · = docId) = table.filter (key · = docId) := by
  subst ids
  have unmatched : new.filter (key · = docId) = [] := by
    refine List.filter_eq_nil_iff.mpr fun entry member own => apart ?_
    rw [← of_decide_eq_true own]
    exact List.mem_map_of_mem member
  rw [supersede, List.filter_append, unmatched, List.append_nil, List.filter_filter]
  refine List.filter_congr fun entry _ => ?_
  by_cases own : key entry = docId
  · simp [own, apart]
  · simp [own]

theorem filter_key_of_nodup (key : α → String) (entries : List α)
    (once : (entries.map key).Nodup) {entry : α} (member : entry ∈ entries) :
    entries.filter (key · = key entry) = [entry] := by
  induction entries with
  | nil => cases member
  | cons first rest ih =>
      obtain ⟨apart, others⟩ := List.nodup_cons.mp once
      rcases List.mem_cons.mp member with rfl | later
      · have single : rest.filter (key · = key entry) = [] := by
          refine List.filter_eq_nil_iff.mpr fun other listed same => apart ?_
          rw [← of_decide_eq_true same]
          exact List.mem_map_of_mem listed
        rw [List.filter_cons_of_pos (by simp), single]
      · have differs : key first ≠ key entry := fun same =>
          apart (same ▸ List.mem_map_of_mem later)
        rw [List.filter_cons_of_neg (by simpa using differs), ih others later]

theorem filter_supersede_own {key : α → String} {docIds : List String} {new : List α}
    (ids : new.map key = docIds) (once : docIds.Nodup) {entry : α} (member : entry ∈ new)
    (table : List α) :
    (supersede key docIds new table).filter (key · = key entry) = [entry] := by
  subst ids
  have unmatched : (table.filter fun other => !(key other ∈ new.map key)).filter
      (key · = key entry) = [] := by
    refine List.filter_eq_nil_iff.mpr fun other kept same => ?_
    rw [List.mem_filter, of_decide_eq_true same] at kept
    simp [List.mem_map_of_mem member] at kept
  rw [supersede, List.filter_append, unmatched, List.nil_append, filter_key_of_nodup key new once member]

theorem reembed_ok_iff {index after : VectorIndex} (online : index.reach = .online)
    {updated : Nat} : index.reembed = .ok (after, updated) ↔
      updated = index.staleDocuments.length ∧ ∃ vectors,
        embedAll index.embedder (index.staleDocuments.map (·.content)) = .ok vectors ∧
        after = (index.staleDocuments.zip vectors).foldl (put index.embedder.version) index :=
  add_ok_iff online

/-- The index after an update. Documents of the current version keep all that is held for them;
the others get the current version, the present time and one vector each, in place of what was
held before. -/
structure Renewed (index after : VectorIndex) : Prop where
  documents : after.stored.Perm index.stored
  fresh : ∀ d ∈ index.documents, index.isStale d = false → d ∈ after.documents ∧
    after.vectorsOf d.document.docId = index.vectorsOf d.document.docId ∧
    after.timesOf d.document.docId = index.timesOf d.document.docId
  stamped : ∀ d ∈ index.documents, index.isStale d = true →
    ⟨d.document, index.embedder.version⟩ ∈ after.documents ∧
    after.timesOf d.document.docId = [index.clock]
  embedded : ∃ vectors,
    embedAll index.embedder (index.staleDocuments.map (·.content)) = .ok vectors ∧
    ∀ entry ∈ index.staleDocuments.zip vectors, after.vectorsOf entry.1.docId = [entry.2]

theorem Renewed.embedded_own {index after : VectorIndex} (renewed : index.Renewed after)
    (consistent : index.embedder.Consistent) {document : Document}
    (stale : document ∈ index.staleDocuments) :
    ∃ vector, index.embedder.embed document.content = .ok vector ∧
      after.vectorsOf document.docId = [vector] := by
  obtain ⟨vectors, made, held⟩ := renewed.embedded
  have each := (embedAll_ok consistent made).1
  rw [List.forall₂_map_left_iff] at each
  obtain ⟨vector, zipped, own⟩ := exists_mem_zip each stale
  exact ⟨vector, own, held _ zipped⟩

theorem mem_staleDocuments_iff {index : VectorIndex} {document : Document} :
    document ∈ index.staleDocuments ↔
      ∃ d ∈ index.documents, index.isStale d = true ∧ d.document = document := by
  simp only [staleDocuments, List.mem_map, List.mem_filter, and_assoc]

section

variable {index : VectorIndex} (unique : (index.documents.map (·.document.docId)).Nodup)

include unique

theorem stale_id_iff {d : IndexedDocument} (member : d ∈ index.documents) :
    d.document.docId ∈ index.staleDocuments.map (·.docId) ↔ index.isStale d = true := by
  constructor
  · intro listed
    obtain ⟨document, stale, same⟩ := List.mem_map.mp listed
    obtain ⟨other, present, outdated, rfl⟩ := mem_staleDocuments_iff.mp stale
    rwa [List.inj_on_of_nodup_map unique present member same] at outdated
  · intro outdated
    exact List.mem_map_of_mem (mem_staleDocuments_iff.mpr ⟨d, member, outdated, rfl⟩)

theorem staleDocuments_nodup : (index.staleDocuments.map (·.docId)).Nodup := by
  refine unique.sublist ?_
  rw [staleDocuments, List.map_map]
  exact List.filter_sublist.map _

theorem foldl_put_stale {vectors : List Embedding}
    (counted : vectors.length = index.staleDocuments.length) :
    (index.staleDocuments.zip vectors).foldl (put index.embedder.version) index = { index with
      documents := index.documents.filter (!index.isStale ·) ++
        index.staleDocuments.map (⟨·, index.embedder.version⟩)
      embeddings := supersede Prod.fst (index.staleDocuments.map (·.docId))
        ((index.staleDocuments.zip vectors).map fun entry => (entry.1.docId, entry.2))
        index.embeddings
      times := supersede Prod.fst (index.staleDocuments.map (·.docId))
        (index.staleDocuments.map fun document => (document.docId, index.clock))
        index.times } := by
  have others : (index.documents.filter fun d =>
      !(d.document.docId ∈ index.staleDocuments.map (·.docId))) =
        index.documents.filter (!index.isStale ·) := by
    refine List.filter_congr fun d member => ?_
    rw [Bool.eq_iff_iff]
    simp only [Bool.not_eq_true', decide_eq_false_iff_not, stale_id_iff unique member,
      Bool.not_eq_true]
  have once : ((index.staleDocuments.zip vectors).map (·.1.docId)).Nodup := by
    rw [map_zip_of_fst counted (·.docId)]
    exact staleDocuments_nodup unique
  rw [foldl_put_eq once, map_zip_of_fst counted (·.docId),
    map_zip_of_fst counted fun document => IndexedDocument.mk document index.embedder.version,
    map_zip_of_fst counted fun document => (document.docId, index.clock), supersede, others]

theorem renewed_of_ok (online : index.reach = .online) {after : VectorIndex} {updated : Nat}
    (ran : index.reembed = .ok (after, updated)) : index.Renewed after := by
  obtain ⟨-, vectors, made, rfl⟩ := (reembed_ok_iff online).mp ran
  have counted : vectors.length = index.staleDocuments.length := by
    rw [(embedAll_ok_iff.mp made).1, List.length_map]
  have once := staleDocuments_nodup unique
  have embedded : ((index.staleDocuments.zip vectors).map fun entry =>
      (entry.1.docId, entry.2)).map Prod.fst = index.staleDocuments.map (·.docId) := by
    rw [List.map_map]
    exact map_zip_of_fst counted (·.docId)
  have timed : (index.staleDocuments.map fun document =>
      (document.docId, index.clock)).map Prod.fst = index.staleDocuments.map (·.docId) := by
    rw [List.map_map]
    rfl
  rw [foldl_put_stale unique counted]
  refine ⟨?_, ?_, ?_, vectors, made, ?_⟩
  · have parted := (List.filter_append_perm (!index.isStale ·) index.documents).map
      IndexedDocument.document
    simpa [stored, staleDocuments, Function.comp_def] using parted
  · intro d present current
    have apart : d.document.docId ∉ index.staleDocuments.map (·.docId) := by
      rw [stale_id_iff unique present, current]
      exact Bool.false_ne_true
    refine ⟨?_, ?_, ?_⟩
    · exact List.mem_append_left _ (List.mem_filter.mpr ⟨present, by rw [current]; rfl⟩)
    · exact congrArg (List.map Prod.snd) (filter_supersede_other embedded apart _)
    · exact congrArg (List.map Prod.snd) (filter_supersede_other timed apart _)
  · intro d present outdated
    have stale : d.document ∈ index.staleDocuments :=
      mem_staleDocuments_iff.mpr ⟨d, present, outdated, rfl⟩
    have noted := filter_supersede_own timed once (List.mem_map_of_mem stale) index.times
    exact ⟨List.mem_append_right _ (List.mem_map_of_mem stale), congrArg (List.map Prod.snd) noted⟩
  · intro entry zipped
    have held := filter_supersede_own embedded once (List.mem_map_of_mem zipped) index.embeddings
    exact congrArg (List.map Prod.snd) held

theorem staleDocuments_of_ok (online : index.reach = .online) {after : VectorIndex}
    {updated : Nat} (ran : index.reembed = .ok (after, updated)) :
    after.reach = .online ∧ after.staleDocuments = [] := by
  obtain ⟨-, vectors, made, rfl⟩ := (reembed_ok_iff online).mp ran
  have counted : vectors.length = index.staleDocuments.length := by
    rw [(embedAll_ok_iff.mp made).1, List.length_map]
  rw [foldl_put_stale unique counted]
  refine ⟨online, ?_⟩
  simp only [staleDocuments, List.map_eq_nil_iff, List.filter_eq_nil_iff, List.mem_append,
    List.mem_filter, List.mem_map]
  rintro d (⟨-, current⟩ | ⟨document, -, rfl⟩)
  · simpa [isStale] using current
  · simp [isStale]

end

theorem stale_length {index : VectorIndex} (online : index.reach = .online) :
    index.stale.map List.length = .ok index.staleDocuments.length := by
  simp [stale, whenOnline, online, Except.map]

theorem stale_of_none {index : VectorIndex} (online : index.reach = .online)
    (fresh : index.staleDocuments = []) : index.stale = .ok [] ∧ index.reembed = .ok (index, 0) := by
  simp [stale, reembed, add, whenOnline, online, fresh]

/-- A mismatch is reported with the number of stale documents, and only if there are some. -/
theorem reason_mismatch_iff {index : VectorIndex} (online : index.reach = .online) (n : Nat) :
    index.rebuildNeed.map RebuildNeed.reason = .ok s!"model_mismatch:{n}" ↔
      index.documents ≠ [] ∧ 0 < n ∧ index.staleDocuments.length = n := by
  simp only [rebuildNeed, whenOnline, online, if_true, Except.map, Except.ok.injEq,
    RebuildNeed.reason_mismatch_iff]
  cases index.documents with
  | nil => simp
  | cons first rest =>
      cases index.staleDocuments.length with
      | zero => simpa using fun positive => Nat.ne_of_lt positive
      | succ m =>
          simp only [List.isEmpty_cons, Bool.false_eq_true, if_false, RebuildNeed.otherVersions.injEq]
          constructor
          · rintro rfl
            exact ⟨List.cons_ne_nil first rest, Nat.succ_pos m, rfl⟩
          · rintro ⟨-, -, counted⟩
            exact counted

def RefusesStale (index : VectorIndex) : Prop :=
  (∃ piece ∈ batches batchSize index.staleDocuments.length
      (index.staleDocuments.map (·.content)),
    ∃ failure, index.embedder.embedBatch piece = .error failure) ∨
  (index.embedder.Consistent ∧ ∃ document ∈ index.staleDocuments,
    ∃ failure, index.embedder.embed document.content = .error failure)

theorem RefusesStale.not_ok {index after : VectorIndex} {updated : Nat}
    (refuses : index.RefusesStale) (online : index.reach = .online) :
    index.reembed ≠ .ok (after, updated) := by
  intro ran
  obtain ⟨-, vectors, made, -⟩ := (reembed_ok_iff online).mp ran
  rcases refuses with ⟨piece, listed, failure, refused⟩ |
    ⟨consistent, document, stale, failure, refused⟩
  · obtain ⟨-, embedded, all, -⟩ := embedAll_ok_iff.mp made
    rw [List.length_map] at all
    obtain ⟨vectors, -, taken⟩ := exists_mem_zip (mapM_ok_iff.mp all) listed
    rw [refused] at taken
    cases taken
  · obtain ⟨vector, -, taken⟩ := exists_mem_zip (embedAll_ok consistent made).1
      (List.mem_map_of_mem stale)
    rw [refused] at taken
    cases taken

end VectorIndex

/-- What an update of the index does when it succeeds and when it cannot. -/
theorem reembedding_renews (index : VectorIndex) (online : index.reach = .online)
    (unique : (index.documents.map (·.document.docId)).Nodup) :
    (∀ n : Nat, index.rebuildNeed.map RebuildNeed.reason = .ok s!"model_mismatch:{n}" ↔
      index.documents ≠ [] ∧ 0 < n ∧ index.stale.map List.length = .ok n) ∧
    ((∃ after updated, index.reembed = .ok (after, updated)) ↔ ∃ vectors,
      VectorIndex.embedAll index.embedder (index.staleDocuments.map (·.content)) = .ok vectors) ∧
    (∀ after updated, index.reembed = .ok (after, updated) →
      index.stale.map List.length = .ok updated ∧ index.Renewed after ∧
        (index.embedder.Consistent → ∀ document ∈ index.staleDocuments,
          ∃ vector, index.embedder.embed document.content = .ok vector ∧
            after.vectorsOf document.docId = [vector]) ∧
        after.stale = .ok [] ∧ after.reembed = .ok (after, 0)) ∧
    (index.RefusesStale → ∀ engine : Engine, engine.index = some index →
      ∃ failure, engine.perform .reembed = { engine, result := .error failure }) := by
  refine ⟨fun n => ?_, ⟨?_, ?_⟩, fun after updated ran => ?_, fun refuses engine held => ?_⟩
  · rw [VectorIndex.stale_length online, VectorIndex.reason_mismatch_iff online, Except.ok.injEq]
  · rintro ⟨after, updated, ran⟩
    obtain ⟨-, vectors, made, -⟩ := (VectorIndex.reembed_ok_iff online).mp ran
    exact ⟨vectors, made⟩
  · rintro ⟨vectors, made⟩
    exact ⟨_, _, (VectorIndex.reembed_ok_iff online).mpr ⟨rfl, vectors, made, rfl⟩⟩
  · obtain ⟨counted, -⟩ := (VectorIndex.reembed_ok_iff online).mp ran
    obtain ⟨reached, fresh⟩ := VectorIndex.staleDocuments_of_ok unique online ran
    have renewed := VectorIndex.renewed_of_ok unique online ran
    refine ⟨?_, renewed, fun consistent document stale => renewed.embedded_own consistent stale,
      VectorIndex.stale_of_none reached fresh⟩
    rw [VectorIndex.stale_length online, counted]
  · cases ran : index.reembed with
    | ok pair => exact absurd ran (refuses.not_ok online)
    | error failure =>
        refine ⟨failure, ?_⟩
        simp only [Engine.perform, Engine.reembed, held, ran]
        rfl

def replanted : VectorIndex := {
  embedder := Embedding.withFaults (Embedding.wordEmbedder "second")
  documents := [⟨note "a" "rose", "first"⟩, ⟨note "b" "lily", "second"⟩,
    ⟨note "c" "tulip", "first"⟩]
  embeddings := [("a", #[1]), ("b", #[2]), ("c", #[3])]
  times := [("a", 1), ("b", 2), ("c", 3)], clock := 9 }

theorem replanted_renews :
    (replanted.reach = .online ∧ (replanted.documents.map (·.document.docId)).Nodup) ∧
    replanted.rebuildNeed.map RebuildNeed.reason = .ok "model_mismatch:2" ∧
    ∃ after, replanted.reembed = .ok (after, 2) ∧ replanted.Renewed after ∧
      after.timesOf "a" = [9] ∧ after.timesOf "b" = [2] ∧ after.stale = .ok [] := by
  have unique : (replanted.documents.map (·.document.docId)).Nodup := by decide
  obtain ⟨reported, succeeds, done, -⟩ := reembedding_renews replanted rfl unique
  have counted : replanted.stale.map List.length = .ok 2 := by
    rw [VectorIndex.stale_length rfl]
    rfl
  have made : (VectorIndex.embedAll replanted.embedder
      (replanted.staleDocuments.map (·.content))).toOption.isSome = true := by decide +kernel
  have embedded : ∃ vectors, VectorIndex.embedAll replanted.embedder
      (replanted.staleDocuments.map (·.content)) = .ok vectors := by
    revert made
    cases VectorIndex.embedAll replanted.embedder
      (replanted.staleDocuments.map (·.content)) with
    | error failure => exact nofun
    | ok vectors => exact fun _ => ⟨vectors, rfl⟩
  obtain ⟨after, updated, ran⟩ := succeeds.mpr embedded
  obtain ⟨number, renewed, -, fresh, -⟩ := done after updated ran
  obtain rfl : 2 = updated := Except.ok.inj (counted.symm.trans number)
  refine ⟨⟨rfl, unique⟩, (reported 2).mpr ⟨nofun, Nat.two_pos, counted⟩, after, ran, renewed,
    ?_, ?_, fresh⟩
  · exact (renewed.stamped ⟨note "a" "rose", "first"⟩ (by decide) (by decide)).2
  · exact (renewed.fresh ⟨note "b" "lily", "second"⟩ (by decide) (by decide)).2.2

end Recall
