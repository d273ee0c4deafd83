import Recall.Proofs.Documents
import Recall.Proofs.Effects

/-!
What the documents of an index are after each of its changes, and after each operation of an
engine: an index in reach loses the documents of all records that are reported as evicted, and
an operation brings in documents of records that are in the store when it ends, or of the one
record that a pass took while it was being indexed.
-/

namespace Recall

namespace VectorIndex

def stored (index : VectorIndex) : List Document := index.documents.map (·.document)

def SameService (before after : VectorIndex) : Prop :=
  after.reach = before.reach ∧ after.embedder = before.embedder

theorem SameService.trans {first second third : VectorIndex} (before : first.SameService second)
    (after : second.SameService third) : first.SameService third :=
  ⟨after.1.trans before.1, after.2.trans before.2⟩

theorem mem_stored_put {version : String} {index : VectorIndex} {new d : Document}
    {vector : Embedding} : d ∈ (put version index (new, vector)).stored ↔
      (d ∈ index.stored ∧ d.docId ≠ new.docId) ∨ d = new := by
  simp only [stored, put, List.map_append, List.mem_append, List.mem_map, List.mem_filter,
    decide_eq_true_eq, List.mem_singleton]
  constructor
  · rintro (⟨entry, ⟨present, differs⟩, rfl⟩ | ⟨entry, rfl, rfl⟩)
    · exact Or.inl ⟨⟨entry, present, rfl⟩, differs⟩
    · exact Or.inr rfl
  · rintro (⟨⟨entry, present, rfl⟩, differs⟩ | rfl)
    · exact Or.inl ⟨entry, ⟨present, differs⟩, rfl⟩
    · exact Or.inr ⟨⟨d, version⟩, rfl, rfl⟩

theorem foldl_put_sameService (version : String) (index : VectorIndex)
    (entries : List (Document × Embedding)) :
    index.SameService (entries.foldl (put version) index) := by
  induction entries generalizing index with
  | nil => exact ⟨rfl, rfl⟩
  | cons first rest ih =>
      have kept : index.SameService (put version index first) := ⟨rfl, rfl⟩
      exact kept.trans (ih (put version index first))

theorem mem_of_mem_foldl_put {version : String} {index : VectorIndex}
    {entries : List (Document × Embedding)} {d : Document}
    (member : d ∈ (entries.foldl (put version) index).stored) :
    d ∈ index.stored ∨ d ∈ entries.map Prod.fst := by
  induction entries generalizing index with
  | nil => exact Or.inl member
  | cons first rest ih =>
      rcases ih member with earlier | later
      · rcases mem_stored_put.mp earlier with ⟨old, -⟩ | rfl
        · exact Or.inl old
        · exact Or.inr List.mem_cons_self
      · exact Or.inr (List.mem_cons_of_mem _ later)

theorem mem_foldl_put {version : String} {index : VectorIndex}
    {entries : List (Document × Embedding)} {d : Document}
    (once : (entries.map (·.1.docId)).Nodup) :
    d ∈ (entries.foldl (put version) index).stored ↔
      (d ∈ index.stored ∧ d.docId ∉ entries.map (·.1.docId)) ∨ d ∈ entries.map Prod.fst := by
  induction entries generalizing index with
  | nil => simp
  | cons first rest ih =>
      obtain ⟨fresh, others⟩ := List.nodup_cons.mp once
      rw [List.foldl_cons, ih others, mem_stored_put]
      simp only [List.map_cons, List.mem_cons, not_or]
      constructor
      · rintro (⟨⟨old, differs⟩ | rfl, apart⟩ | later)
        · exact Or.inl ⟨old, differs, apart⟩
        · exact Or.inr (Or.inl rfl)
        · exact Or.inr (Or.inr later)
      · rintro (⟨old, differs, apart⟩ | rfl | later)
        · exact Or.inl ⟨Or.inl ⟨old, differs⟩, apart⟩
        · exact Or.inl ⟨Or.inr rfl, fresh⟩
        · exact Or.inr later

theorem whenOnline_ok {index : VectorIndex} {answer : Except Failure α} {value : α}
    (answered : index.whenOnline answer = .ok value) :
    index.reach = .online ∧ answer = .ok value := by
  simp only [whenOnline] at answered
  split at answered
  · rename_i online
    exact ⟨online, answered⟩
  · cases answered

theorem embedAll_ok_iff {embedder : Embedder} {texts : List String} {vectors : List Embedding} :
    embedAll embedder texts = .ok vectors ↔ vectors.length = texts.length ∧ ∃ embedded,
      (batches batchSize texts.length texts).mapM embedder.embedBatch = .ok embedded ∧
        embedded.flatten = vectors := by
  simp only [embedAll]
  cases made : (batches batchSize texts.length texts).mapM embedder.embedBatch with
  | error failure =>
      constructor
      · rintro ⟨⟩
      · rintro ⟨-, _, ⟨⟩, -⟩
  | ok embedded =>
      change (if embedded.flatten.length = texts.length then Except.ok embedded.flatten
        else .error (Failure.vectorsMissing embedded.flatten.length texts.length)) =
          .ok vectors ↔ _
      split
      · rename_i counted
        constructor
        · rintro ⟨⟩
          exact ⟨counted, embedded, rfl, rfl⟩
        · rintro ⟨-, _, ⟨⟩, rfl⟩
          rfl
      · rename_i missing
        constructor
        · rintro ⟨⟩
        · rintro ⟨counted, _, ⟨⟩, rfl⟩
          exact absurd counted missing

theorem add_ok_iff {index after : VectorIndex} (online : index.reach = .online)
    {documents : List Document} {count : Nat} : index.add documents = .ok (after, count) ↔
      count = documents.length ∧ ∃ vectors,
        embedAll index.embedder (documents.map (·.content)) = .ok vectors ∧
        after = (documents.zip vectors).foldl (put index.embedder.version) index := by
  simp only [add, whenOnline, online, if_true]
  cases documents with
  | nil =>
      simp only [List.isEmpty_nil, if_true, List.map_nil, List.zip_nil_left, List.foldl_nil]
      constructor
      · rintro ⟨⟩
        exact ⟨rfl, [], rfl, rfl⟩
      · rintro ⟨rfl, -, -, rfl⟩
        rfl
  | cons first rest =>
      simp only [List.isEmpty_cons, Bool.false_eq_true, if_false]
      cases embedAll index.embedder ((first :: rest).map (·.content)) with
      | error failure =>
          constructor
          · rintro ⟨⟩
          · rintro ⟨-, _, ⟨⟩, -⟩
      | ok vectors =>
          constructor
          · rintro ⟨⟩
            exact ⟨rfl, vectors, rfl, rfl⟩
          · rintro ⟨rfl, _, ⟨⟩, rfl⟩
            rfl

theorem add_eq_foldl {index after : VectorIndex} {documents : List Document} {count : Nat}
    (ran : index.add documents = .ok (after, count)) : ∃ vectors : List Embedding,
      vectors.length = documents.length ∧
      after = (documents.zip vectors).foldl (put index.embedder.version) index := by
  obtain ⟨-, vectors, embedded, rfl⟩ := (add_ok_iff (whenOnline_ok ran).1).mp ran
  have counted := (embedAll_ok_iff.mp embedded).1
  rw [List.length_map] at counted
  exact ⟨vectors, counted, rfl⟩

theorem add_ok {index after : VectorIndex} {documents : List Document} {count : Nat}
    (ran : index.add documents = .ok (after, count)) :
    index.SameService after ∧ ∀ d ∈ after.stored, d ∈ index.stored ∨ d ∈ documents := by
  obtain ⟨vectors, -, rfl⟩ := add_eq_foldl ran
  refine ⟨foldl_put_sameService _ _ _, ?_⟩
  intro d member
  rcases mem_of_mem_foldl_put member with old | new
  · exact Or.inl old
  · obtain ⟨entry, zipped, rfl⟩ := List.mem_map.mp new
    exact Or.inr (List.of_mem_zip zipped).1

theorem mem_stored_without {index : VectorIndex} {docIds : List String} {d : Document} :
    d ∈ (index.without docIds).stored ↔ d ∈ index.stored ∧ d.docId ∉ docIds := by
  simp only [stored, without, List.mem_map, List.mem_filter, Bool.not_eq_true',
    decide_eq_false_iff_not]
  constructor
  · rintro ⟨entry, ⟨present, apart⟩, rfl⟩
    exact ⟨⟨entry, present, rfl⟩, apart⟩
  · rintro ⟨⟨entry, present, rfl⟩, apart⟩
    exact ⟨entry, ⟨present, apart⟩, rfl⟩

end VectorIndex

def Eviction.Names (eviction : Eviction) (d : Document) : Prop :=
  d.metadata.docType = eviction.kind.docType ∧ d.metadata.sourceId ∈ eviction.ids

namespace VectorIndex

theorem removeSources_eq {index : VectorIndex} (online : index.reach = .online)
    (eviction : Eviction) :
    ∃ after count, index.removeSources eviction.kind.docType eviction.ids = .ok (after, count) ∧
      index.SameService after ∧ ∀ d, d ∈ after.stored ↔ d ∈ index.stored ∧
        ∀ other ∈ index.stored, other.docId = d.docId → ¬ eviction.Names other := by
  simp only [removeSources, remove, whenOnline, online, if_true]
  refine ⟨_, _, rfl, ⟨rfl, rfl⟩, ?_⟩
  intro d
  rw [mem_stored_without]
  refine and_congr_right fun _ => ?_
  constructor
  · intro apart other member same named
    obtain ⟨entry, present, rfl⟩ := List.mem_map.mp member
    apply apart
    rw [← same]
    exact List.mem_map_of_mem
      (List.mem_filter.mpr ⟨present, by simpa [Eviction.Names] using named⟩)
  · intro spared listed
    obtain ⟨entry, chosen, same⟩ := List.mem_map.mp listed
    obtain ⟨present, named⟩ := List.mem_filter.mp chosen
    exact spared entry.document (List.mem_map_of_mem present) same
      (by simpa [Eviction.Names] using named)

end VectorIndex

namespace Engine

def documents (engine : Engine) : List Document := engine.index.toList.flatMap VectorIndex.stored

def service (engine : Engine) : Option (Reach × Embedder) :=
  engine.index.map fun index => (index.reach, index.embedder)

def Online (engine : Engine) : Prop := ∀ served ∈ engine.service, served.1 = .online

theorem mem_documents {engine : Engine} {d : Document} :
    d ∈ engine.documents ↔ ∃ index, engine.index = some index ∧ d ∈ index.stored := by
  simp only [documents, List.mem_flatMap, Option.mem_toList]

theorem withIndex_cases (engine : Engine)
    (change : VectorIndex → Except Failure (VectorIndex × Nat)) :
    engine.withIndex change = engine ∨ ∃ index after count, engine.index = some index ∧
      change index = .ok (after, count) ∧
      engine.withIndex change = { engine with index := some after } := by
  simp only [withIndex]
  split
  · exact Or.inl rfl
  · rename_i index held
    split
    · rename_i after count changed
      exact Or.inr ⟨index, after, count, held, changed, rfl⟩
    · exact Or.inl rfl

def Embeds (engine : Engine) (documents : List Document) : Prop :=
  ∃ embedder vectors, engine.service = some (.online, embedder) ∧
    VectorIndex.embedAll embedder (documents.map (·.content)) = .ok vectors

theorem Embeds.online {engine : Engine} {documents : List Document}
    (embeds : engine.Embeds documents) : engine.Online := by
  obtain ⟨embedder, vectors, served, -⟩ := embeds
  intro service present
  rw [served] at present
  cases present
  rfl

theorem addDocuments_documents (engine : Engine) (documents : List Document) :
    (engine.addDocuments documents).service = engine.service ∧
      ∀ d ∈ (engine.addDocuments documents).documents,
        d ∈ engine.documents ∨ (d ∈ documents ∧ engine.Embeds documents) := by
  simp only [addDocuments]
  split
  · exact ⟨rfl, fun d member => Or.inl member⟩
  · rename_i filled
    rcases engine.withIndex_cases (·.add documents) with
      same | ⟨index, after, count, held, added, made⟩
    · rw [same]
      exact ⟨rfl, fun d member => Or.inl member⟩
    · obtain ⟨kept, members⟩ := VectorIndex.add_ok added
      rw [made]
      refine ⟨?_, ?_⟩
      · simp only [service, held, Option.map_some, kept.1, kept.2]
      · intro d member
        obtain ⟨now, same, present⟩ := mem_documents.mp member
        cases same
        rcases members d present with old | new
        · exact Or.inl (mem_documents.mpr ⟨index, held, old⟩)
        · have online := (VectorIndex.whenOnline_ok added).1
          obtain ⟨-, vectors, embedded, -⟩ := (VectorIndex.add_ok_iff online).mp added
          exact Or.inr ⟨new, index.embedder, vectors, by simp [service, held, online], embedded⟩

theorem dropEvicted_documents (engine : Engine) (eviction : Eviction) :
    (engine.dropEvicted eviction).service = engine.service ∧
      (∀ d ∈ (engine.dropEvicted eviction).documents, d ∈ engine.documents) ∧
      (engine.Online → ∀ d, d ∈ (engine.dropEvicted eviction).documents ↔
        d ∈ engine.documents ∧ ∀ other ∈ engine.documents, other.docId = d.docId →
          ¬ eviction.Names other) := by
  cases held : engine.index with
  | none =>
      have same : engine.dropEvicted eviction = engine := by
        simp only [dropEvicted, withIndex, held]
      have bare : engine.documents = [] := by
        simp only [documents, held, Option.toList_none, List.flatMap_nil]
      rw [same, bare]
      refine ⟨rfl, fun d member => member, fun _ d => ?_⟩
      simp
  | some index =>
      have whole (d : Document) : d ∈ engine.documents ↔ d ∈ index.stored := by
        simp [mem_documents, held]
      by_cases online : index.reach = .online
      · obtain ⟨after, count, removed, kept, members⟩ :=
          VectorIndex.removeSources_eq online eviction
        have made : engine.dropEvicted eviction = { engine with index := some after } := by
          simp only [dropEvicted, withIndex, held, removed]
        have rest (d : Document) : d ∈ (engine.dropEvicted eviction).documents ↔
            d ∈ after.stored := by
          simp [mem_documents, made]
        simp only [whole, rest]
        refine ⟨?_, fun d member => ((members d).mp member).1, fun _ => members⟩
        simp only [service, made, held, Option.map_some, kept.1, kept.2]
      · have same : engine.dropEvicted eviction = engine := by
          simp only [dropEvicted, withIndex, held, VectorIndex.removeSources, VectorIndex.remove,
            VectorIndex.whenOnline, if_neg online]
        rw [same]
        refine ⟨rfl, fun d member => member, fun reached => ?_⟩
        exact absurd (reached (index.reach, index.embedder) (by simp [service, held])) online

theorem evicting_documents (engine : Engine) (store : Store) (kind : RecordKind)
    (ids : List Int) :
    (engine.evicting store kind ids).service = engine.service ∧
      (∀ d ∈ (engine.evicting store kind ids).documents, d ∈ engine.documents) ∧
      (engine.Online → ∀ d, d ∈ (engine.evicting store kind ids).documents ↔
        d ∈ engine.documents ∧ ∀ other ∈ engine.documents, other.docId = d.docId →
          ¬ Eviction.Names ⟨kind, ids⟩ other) := by
  cases ids with
  | nil =>
      refine ⟨rfl, fun d member => member, fun _ d => ?_⟩
      simp only [Eviction.Names, List.not_mem_nil, and_false, not_false_eq_true, implies_true,
        and_true]
      rfl
  | cons first rest =>
      exact dropEvicted_documents { engine with store := store.delete (first :: rest) kind } _

def Spares (engine : Engine) (evictions : List Eviction) (d : Document) : Prop :=
  d ∈ engine.documents ∧ (engine.Online → ∀ eviction ∈ evictions, ¬ eviction.Names d)

theorem evicting_spares {engine : Engine} {store : Store} {kind : RecordKind} {ids : List Int}
    {d : Document} (member : d ∈ (engine.evicting store kind ids).documents) :
    engine.Spares (Store.evictionsOf kind ids) d := by
  obtain ⟨-, earlier, left⟩ := engine.evicting_documents store kind ids
  refine ⟨earlier d member, ?_⟩
  intro online eviction reported
  have present := (left online d).mp member
  simp only [Store.evictionsOf] at reported
  split at reported
  · cases reported
  · rw [List.mem_singleton.mp reported]
    exact present.2 d present.1 rfl

theorem storeOnly_documents (engine : Engine) (occasion : Occasion) (submission : Submission) :
    (engine.storeOnly occasion submission).engine.service = engine.service ∧
      ∀ d ∈ (engine.storeOnly occasion submission).engine.documents,
        engine.Spares (engine.storeOnly occasion submission).evictions d := by
  rcases engine.storeOnly_cases occasion submission with
    ⟨result, whole, -⟩ | ⟨stored, mid, ids, -, -, -, whole⟩
  · rw [whole]
    exact ⟨rfl, fun d member => ⟨member, fun _ eviction reported => by cases reported⟩⟩
  · rw [whole]
    exact ⟨(engine.evicting_documents mid submission.kind ids).1,
      fun d member => evicting_spares member⟩

/-- A pass between the reading and the indexing may leave documents of a record that it took. -/
theorem recording_documents (engine : Engine) (turn : PassTurn) (mid : Store)
    (kind : RecordKind) (id : Int) (ids : List Int) :
    (engine.recording turn mid kind id ids).service = engine.service ∧
      ∀ d ∈ (engine.recording turn mid kind id ids).documents,
        engine.Spares (Store.evictionsOf kind ids) d ∨
          d ∈ (mid.delete ids kind).documents kind ∨
          (turn = .between ∧ id ∈ ids ∧ d ∈ mid.documentsOf kind id ∧
            engine.Embeds (mid.documentsOf kind id)) := by
  have taken := (engine.evicting_documents mid kind ids).1
  have kept {d : Document} (apart : id ∉ ids) (new : d ∈ mid.documentsOf kind id) :
      d ∈ (mid.delete ids kind).documents kind := by
    rw [← mid.documentsOf_delete kind apart] at new
    exact Store.documentsOf_subset new
  cases turn with
  | early =>
      obtain ⟨same, members⟩ := (engine.evicting mid kind ids).addDocuments_documents
        ((mid.delete ids kind).documentsOf kind id)
      refine ⟨same.trans taken, fun d member => ?_⟩
      rcases members d member with old | ⟨new, -⟩
      · exact Or.inl (evicting_spares old)
      · exact Or.inr (Or.inl (Store.documentsOf_subset new))
  | between =>
      obtain ⟨same, members⟩ := (engine.evicting mid kind ids).addDocuments_documents
        (mid.documentsOf kind id)
      refine ⟨same.trans taken, fun d member => ?_⟩
      rcases members d member with old | ⟨new, embedder, vectors, served, embedded⟩
      · exact Or.inl (evicting_spares old)
      · -- What was read is put in, whether or not the pass has taken the record since.
        by_cases gone : id ∈ ids
        · exact Or.inr (Or.inr ⟨rfl, gone, new, embedder, vectors, taken ▸ served, embedded⟩)
        · exact Or.inr (Or.inl (kept gone new))
  | late =>
      obtain ⟨same, members⟩ := engine.addDocuments_documents (mid.documentsOf kind id)
      have dropped := ((engine.addDocuments (mid.documentsOf kind id)).evicting_documents mid kind ids).1
      refine ⟨dropped.trans same, fun d member => ?_⟩
      obtain ⟨present, unnamed⟩ := evicting_spares member
      rcases members d present with old | ⟨new, embeds⟩
      · exact Or.inl ⟨old, fun online => unnamed fun served found => online served (same ▸ found)⟩
      · -- If the pass had taken the record, its documents would have left with it.
        refine Or.inr (Or.inl (kept (fun gone => ?_) new))
        have online : (engine.addDocuments (mid.documentsOf kind id)).Online :=
          fun served found => embeds.online served (same ▸ found)
        obtain ⟨own, present, describes⟩ := Store.documents_describe (Store.documentsOf_subset new)
        have filled : ids.isEmpty = false := by
          cases ids with
          | nil => cases gone
          | cons first rest => rfl
        refine unnamed online ⟨kind, ids⟩ (by simp [Store.evictionsOf, filled]) ⟨describes.docType, ?_⟩
        rw [Store.documentsOf_source new]
        exact gone

theorem reembed_documents {engine after : Engine} {updated : Nat}
    (ran : engine.reembed = .ok (after, updated)) :
    after.service = engine.service ∧ ∀ d ∈ after.documents, d ∈ engine.documents := by
  simp only [reembed] at ran
  split at ran
  · cases ran
    exact ⟨rfl, fun d member => member⟩
  · rename_i index held
    cases made : index.reembed with
    | error failure =>
        rw [made] at ran
        cases ran
    | ok pair =>
        rw [made] at ran
        cases ran
        obtain ⟨kept, members⟩ := VectorIndex.add_ok made
        refine ⟨by simp only [service, held, Option.map_some, kept.1, kept.2], ?_⟩
        intro d member
        obtain ⟨now, same, present⟩ := mem_documents.mp member
        cases same
        refine mem_documents.mpr ⟨index, held, ?_⟩
        rcases members d present with old | stale
        · exact old
        · exact (List.filter_sublist.map _).subset stale

/-- The pass comes between the reading and the indexing of a record and takes that record, and
its documents are indexed all the same. -/
structure Overtaken (engine : Engine) (submission : Submission) (occasion : Occasion)
    (stored : Stored) (mid : Store) : Prop where
  turn : occasion.pass = .between
  ran : (submission.transaction occasion).run engine.store = .ok (stored, mid)
  recorded : (engine.record occasion submission).result = .ok (some stored)
  gone : stored.id ∉ (engine.record occasion submission).engine.store.ids submission.kind
  documented : mid.documentsOf submission.kind stored.id ≠ []
  embeds : engine.Embeds (mid.documentsOf submission.kind stored.id)

theorem Overtaken.recorded_eq {engine : Engine} {submission : Submission} {occasion : Occasion}
    {stored : Stored} {mid : Store}
    (overtaken : engine.Overtaken submission occasion stored mid) : ∃ ids,
      engine.record occasion submission = {
        engine := engine.recording .between mid submission.kind stored.id ids
        result := .ok (some stored)
        evictions := Store.evictionsOf submission.kind ids } := by
  rcases engine.submission_cases occasion submission with
    ⟨result, -, whole, unanswered⟩ | ⟨other, store, ids, ran, -, -, -, whole⟩
  · have answered := overtaken.recorded
    rw [whole] at answered
    exact absurd answered (unanswered stored)
  · obtain ⟨rfl, rfl⟩ : other = stored ∧ store = mid := by
      simpa using ran.symm.trans overtaken.ran
    exact ⟨ids, overtaken.turn ▸ whole⟩

theorem Overtaken.deleted {engine : Engine} {submission : Submission} {occasion : Occasion}
    {stored : Stored} {mid : Store}
    (overtaken : engine.Overtaken submission occasion stored mid) : ∃ ids,
      (engine.record occasion submission).engine.store = mid.delete ids submission.kind := by
  obtain ⟨ids, whole⟩ := overtaken.recorded_eq
  refine ⟨ids, ?_⟩
  rw [whole]
  exact (engine.recording_sameStore .between mid submission.kind stored.id ids).store.trans
    (engine.evicting_sameStore mid submission.kind ids).store

/-- The documents after an operation were there before and spared, or are of records that are
in the store now, or of one that was overtaken. -/
theorem perform_documents (engine : Engine) (operation : Operation) {d : Document}
    (member : d ∈ (engine.perform operation).engine.documents) :
    engine.Spares (engine.perform operation).evictions d ∨
      (∃ kind, d ∈ (engine.perform operation).engine.store.documents kind) ∨
      ∃ submission occasion stored mid, operation = .record submission occasion ∧
        engine.Overtaken submission occasion stored mid ∧
        d ∈ mid.documentsOf submission.kind stored.id := by
  have unreported (earlier : d ∈ engine.documents) : engine.Spares [] d :=
    ⟨earlier, fun _ eviction reported => by cases reported⟩
  cases operation with
  | record submission occasion =>
      change d ∈ (engine.record occasion submission).engine.documents at member
      change engine.Spares (engine.record occasion submission).evictions d ∨
        (∃ kind, d ∈ (engine.record occasion submission).engine.store.documents kind) ∨ _
      rcases engine.submission_cases occasion submission with
        ⟨result, -, whole, -⟩ | ⟨stored, mid, ids, ran, -, -, -, whole⟩
      · rw [whole] at member ⊢
        exact Or.inl (unreported member)
      · have store : (engine.record occasion submission).engine.store =
            mid.delete ids submission.kind := by
          rw [whole]
          exact (engine.recording_sameStore occasion.pass mid submission.kind stored.id ids).store.trans
            (engine.evicting_sameStore mid submission.kind ids).store
        rw [store]
        rw [whole] at member ⊢
        rcases (engine.recording_documents occasion.pass mid submission.kind stored.id ids).2 d
          member with old | new | ⟨turn, taken, new, embeds⟩
        · exact Or.inl old
        · exact Or.inr (Or.inl ⟨submission.kind, new⟩)
        · refine Or.inr (Or.inr ⟨submission, occasion, stored, mid, rfl, ?_, new⟩)
          refine ⟨turn, ran, by rw [whole], ?_, List.ne_nil_of_mem new, embeds⟩
          rw [store, Store.ids_delete, if_pos rfl]
          simp [taken]
  | store submission occasion =>
      exact Or.inl ((engine.storeOnly_documents occasion submission).2 d member)
  | amend amendment => exact Or.inl (unreported member)
  | delete kind ids => exact Or.inl (unreported member)
  | cleanup kind pool =>
      simp only [perform] at member ⊢
      rcases engine.cleanup_cases kind pool with ⟨failure, whole⟩ | ⟨ids, -, whole⟩
      · rw [whole] at member ⊢
        exact Or.inl (unreported member)
      · rw [whole] at member ⊢
        exact Or.inl (evicting_spares member)
  | search request now => exact Or.inl (unreported member)
  | reembed =>
      simp only [perform] at member ⊢
      split at member
      · rename_i after updated ran
        exact Or.inl (unreported ((reembed_documents ran).2 d member))
      · exact Or.inl (unreported member)
  | embedWith embedder =>
      obtain ⟨now, held, present⟩ := mem_documents.mp member
      obtain ⟨index, before, rfl⟩ := Option.map_eq_some_iff.mp held
      exact Or.inl (unreported (mem_documents.mpr ⟨index, before, present⟩))

def reach? (engine : Engine) : Option Reach := engine.index.map (·.reach)

theorem reach_of_service {before after : Engine} (same : after.service = before.service) :
    after.reach? = before.reach? := by
  have reached (engine : Engine) : engine.reach? = engine.service.map Prod.fst := by
    rw [service, Option.map_map]
    rfl
  rw [reached, reached, same]

theorem perform_reach (engine : Engine) (operation : Operation) :
    (engine.perform operation).engine.reach? = engine.reach? := by
  cases operation with
  | record submission occasion =>
      rcases engine.submission_cases occasion submission with
        ⟨result, -, whole, -⟩ | ⟨stored, mid, ids, -, -, -, -, whole⟩
      · change (engine.record occasion submission).engine.reach? = _
        rw [whole]
      · change (engine.record occasion submission).engine.reach? = _
        rw [whole]
        exact reach_of_service
          (engine.recording_documents occasion.pass mid submission.kind stored.id ids).1
  | store submission occasion =>
      exact reach_of_service (engine.storeOnly_documents occasion submission).1
  | amend amendment => rfl
  | delete kind ids => rfl
  | cleanup kind pool =>
      simp only [perform]
      rcases engine.cleanup_cases kind pool with ⟨failure, whole⟩ | ⟨ids, -, whole⟩
      · rw [whole]
        rfl
      · rw [whole]
        exact reach_of_service (engine.evicting_documents engine.store kind ids).1
  | search request now => rfl
  | reembed =>
      simp only [perform]
      split
      · rename_i after updated ran
        exact reach_of_service (reembed_documents ran).1
      · rfl
  | embedWith embedder =>
      simp only [perform, reach?, Option.map_map]
      rfl

theorem perform_online {engine : Engine} (operation : Operation) (online : engine.Online) :
    (engine.perform operation).engine.Online := by
  intro served present
  obtain ⟨index, held, rfl⟩ := Option.map_eq_some_iff.mp present
  have reached : (engine.perform operation).engine.reach? = some index.reach := by
    rw [reach?, held]
    rfl
  rw [perform_reach] at reached
  obtain ⟨earlier, before, same⟩ := Option.map_eq_some_iff.mp reached
  rw [← same]
  exact online (earlier.reach, earlier.embedder) (by simp [service, before])

end Engine

end Recall
