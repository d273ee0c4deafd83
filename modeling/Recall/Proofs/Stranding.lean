import Mathlib.Data.List.Induction
import Recall.Proofs.DocumentIds
import Recall.Proofs.Indexing

/-!
Records that a pass takes while they are being indexed. Their documents stay in the index for
good: ids are not handed out twice, and no pass reports a record a second time.
-/

namespace Recall

def Document.IsOf (d : Document) (kind : RecordKind) (id : Int) : Prop :=
  d.metadata.docType = kind.docType ∧ d.metadata.sourceId = id

theorem Document.names_iff {d : Document} {kind : RecordKind} {id : Int} {ids : List Int}
    {other : RecordKind} (own : d.IsOf kind id) :
    Eviction.Names ⟨other, ids⟩ d ↔ other = kind ∧ id ∈ ids := by
  simp only [Eviction.Names, own.1, own.2]
  refine and_congr_left fun _ => ⟨fun same => (RecordKind.docType_injective same).symm, ?_⟩
  rintro rfl
  rfl

/-- The document was made for some record, so that its id tells which one. -/
def Document.Made (d : Document) : Prop :=
  ∃ kind source project scope field index content,
    d = Document.make kind source project scope field index content

theorem Document.Made.isOf {d other : Document} (made : d.Made) (otherMade : other.Made)
    (same : other.docId = d.docId) {kind : RecordKind} {id : Int} (own : d.IsOf kind id) :
    other.IsOf kind id := by
  obtain ⟨first, source, project, scope, field, index, content, rfl⟩ := made
  obtain ⟨second, another, place, reach, name, position, text, rfl⟩ := otherMade
  obtain ⟨kinds, sources⟩ := Document.idOf_source same
  exact ⟨(congrArg RecordKind.docType kinds).trans own.1, sources.trans own.2⟩

theorem Document.Made.names {d other : Document} (made : d.Made) (otherMade : other.Made)
    (same : other.docId = d.docId) {eviction : Eviction} (named : eviction.Names other) :
    eviction.Names d :=
  have own : d.IsOf eviction.kind _ := otherMade.isOf made same.symm ⟨named.1, rfl⟩
  ⟨own.1, own.2.symm ▸ named.2⟩

theorem Store.made_of_mem {store : Store} {kind : RecordKind} {d : Document}
    (member : d ∈ store.documents kind) : d.Made := by
  obtain ⟨label, -, field, index, content, made⟩ := documents_made member
  exact ⟨kind, label.id, label.project, label.scope, field, index, content, made⟩

namespace VectorIndex

theorem docIds_foldl_put {version : String} {index : VectorIndex}
    {entries : List (Document × Embedding)} {docId : String}
    (known : docId ∈ index.stored.map (·.docId) ∨ docId ∈ entries.map (·.1.docId)) :
    docId ∈ (entries.foldl (put version) index).stored.map (·.docId) := by
  induction entries generalizing index with
  | nil => exact known.resolve_right List.not_mem_nil
  | cons first rest ih =>
      apply ih
      rcases known with old | new
      · obtain ⟨d, present, rfl⟩ := List.mem_map.mp old
        by_cases same : d.docId = first.1.docId
        · exact Or.inl (List.mem_map.mpr ⟨first.1, mem_stored_put.mpr (Or.inr rfl), same.symm⟩)
        · exact Or.inl (List.mem_map_of_mem (mem_stored_put.mpr (Or.inl ⟨present, same⟩)))
      · rcases List.mem_cons.mp new with rfl | later
        · exact Or.inl (List.mem_map_of_mem (mem_stored_put.mpr (Or.inr rfl)))
        · exact Or.inr later

theorem docIds_add {index after : VectorIndex} {documents : List Document} {count : Nat}
    (ran : index.add documents = .ok (after, count)) {docId : String}
    (known : docId ∈ index.stored.map (·.docId) ∨ docId ∈ documents.map (·.docId)) :
    docId ∈ after.stored.map (·.docId) := by
  obtain ⟨vectors, counted, rfl⟩ := add_eq_foldl ran
  refine docIds_foldl_put (known.imp_right fun new => ?_)
  have firsts : (documents.zip vectors).map Prod.fst = documents :=
    List.map_fst_zip (Nat.le_of_eq counted.symm)
  rw [← firsts, List.map_map] at new
  exact new

end VectorIndex

namespace Engine

variable {engine : Engine} {d : Document} {kind : RecordKind} {id : Int}

theorem docIds_addDocuments {documents : List Document} {docId : String}
    (known : docId ∈ engine.documents.map (·.docId) ∨
      (docId ∈ documents.map (·.docId) ∧ engine.Embeds documents)) :
    docId ∈ (engine.addDocuments documents).documents.map (·.docId) := by
  by_cases bare : documents = []
  · subst bare
    exact known.resolve_right fun new => List.not_mem_nil new.1
  have filled : documents.isEmpty = false := by simpa using bare
  simp only [addDocuments, filled, Bool.false_eq_true, if_false]
  cases held : engine.index with
  | none =>
      rcases known with old | ⟨-, embedder, vectors, served, -⟩
      · simp [Engine.documents, held] at old
      · simp [service, held] at served
  | some index =>
      have whole : engine.documents = index.stored := by simp [Engine.documents, held]
      rw [whole] at known
      cases added : index.add documents with
      | ok pair =>
          have after : (engine.withIndex (·.add documents)).documents = pair.1.stored := by
            simp [withIndex, held, added, Engine.documents]
          rw [after]
          exact VectorIndex.docIds_add added (known.imp_right And.left)
      | error failure =>
          have same : (engine.withIndex (·.add documents)).documents = index.stored := by
            simp [withIndex, held, added, Engine.documents]
          rw [same]
          refine known.resolve_right fun new => ?_
          obtain ⟨-, embedder, vectors, served, embedded⟩ := new
          obtain ⟨online, rfl⟩ : index.reach = .online ∧ index.embedder = embedder := by
            simpa [service, held] using served
          rw [(VectorIndex.add_ok_iff online).mpr ⟨rfl, vectors, embedded, rfl⟩] at added
          cases added

def AllMade (engine : Engine) : Prop := ∀ d ∈ engine.documents, d.Made

theorem AllMade.addDocuments (made : engine.AllMade) {documents : List Document}
    (new : ∀ d ∈ documents, d.Made) : (engine.addDocuments documents).AllMade := by
  intro d member
  rcases (engine.addDocuments_documents documents).2 d member with old | ⟨added, -⟩
  · exact made d old
  · exact new d added

theorem AllMade.perform (made : engine.AllMade) (operation : Operation) :
    (engine.perform operation).engine.AllMade := by
  intro d member
  rcases engine.perform_documents operation member with
    ⟨old, -⟩ | ⟨kind, new⟩ | ⟨submission, occasion, stored, mid, -, -, new⟩
  · exact made d old
  · exact Store.made_of_mem new
  · exact Store.made_of_mem (Store.documentsOf_subset new)

theorem AllMade.mem_evicting_iff (made : engine.AllMade) (online : engine.Online) (mid : Store)
    (other : RecordKind) (ids : List Int) : d ∈ (engine.evicting mid other ids).documents ↔
      d ∈ engine.documents ∧ ¬ Eviction.Names ⟨other, ids⟩ d := by
  rw [(engine.evicting_documents mid other ids).2.2 online d]
  refine and_congr_right fun member => ⟨fun spared => spared d member rfl, ?_⟩
  intro unnamed twin present same named
  exact unnamed ((made d member).names (made twin present) same named)

theorem AllMade.mem_evicting (made : engine.AllMade) (online : engine.Online) {mid : Store}
    {other : RecordKind} {ids : List Int} (part : ids.Subperm (mid.ids other))
    (member : d ∈ engine.documents) (own : d.IsOf kind id) (gone : id ∉ mid.ids kind) :
    d ∈ (engine.evicting mid other ids).documents := by
  refine (made.mem_evicting_iff online mid other ids).mpr ⟨member, fun named => ?_⟩
  obtain ⟨rfl, taken⟩ := (Document.names_iff own).mp named
  exact gone (part.subset taken)

theorem AllMade.docIds_recording (made : engine.AllMade) (online : engine.Online)
    (turn : PassTurn) {mid : Store} {other : RecordKind} {ids : List Int} (written : Int)
    (part : ids.Subperm (mid.ids other)) (member : d ∈ engine.documents)
    (own : d.IsOf kind id) (gone : id ∉ mid.ids kind) :
    d.docId ∈ (engine.recording turn mid other written ids).documents.map (·.docId) := by
  cases turn with
  | early | between =>
      have left := made.mem_evicting online part member own gone
      exact docIds_addDocuments (Or.inl (List.mem_map_of_mem left))
  | late =>
      let documents := mid.documentsOf other written
      have kept : d.docId ∈ (engine.addDocuments documents).documents.map (·.docId) :=
        docIds_addDocuments (Or.inl (List.mem_map_of_mem member))
      -- A document that is put in under the same id belongs to the same record.
      obtain ⟨twin, present, same⟩ := List.mem_map.mp kept
      have indexed : (engine.addDocuments documents).AllMade :=
        made.addDocuments fun e new => Store.made_of_mem (Store.documentsOf_subset new)
      have reached : (engine.addDocuments documents).Online :=
        fun served found => online served ((engine.addDocuments_documents documents).1 ▸ found)
      have twins := (made d member).isOf (indexed twin present) same own
      rw [← same]
      exact List.mem_map_of_mem (indexed.mem_evicting reached part present twins gone)

end Engine

theorem Submission.Stores.absent {submission : Submission} {occasion : Occasion}
    {before after : Store} {stored : Stored}
    (stores : submission.Stores occasion before stored after) {kind : RecordKind} {id : Int}
    (gone : id ∉ before.ids kind) (past : id ≤ before.lastId kind) : id ∉ after.ids kind := by
  intro present
  obtain ⟨label, live, rfl⟩ := List.mem_map.mp present
  rcases stores.labels_cases kind with same | ⟨new, grown, -, -, fresh⟩
  · exact gone (List.mem_map_of_mem (same ▸ live))
  · rw [grown, List.mem_append, List.mem_singleton] at live
    rcases live with old | rfl
    · exact gone (List.mem_map_of_mem old)
    · omega

namespace Engine

variable {engine : Engine} {d : Document} {kind : RecordKind} {id : Int}

/-- A document of a record that is gone keeps its place in the index, whatever happens. -/
theorem AllMade.docIds_perform (made : engine.AllMade) (online : engine.Online)
    (operation : Operation) (member : d ∈ engine.documents) (own : d.IsOf kind id)
    (gone : id ∉ engine.store.ids kind) (past : id ≤ engine.store.lastId kind) :
    d.docId ∈ (engine.perform operation).engine.documents.map (·.docId) := by
  have kept := List.mem_map_of_mem (f := (·.docId)) member
  cases operation with
  | record submission occasion =>
      change d.docId ∈ (engine.record occasion submission).engine.documents.map (·.docId)
      rcases engine.submission_cases occasion submission with
        ⟨result, -, whole, -⟩ | ⟨stored, mid, ids, ran, -, part, -, whole⟩
      · rw [whole]
        exact kept
      · rw [whole]
        exact made.docIds_recording online occasion.pass stored.id part member own
          ((Submission.transaction_writes ran).stores.absent gone past)
  | store submission occasion =>
      change d.docId ∈ (engine.storeOnly occasion submission).engine.documents.map (·.docId)
      rcases engine.submission_cases occasion submission with
        ⟨result, whole, -, -⟩ | ⟨stored, mid, ids, ran, -, part, whole, -⟩
      · rw [whole]
        exact kept
      · rw [whole]
        exact List.mem_map_of_mem (made.mem_evicting online part member own
          ((Submission.transaction_writes ran).stores.absent gone past))
  | cleanup other pool =>
      simp only [Engine.perform]
      rcases engine.cleanup_cases other pool with ⟨failure, whole⟩ | ⟨ids, part, whole⟩
      · rw [whole]
        exact kept
      · rw [whole]
        exact List.mem_map_of_mem (made.mem_evicting online part member own gone)
  | reembed =>
      obtain ⟨index, held, present⟩ := mem_documents.mp member
      simp only [Engine.perform, reembed, held]
      cases renewed : index.reembed with
      | error failure => exact kept
      | ok pair =>
          obtain ⟨twin, left, same⟩ := List.mem_map.mp
            (VectorIndex.docIds_add renewed (Or.inl (List.mem_map_of_mem present)))
          rw [← same]
          exact List.mem_map_of_mem (mem_documents.mpr ⟨pair.1, rfl, left⟩)
  | embedWith embedder =>
      obtain ⟨index, held, present⟩ := mem_documents.mp member
      refine List.mem_map_of_mem (mem_documents.mpr ⟨index.reopen embedder, ?_, present⟩)
      simp only [Engine.perform, held, Option.map_some]
  | amend amendment => exact kept
  | delete other ids => exact kept
  | search request now => exact kept

structure Strands (engine : Engine) (kind : RecordKind) (id : Int) : Prop where
  held : ∃ d ∈ engine.documents, d.IsOf kind id
  gone : id ∉ engine.store.ids kind
  past : id ≤ engine.store.lastId kind

theorem Strands.perform (strands : engine.Strands kind id) (made : engine.AllMade)
    (online : engine.Online) (operation : Operation) :
    (engine.perform operation).engine.Strands kind id := by
  have effect := engine.perform_effect operation
  have grown := effect.lastId_le kind
  have past := strands.past
  refine ⟨?_, ?_, by omega⟩
  · obtain ⟨d, member, own⟩ := strands.held
    obtain ⟨twin, present, same⟩ := List.mem_map.mp
      (made.docIds_perform online operation member own strands.gone past)
    exact ⟨twin, present, (made d member).isOf (made.perform operation twin present) same own⟩
  · intro present
    obtain ⟨label, live, rfl⟩ := List.mem_map.mp present
    rcases effect.label_cases live with old | fresh
    · exact strands.gone (List.mem_map_of_mem old)
    · omega

theorem Overtaken.strands {submission : Submission} {occasion : Occasion} {stored : Stored}
    {mid : Store} (overtaken : engine.Overtaken submission occasion stored mid)
    (made : engine.AllMade) (sound : engine.store.Sound) :
    (engine.record occasion submission).engine.Strands submission.kind stored.id := by
  have after : (engine.record occasion submission).engine.AllMade :=
    made.perform (.record submission occasion)
  have stores := (Submission.transaction_writes overtaken.ran).stores
  obtain ⟨ids, whole⟩ := overtaken.recorded_eq
  obtain ⟨d, read⟩ := List.exists_mem_of_ne_nil _ overtaken.documented
  have own : d.IsOf submission.kind stored.id := by
    obtain ⟨label, -, describes⟩ := Store.documents_describe (Store.documentsOf_subset read)
    exact ⟨describes.docType, Store.documentsOf_source read⟩
  have embeds : (engine.evicting mid submission.kind ids).Embeds
      (mid.documentsOf submission.kind stored.id) := by
    obtain ⟨embedder, vectors, served, embedded⟩ := overtaken.embeds
    have same := (engine.evicting_documents mid submission.kind ids).1
    exact ⟨embedder, vectors, same.trans served, embedded⟩
  have put : d.docId ∈ (engine.record occasion submission).engine.documents.map (·.docId) := by
    rw [whole]
    exact docIds_addDocuments (Or.inr ⟨List.mem_map_of_mem read, embeds⟩)
  obtain ⟨twin, present, same⟩ := List.mem_map.mp put
  have twins := (Store.made_of_mem (Store.documentsOf_subset read)).isOf (after twin present) same
    own
  refine ⟨⟨twin, present, twins⟩, overtaken.gone, ?_⟩
  obtain ⟨others, deleted⟩ := overtaken.deleted
  rw [deleted, Store.lastId_delete]
  exact ((stores.sound sound).bounds submission.kind stored.id stores.present).2

end Engine

def Step.Overtaken (step : Step) : Prop :=
  ∃ submission occasion stored mid, step.operation = .record submission occasion ∧
    step.before.Overtaken submission occasion stored mid

theorem Step.Overtaken.strands {step : Step} (overtaken : step.Overtaken)
    (made : step.before.AllMade) (sound : step.before.store.Sound) :
    ∃ kind id, step.outcome.engine.Strands kind id := by
  obtain ⟨before, operation⟩ := step
  obtain ⟨submission, occasion, stored, mid, rfl, overtaken⟩ := overtaken
  exact ⟨submission.kind, stored.id, overtaken.strands made sound⟩

/-- One step is enough to strand a record for the rest of the run. -/
theorem Engine.after_strands {engine : Engine} {operations : List Operation}
    (online : engine.Online) (made : engine.AllMade) (sound : engine.store.Sound)
    {step : Step} (member : step ∈ engine.history operations) (overtaken : step.Overtaken) :
    ∃ kind id, (engine.after operations).Strands kind id := by
  induction operations using List.reverseRecOn with
  | nil => cases member
  | append_singleton operations operation ih =>
      have reached : (engine.after operations).AllMade :=
        engine.after_invariant AllMade operations made fun other _ met held => held.perform other
      have still : (engine.after operations).Online :=
        engine.after_invariant Online operations online fun other _ met held =>
          met.perform_online other held
      rw [Engine.after_concat]
      rw [Engine.history_concat, List.mem_append, List.mem_singleton] at member
      rcases member with earlier | rfl
      · obtain ⟨kind, id, strands⟩ := ih earlier
        exact ⟨kind, id, strands.perform reached still operation⟩
      · exact overtaken.strands reached (engine.after_sound operations sound)

end Recall
