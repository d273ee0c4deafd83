import Recall.Embedding.WordHash
import Recall.Proofs.Batches

/-!
The two tables of an index under any requests. They hold the same documents, each once, and a
document's vector is of its own content, from an embedder of the version that is noted beside
it. A request that fails leaves both tables as they were.
-/

namespace Recall

inductive IndexRequest
  | add (documents : List Document)
  | remove (docIds : List String)
  | removeSources (docType : String) (sources : List Int)
  | reembed
  /-- From now on another embedder serves the index. -/
  | reopen (embedder : Embedder)

/-- If the two are of one version, no text has a vector from each that differ. -/
def Embedder.AgreesWith (first second : Embedder) : Prop :=
  first.version = second.version → ∀ {text : String} {vector other : Embedding},
    first.embed text = .ok vector → second.embed text = .ok other → vector = other

def IndexRequest.embedder? : IndexRequest → Option Embedder
  | reopen embedder => some embedder
  | _ => none

def Document.LastIn (d : Document) (documents : List Document) : Prop :=
  ∃ before after, documents = before ++ d :: after ∧ d.docId ∉ after.map (·.docId)

theorem Document.lastIn_cons {first d : Document} {rest : List Document} :
    d.LastIn (first :: rest) ↔
      (d = first ∧ d.docId ∉ rest.map (·.docId)) ∨ d.LastIn rest := by
  constructor
  · rintro ⟨_ | ⟨head, before⟩, after, same, apart⟩
    · cases same
      exact Or.inl ⟨rfl, apart⟩
    · cases same
      exact Or.inr ⟨before, after, rfl, apart⟩
  · rintro (⟨rfl, apart⟩ | ⟨before, after, rfl, apart⟩)
    · exact ⟨[], rest, rfl, apart⟩
    · exact ⟨first :: before, after, rfl, apart⟩

namespace VectorIndex

def answer (index : VectorIndex) : IndexRequest → Except Failure (VectorIndex × Nat)
  | .add documents => index.add documents
  | .remove docIds => index.remove docIds
  | .removeSources docType sources => index.removeSources docType sources
  | .reembed => index.reembed
  | .reopen embedder => .ok (index.reopen embedder, 0)

def serve (index : VectorIndex) (request : IndexRequest) : VectorIndex :=
  match index.answer request with
  | .ok (after, _) => after
  | .error _ => index

def serveAll (index : VectorIndex) (requests : List IndexRequest) : VectorIndex :=
  requests.foldl serve index

def embedders (index : VectorIndex) (requests : List IndexRequest) : List Embedder :=
  index.embedder :: requests.filterMap IndexRequest.embedder?

def textsFor (index : VectorIndex) : IndexRequest → List String
  | .add documents => documents.map (·.content)
  | .reembed => index.staleDocuments.map (·.content)
  | _ => []

/-- The tables hold the same documents, each once and with a vector of its own. -/
structure Intact (index : VectorIndex) (embedders : List Embedder) : Prop where
  once : (index.documents.map (·.document.docId)).Nodup
  paired : index.embeddings.map Prod.fst = index.documents.map (·.document.docId)
  embedded : ∀ d ∈ index.documents, ∀ vector, (d.document.docId, vector) ∈ index.embeddings →
    ∃ embedder ∈ embedders, embedder.version = d.version ∧
      embedder.embed d.document.content = .ok vector

theorem Intact.paired_filter {index : VectorIndex} {embedders : List Embedder}
    (intact : index.Intact embedders) (keep : String → Bool) :
    (index.embeddings.filter fun e => keep e.1).map Prod.fst =
      (index.documents.filter fun d => keep d.document.docId).map (·.document.docId) :=
  calc
    (index.embeddings.filter fun e => keep e.1).map Prod.fst =
        (index.embeddings.map Prod.fst).filter keep := by
      rw [List.filter_map]
      rfl
    _ = (index.documents.map (·.document.docId)).filter keep := by
      rw [intact.paired]
    _ = (index.documents.filter fun d => keep d.document.docId).map (·.document.docId) := by
      rw [List.filter_map]
      rfl

theorem Intact.put {index : VectorIndex} {embedders : List Embedder}
    (intact : index.Intact embedders) {embedder : Embedder} (known : embedder ∈ embedders)
    {document : Document} {vector : Embedding}
    (made : embedder.embed document.content = .ok vector) :
    (put embedder.version index (document, vector)).Intact embedders where
  once := by
    simp only [VectorIndex.put, List.map_append, List.map_cons, List.map_nil]
    refine List.nodup_append.mpr ⟨?_, List.nodup_singleton _, ?_⟩
    · exact intact.once.sublist (List.filter_sublist.map _)
    · intro id old other new
      obtain ⟨d, live, rfl⟩ := List.mem_map.mp old
      rw [List.mem_singleton.mp new]
      simpa using (List.mem_filter.mp live).2
  paired := by
    simp only [VectorIndex.put, List.map_append, List.map_cons, List.map_nil]
    exact congrArg (· ++ [document.docId]) (intact.paired_filter (· ≠ document.docId))
  embedded := by
    intro d live found stored
    simp only [VectorIndex.put, List.mem_append, List.mem_filter, List.mem_singleton,
      decide_eq_true_eq] at live stored
    rcases live with ⟨old, differs⟩ | rfl
    · rcases stored with ⟨there, -⟩ | same
      · exact intact.embedded d old found there
      · exact absurd (Prod.mk.inj same).1 differs
    · rcases stored with ⟨-, apart⟩ | same
      · exact absurd rfl apart
      · rw [(Prod.mk.inj same).2]
        exact ⟨embedder, known, rfl, made⟩

theorem Intact.puts {index : VectorIndex} {embedders : List Embedder}
    (intact : index.Intact embedders) {embedder : Embedder} (known : embedder ∈ embedders)
    {entries : List (Document × Embedding)}
    (made : ∀ entry ∈ entries, embedder.embed entry.1.content = .ok entry.2) :
    (entries.foldl (VectorIndex.put embedder.version) index).Intact embedders := by
  induction entries generalizing index with
  | nil => exact intact
  | cons first rest ih =>
      have next := intact.put known (made first List.mem_cons_self)
      exact ih next fun entry member => made entry (List.mem_cons_of_mem _ member)

theorem Intact.without {index : VectorIndex} {embedders : List Embedder}
    (intact : index.Intact embedders) (docIds : List String) :
    (index.without docIds).Intact embedders where
  once := intact.once.sublist (List.filter_sublist.map _)
  paired := intact.paired_filter fun id => !(id ∈ docIds)
  embedded := by
    intro d live found stored
    exact intact.embedded d (List.mem_of_mem_filter live) found (List.mem_of_mem_filter stored)

/-- Of documents with one id the last one stays. -/
theorem mem_documents_puts {version : String} {index : VectorIndex}
    {entries : List (Document × Embedding)} {d : IndexedDocument} :
    d ∈ (entries.foldl (put version) index).documents ↔
      (d ∈ index.documents ∧ d.document.docId ∉ (entries.map Prod.fst).map (·.docId)) ∨
        (d.version = version ∧ d.document.LastIn (entries.map Prod.fst)) := by
  induction entries generalizing index with
  | nil => simp [Document.LastIn]
  | cons first rest ih =>
      obtain ⟨document, vector⟩ := first
      have placed : d ∈ (put version index (document, vector)).documents ↔
          (d ∈ index.documents ∧ d.document.docId ≠ document.docId) ∨
            (d.document = document ∧ d.version = version) := by
        cases d
        simp [put]
      rw [List.foldl_cons, ih, placed]
      simp only [List.map_cons, Document.lastIn_cons, List.mem_cons, not_or]
      tauto

theorem add_puts {index after : VectorIndex} (consistent : index.embedder.Consistent)
    {documents : List Document} {count : Nat}
    (ran : index.add documents = .ok (after, count)) :
    count = documents.length ∧ ∃ entries : List (Document × Embedding),
      entries.map Prod.fst = documents ∧
      (∀ entry ∈ entries, index.embedder.embed entry.1.content = .ok entry.2) ∧
      after = entries.foldl (put index.embedder.version) index := by
  have answered := (whenOnline_ok ran).2
  split at answered
  · rename_i bare
    cases answered
    rw [List.isEmpty_iff.mp bare]
    exact ⟨rfl, [], rfl, fun entry member => (nomatch member), rfl⟩
  · cases embedded : embedAll index.embedder (documents.map (·.content)) with
    | error failure =>
        rw [embedded] at answered
        cases answered
    | ok vectors =>
        rw [embedded] at answered
        cases answered
        have made := (embedAll_ok consistent embedded).1
        rw [List.forall₂_map_left_iff, List.forall₂_iff_zip] at made
        refine ⟨rfl, documents.zip vectors, List.map_fst_zip (Nat.le_of_eq made.1), ?_, rfl⟩
        intro entry zipped
        exact made.2 zipped

theorem add_error_iff {index : VectorIndex} (consistent : index.embedder.Consistent)
    (documents : List Document) : (∃ failure, index.add documents = .error failure) ↔
      index.reach ≠ .online ∨
        ∃ piece ∈ batches batchSize (documents.map (·.content)).length
          (documents.map (·.content)), ¬ index.embedder.Completes piece := by
  have answered {α : Type} (value : α) :
      ¬ ∃ failure, (Except.ok value : Except Failure α) = .error failure := by
    rintro ⟨failure, same⟩
    cases same
  by_cases online : index.reach = .online
  · simp only [online, ne_eq, not_true_eq_false, false_or, add, whenOnline, if_true]
    rw [← embedAll_error_iff consistent]
    cases documents with
    | nil => exact iff_of_false (answered _) (answered [])
    | cons first rest =>
        simp only [List.isEmpty_cons, Bool.false_eq_true, if_false]
        cases embedAll index.embedder ((first :: rest).map (·.content)) with
        | error failure => exact iff_of_true ⟨failure, rfl⟩ ⟨failure, rfl⟩
        | ok vectors => exact iff_of_false (answered _) (answered vectors)
  · simp only [online, ne_eq, not_false_eq_true, true_or, iff_true, add, whenOnline, if_false]
    exact ⟨_, rfl⟩

theorem remove_error_iff {index : VectorIndex} (docIds : List String) :
    (∃ failure, index.remove docIds = .error failure) ↔ index.reach ≠ .online := by
  simp only [remove, whenOnline]
  by_cases online : index.reach = .online
  · simp [online]
  · simp [online]

/-- What a request fails for: an index out of reach, or a batch that is not embedded as a
whole. Another embedder is always taken. -/
def Refuses (index : VectorIndex) (request : IndexRequest) : Prop :=
  request.embedder? = none ∧ (index.reach ≠ .online ∨
    ∃ piece ∈ batches batchSize (index.textsFor request).length (index.textsFor request),
      ¬ index.embedder.Completes piece)

theorem answer_error_iff {index : VectorIndex} (consistent : index.embedder.Consistent)
    (request : IndexRequest) :
    (∃ failure, index.answer request = .error failure) ↔ index.Refuses request := by
  cases request with
  | add documents =>
      simp [answer, Refuses, IndexRequest.embedder?, textsFor, add_error_iff consistent documents]
  | reembed =>
      simp [answer, Refuses, IndexRequest.embedder?, textsFor, reembed, add_error_iff consistent]
  | remove docIds =>
      simp [answer, Refuses, IndexRequest.embedder?, textsFor, remove_error_iff, batches]
  | removeSources docType sources =>
      simp [answer, Refuses, IndexRequest.embedder?, textsFor, removeSources, remove_error_iff,
        batches]
  | reopen embedder =>
      simp [answer, Refuses, IndexRequest.embedder?]

theorem Intact.answer {index after : VectorIndex} {embedders : List Embedder} {count : Nat}
    (intact : index.Intact embedders) (known : index.embedder ∈ embedders)
    (consistent : index.embedder.Consistent) {request : IndexRequest}
    (answered : index.answer request = .ok (after, count)) : after.Intact embedders ∧
      after.embedder = request.embedder?.getD index.embedder := by
  have added {documents : List Document} (ran : index.add documents = .ok (after, count)) :
      after.Intact embedders ∧ after.embedder = index.embedder := by
    obtain ⟨-, entries, -, made, rfl⟩ := add_puts consistent ran
    exact ⟨intact.puts known made, (foldl_put_sameService _ index entries).2⟩
  have removed {docIds : List String} (ran : index.remove docIds = .ok (after, count)) :
      after.Intact embedders ∧ after.embedder = index.embedder := by
    cases (whenOnline_ok ran).2
    exact ⟨intact.without docIds, rfl⟩
  cases request with
  | add documents => exact added answered
  | reembed => exact added answered
  | remove docIds => exact removed answered
  | removeSources docType sources => exact removed answered
  | reopen embedder =>
      cases answered
      exact ⟨⟨intact.once, intact.paired, intact.embedded⟩, rfl⟩

theorem Intact.serve {index : VectorIndex} {embedders : List Embedder}
    (intact : index.Intact embedders) (known : index.embedder ∈ embedders)
    (consistent : index.embedder.Consistent) {request : IndexRequest}
    (knows : ∀ embedder ∈ request.embedder?, embedder ∈ embedders) :
    (index.serve request).Intact embedders ∧ (index.serve request).embedder ∈ embedders := by
  cases answered : index.answer request with
  | error failure =>
      simp only [VectorIndex.serve, answered]
      exact ⟨intact, known⟩
  | ok pair =>
      obtain ⟨after, count⟩ := pair
      obtain ⟨next, served⟩ := intact.answer known consistent answered
      simp only [VectorIndex.serve, answered]
      refine ⟨next, ?_⟩
      rw [served]
      cases given : request.embedder? with
      | none => exact known
      | some embedder => exact knows embedder given

theorem Intact.serveAll {index : VectorIndex} {embedders : List Embedder}
    (intact : index.Intact embedders) (known : index.embedder ∈ embedders)
    (consistent : ∀ embedder ∈ embedders, embedder.Consistent) {requests : List IndexRequest}
    (knows : ∀ request ∈ requests, ∀ embedder ∈ request.embedder?, embedder ∈ embedders) :
    (index.serveAll requests).Intact embedders ∧
      (index.serveAll requests).embedder ∈ embedders := by
  induction requests generalizing index with
  | nil => exact ⟨intact, known⟩
  | cons request rest ih =>
      obtain ⟨next, served⟩ := intact.serve known (consistent _ known)
        (knows request List.mem_cons_self)
      exact ih next served fun other member => knows other (List.mem_cons_of_mem _ member)

/-- Whatever requests are made of an index that is bare at first, its tables match, and what a
document is stored with is what any embedder of its version makes of its content. A request
fails for its faults alone, which leave both tables as they are; documents that are added are
all there, the last of each id. -/
theorem tables_stay_intact (start : VectorIndex) (requests : List IndexRequest)
    (bare : start.documents = [] ∧ start.embeddings = [])
    (consistent : ∀ embedder ∈ start.embedders requests, embedder.Consistent)
    (agree : ∀ first ∈ start.embedders requests, ∀ second ∈ start.embedders requests,
      first.AgreesWith second) :
    (start.serveAll requests).Intact (start.embedders requests) ∧
    (∀ d ∈ (start.serveAll requests).documents, ∀ vector,
      (d.document.docId, vector) ∈ (start.serveAll requests).embeddings →
        ∀ embedder ∈ start.embedders requests, embedder.version = d.version →
          ∀ other, embedder.embed d.document.content = .ok other → other = vector) ∧
    (∀ request,
      ((∃ failure, (start.serveAll requests).answer request = .error failure) ↔
        (start.serveAll requests).Refuses request) ∧
      ((start.serveAll requests).Refuses request →
        (start.serveAll (requests ++ [request])).documents =
            (start.serveAll requests).documents ∧
          (start.serveAll (requests ++ [request])).embeddings =
            (start.serveAll requests).embeddings)) ∧
    ∀ documents after count,
      (start.serveAll requests).add documents = .ok (after, count) →
        count = documents.length ∧ ∀ d, d ∈ after.documents ↔
          (d ∈ (start.serveAll requests).documents ∧
            d.document.docId ∉ documents.map (·.docId)) ∨
          (d.version = (start.serveAll requests).embedder.version ∧
            d.document.LastIn documents) := by
  have fresh : start.Intact (start.embedders requests) :=
    ⟨by simp [bare.1], by simp [bare], by simp [bare.1]⟩
  have knows : ∀ request ∈ requests, ∀ embedder ∈ request.embedder?,
      embedder ∈ start.embedders requests := fun request member embedder given =>
    List.mem_cons_of_mem _ (List.mem_filterMap.mpr ⟨request, member, given⟩)
  obtain ⟨intact, known⟩ := fresh.serveAll List.mem_cons_self consistent knows
  refine ⟨intact, ?_, fun request => ?_, ?_⟩
  · intro d live vector stored embedder served version other made
    obtain ⟨maker, before, same, own⟩ := intact.embedded d live vector stored
    exact agree embedder served maker before (version.trans same.symm) made own
  · refine ⟨answer_error_iff (consistent _ known) request, fun refuses => ?_⟩
    obtain ⟨failure, refused⟩ := (answer_error_iff (consistent _ known) request).mpr refuses
    simp only [VectorIndex.serveAll, List.foldl_append, List.foldl_cons, List.foldl_nil]
    simp only [VectorIndex.serveAll] at refused
    simp only [VectorIndex.serve, refused, and_self]
  · intro documents after count ran
    obtain ⟨counted, entries, rfl, -, rfl⟩ := add_puts (consistent _ known) ran
    exact ⟨counted, fun d => mem_documents_puts⟩

end VectorIndex

namespace Embedding

theorem wordEmbedder_consistent (version : String) : (wordEmbedder version).Consistent := by
  rintro texts vectors ⟨⟩
  refine Or.inr (List.forall₂_map_right_iff.mpr ?_)
  exact List.forall₂_same.mpr fun text _ => rfl

theorem withFaults_consistent {inner : Embedder} (consistent : inner.Consistent) :
    (withFaults inner).Consistent := by
  intro texts vectors made
  simp only [withFaults] at made
  split at made
  · cases made
  · rename_i clean
    cases ran : inner.embedBatch texts with
    | error failure =>
        rw [ran] at made
        cases made
    | ok whole =>
        rw [ran] at made
        cases made
        have fits := consistent.length_le ran
        split
        · rename_i short
          have given : 0 < texts.length := by
            obtain ⟨text, member, -⟩ := List.any_eq_true.mp short
            exact List.length_pos_of_mem member
          rw [List.length_dropLast]
          exact Or.inl (by omega)
        · refine (consistent texts whole ran).imp_right fun own => ?_
          rw [List.forall₂_iff_zip] at own ⊢
          refine ⟨own.1, fun {text vector} zipped => ?_⟩
          have spared := List.any_eq_false.mp (Bool.not_eq_true _ ▸ clean) text
            (List.of_mem_zip zipped).1
          simp only [withFaults, spared]
          exact own.2 zipped

end Embedding

def note (docId content : String) : Document :=
  ⟨docId, content, ⟨1, "prompt", "prompt", "garden", none⟩⟩

def potted : VectorIndex := { embedder := Embedding.withFaults (Embedding.wordEmbedder "first") }

def tending : List IndexRequest := [
  .add [note "a" "rose", note "b" "lily", note "a" "tulip"],
  .add [note "b" "a shortfall of lilies"],
  .reopen (Embedding.withFaults (Embedding.wordEmbedder "second")),
  .add ((List.range 40).map fun i => note (toString i) "leaf"),
  .reembed,
  .remove ["b"]]

def frost : IndexRequest :=
  .add ((List.range 40).map fun i => note (toString i) (if i = 35 then "poison" else "leaf"))

theorem potted_stays_intact :
    (potted.documents = [] ∧ potted.embeddings = []) ∧
    (∀ embedder ∈ potted.embedders tending, embedder.Consistent) ∧
    (∀ first ∈ potted.embedders tending, ∀ second ∈ potted.embedders tending,
      first.AgreesWith second) ∧
    (potted.serveAll tending).Intact (potted.embedders tending) ∧
    (potted.serveAll tending).Refuses frost ∧
    (potted.serveAll (tending ++ [frost])).documents = (potted.serveAll tending).documents := by
  have all {holds : Embedder → Prop}
      (own : ∀ version, holds (Embedding.withFaults (Embedding.wordEmbedder version))) :
      ∀ embedder ∈ potted.embedders tending, holds embedder := by
    intro embedder member
    rcases List.mem_cons.mp member with rfl | later
    · exact own "first"
    · rw [List.mem_singleton.mp later]
      exact own "second"
  have consistent : ∀ embedder ∈ potted.embedders tending, embedder.Consistent :=
    all fun version =>
      Embedding.withFaults_consistent (Embedding.wordEmbedder_consistent version)
  have agree : ∀ first ∈ potted.embedders tending, ∀ second ∈ potted.embedders tending,
      first.AgreesWith second := by
    have own : ∀ embedder ∈ potted.embedders tending,
        embedder.embed = (Embedding.withFaults (Embedding.wordEmbedder "first")).embed :=
      all fun version => rfl
    intro first before second after _ text vector other one two
    rw [own first before] at one
    rw [own second after] at two
    exact Except.ok.inj (one.symm.trans two)
  obtain ⟨intact, -, fails, -⟩ :=
    VectorIndex.tables_stay_intact potted tending ⟨rfl, rfl⟩ consistent agree
  have unanswered : ((potted.serveAll tending).answer frost).toOption.isNone = true := by
    decide +kernel
  have failed : ∃ failure, (potted.serveAll tending).answer frost = .error failure := by
    cases answered : (potted.serveAll tending).answer frost with
    | error failure => exact ⟨failure, rfl⟩
    | ok pair =>
        rw [answered] at unanswered
        cases unanswered
  have refuses := (fails frost).1.mp failed
  exact ⟨⟨rfl, rfl⟩, consistent, agree, intact, refuses, ((fails frost).2 refuses).1⟩

end Recall
