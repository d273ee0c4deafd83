import Recall.Proofs.Acceptance
import Recall.Proofs.Reembedding

/-!
Where documents are from. A document has the text of one place: a field of a record, or one of
its facts. Its id tells the place, so documents from different places never have the same id,
and putting in the documents of one record leaves those of any other as they are.
-/

namespace Recall

inductive Record
  | observation (o : Observation)
  | summary (s : Summary)
  | prompt (p : Prompt)

namespace Record

def kind : Record → RecordKind
  | observation _ => .observation
  | summary _ => .summary
  | prompt _ => .prompt

def id : Record → Int
  | observation o => o.id
  | summary s => s.id
  | prompt p => p.id

def project : Record → String
  | observation o => o.project
  | summary s => s.project
  | prompt p => p.project

def scope : Record → Option Scope
  | observation o => some o.scope
  | _ => none

def documents : Record → List Document
  | observation o => Document.ofObservation o
  | summary s => Document.ofSummary s
  | prompt p => Document.ofPrompt p

inductive Indexes : Record → String → Option Nat → String → Prop
  | observation {o : Observation} {field : String} {index : Option Nat} {text : String}
      (indexed : o.content.Indexes field index text) : Indexes (.observation o) field index text
  | summary {s : Summary} {field : String} {given : Option String} {text : String}
      (named : (field, given) ∈ s.content.namedTexts) (filled : Filled given text) :
      Indexes (.summary s) field none text
  | prompt {p : Prompt} (filled : Text.isBlank p.text = false) :
      Indexes (.prompt p) "prompt" none p.text

end Record

@[ext]
structure Document.Place where
  kind : RecordKind
  source : Int
  field : String
  fact : Option Nat
  deriving DecidableEq, Repr

def Document.Place.docId (place : Document.Place) : String :=
  Document.idOf place.kind place.source place.field place.fact

/-- Only facts are numbered, and no other field has a name that begins like a numbered fact. -/
def Document.IsPart (field : String) (fact : Option Nat) : Prop :=
  (fact = none ∧ ¬ "fact_".toList <+: field.toList) ∨ (field = "fact" ∧ ∃ i, fact = some i)

theorem Document.idOf_part {kind : RecordKind} {source : Int} {field name : String}
    {fact position : Option Nat} (one : IsPart field fact) (two : IsPart name position)
    (same : idOf kind source field fact = idOf kind source name position) :
    field = name ∧ fact = position := by
  rcases one with ⟨rfl, plain⟩ | ⟨rfl, i, rfl⟩
  · rcases two with ⟨rfl, -⟩ | ⟨rfl, j, rfl⟩
    · exact ⟨idOf_field same, rfl⟩
    · exact absurd same (idOf_ne_fact plain)
  · rcases two with ⟨rfl, plain⟩ | ⟨rfl, j, rfl⟩
    · exact absurd same.symm (idOf_ne_fact plain)
    · exact ⟨rfl, congrArg some (idOf_index same)⟩

namespace Record

/-- The record has the document for its text at the place. -/
def Has (record : Record) (place : Document.Place) (d : Document) : Prop :=
  place.kind = record.kind ∧ place.source = record.id ∧
    ∃ text, record.Indexes place.field place.fact text ∧
      d = .make record.kind record.id record.project record.scope place.field place.fact text

theorem Has.docId_eq {record : Record} {place : Document.Place} {d : Document}
    (has : record.Has place d) : d.docId = place.docId := by
  obtain ⟨kind, source, text, -, rfl⟩ := has
  rw [Document.Place.docId, kind, source]
  rfl

theorem mem_ofSummary_iff {s : Summary} {d : Document} :
    d ∈ Document.ofSummary s ↔ ∃ field text, (Record.summary s).Indexes field none text ∧
      d = .make .summary s.id s.project none field none text := by
  simp only [Document.ofSummary, List.mem_map, SummaryContent.fields, List.mem_filterMap,
    Option.map_eq_some_iff, Prod.exists]
  constructor
  · rintro ⟨field, text, ⟨_, given, named, _, filled, ⟨⟩⟩, rfl⟩
    exact ⟨field, text, .summary named (Document.nonBlank_eq_some_iff.mp filled), rfl⟩
  · rintro ⟨field, text, indexed, rfl⟩
    cases indexed with
    | summary named filled =>
        exact ⟨field, text, ⟨field, _, named, text,
          Document.nonBlank_eq_some_iff.mpr filled, rfl⟩, rfl⟩

theorem mem_documents_iff (record : Record) (d : Document) :
    d ∈ record.documents ↔ ∃ place, record.Has place d := by
  have places : (∃ place, record.Has place d) ↔ ∃ field fact text,
      record.Indexes field fact text ∧
        d = .make record.kind record.id record.project record.scope field fact text := by
    constructor
    · rintro ⟨place, -, -, text, indexed, made⟩
      exact ⟨place.field, place.fact, text, indexed, made⟩
    · rintro ⟨field, fact, text, indexed, made⟩
      exact ⟨⟨record.kind, record.id, field, fact⟩, rfl, rfl, text, indexed, made⟩
  rw [places]
  cases record with
  | observation o =>
      rw [documents, Document.mem_ofObservation_iff]
      constructor
      · rintro ⟨field, fact, text, indexed, rfl⟩
        exact ⟨field, fact, text, .observation indexed, rfl⟩
      · rintro ⟨field, fact, text, ⟨indexed⟩, rfl⟩
        exact ⟨field, fact, text, indexed, rfl⟩
  | summary s =>
      rw [documents, mem_ofSummary_iff]
      constructor
      · rintro ⟨field, text, indexed, rfl⟩
        exact ⟨field, none, text, indexed, rfl⟩
      · rintro ⟨field, fact, text, indexed, rfl⟩
        cases indexed with
        | summary named filled => exact ⟨field, text, .summary named filled, rfl⟩
  | prompt p =>
      rw [documents, Document.mem_ofPrompt]
      constructor
      · rintro ⟨filled, rfl⟩
        exact ⟨"prompt", none, p.text, .prompt filled, rfl⟩
      · rintro ⟨field, fact, text, indexed, rfl⟩
        cases indexed with
        | prompt filled => exact ⟨filled, rfl⟩

theorem Indexes.isPart {record : Record} {field : String} {fact : Option Nat} {text : String}
    (indexed : record.Indexes field fact text) : Document.IsPart field fact := by
  cases indexed with
  | observation indexed =>
      cases indexed with
      | told told =>
          cases told with
          | narrative filled => exact Or.inl ⟨rfl, by decide⟩
          | fact filled => exact Or.inr ⟨rfl, _, rfl⟩
      | title untold filled => exact Or.inl ⟨rfl, by decide⟩
      | subtitle untold untitled filled => exact Or.inl ⟨rfl, by decide⟩
  | @summary s field given text named filled =>
      have plain : ∀ name ∈ s.content.namedTexts.map Prod.fst,
          ¬ "fact_".toList <+: name.toList := by
        simp only [SummaryContent.namedTexts, List.map_cons, List.map_nil]
        decide
      exact Or.inl ⟨rfl, plain field (List.mem_map_of_mem named)⟩
  | prompt filled => exact Or.inl ⟨rfl, by decide⟩

theorem Has.docId_eq_iff {first second : Record} {place other : Document.Place} {d e : Document}
    (one : first.Has place d) (two : second.Has other e) : d.docId = e.docId ↔ place = other := by
  rw [one.docId_eq, two.docId_eq]
  constructor
  · intro same
    obtain ⟨-, -, _, indexed, -⟩ := one
    obtain ⟨-, -, _, named, -⟩ := two
    obtain ⟨kinds, sources⟩ := Document.idOf_source same
    rw [Document.Place.docId, Document.Place.docId, kinds, sources] at same
    obtain ⟨fields, facts⟩ := Document.idOf_part indexed.isPart named.isPart same
    exact Document.Place.ext kinds sources fields facts
  · intro same
    rw [same]

theorem documents_nodup (record : Record) : (record.documents.map (·.docId)).Nodup := by
  cases record with
  | observation o => exact Document.ofObservation_nodup o
  | summary s => exact Document.ofSummary_nodup s
  | prompt p => exact Document.ofPrompt_nodup p

theorem docId_not_mem {first second : Record}
    (apart : ¬ (first.kind = second.kind ∧ first.id = second.id)) {d : Document}
    (own : d ∈ second.documents) : d.docId ∉ first.documents.map (·.docId) := by
  intro listed
  obtain ⟨e, member, same⟩ := List.mem_map.mp listed
  obtain ⟨place, one⟩ := (first.mem_documents_iff e).mp member
  obtain ⟨other, two⟩ := (second.mem_documents_iff d).mp own
  have alike := (one.docId_eq_iff two).mp same
  subst alike
  exact apart ⟨one.1.symm.trans two.1, one.2.1.symm.trans two.2.1⟩

end Record

namespace VectorIndex

def entriesOf (index : VectorIndex) (docId : String) : List IndexedDocument :=
  index.documents.filter (·.document.docId = docId)

def SameUnder (before after : VectorIndex) (docId : String) : Prop :=
  after.entriesOf docId = before.entriesOf docId ∧
    after.vectorsOf docId = before.vectorsOf docId ∧ after.timesOf docId = before.timesOf docId

theorem add_spares {index after : VectorIndex} {documents : List Document} {count : Nat}
    (once : (documents.map (·.docId)).Nodup)
    (ran : index.add documents = .ok (after, count)) :
    (∀ d ∈ documents, after.entriesOf d.docId = [⟨d, index.embedder.version⟩]) ∧
      ∀ docId, docId ∉ documents.map (·.docId) → index.SameUnder after docId := by
  obtain ⟨-, vectors, embedded, rfl⟩ := (add_ok_iff (whenOnline_ok ran).1).mp ran
  have counted : vectors.length = documents.length := by
    have all := (embedAll_ok_iff.mp embedded).1
    rwa [List.length_map] at all
  have ids : (documents.zip vectors).map (·.1.docId) = documents.map (·.docId) :=
    map_zip_of_fst counted (·.docId)
  rw [foldl_put_eq (ids ▸ once), ids]
  have entries : (documents.zip vectors).map (fun entry =>
      (⟨entry.1, index.embedder.version⟩ : IndexedDocument)) =
        documents.map fun d => ⟨d, index.embedder.version⟩ :=
    map_zip_of_fst counted (IndexedDocument.mk · index.embedder.version)
  rw [entries]
  constructor
  · intro d member
    have listed : IndexedDocument.mk d index.embedder.version ∈
        documents.map (IndexedDocument.mk · index.embedder.version) :=
      List.mem_map_of_mem member
    refine filter_supersede_own ?_ once listed _
    rw [List.map_map]
    rfl
  · intro docId apart
    refine ⟨?_, ?_, ?_⟩
    · refine filter_supersede_other ?_ apart _
      rw [List.map_map]
      rfl
    · refine congrArg (List.map Prod.snd) (filter_supersede_other ?_ apart _)
      rw [List.map_map]
      exact ids
    · refine congrArg (List.map Prod.snd) (filter_supersede_other ?_ apart _)
      rw [List.map_map]
      exact ids

end VectorIndex

/-- The documents of two records have the same id only if they are from the same place. So a
record brings all its documents into an index and disturbs those of no other record. -/
theorem document_ids_tell_places (first second : Record) :
    (∀ d, d ∈ first.documents ↔ ∃ place, first.Has place d) ∧
    (∀ place other d e, first.Has place d → second.Has other e →
      (d.docId = e.docId ↔ place = other)) ∧
    (¬ (first.kind = second.kind ∧ first.id = second.id) → ∀ index after count,
      VectorIndex.add index first.documents = .ok (after, count) →
        (∀ d ∈ first.documents, after.entriesOf d.docId = [⟨d, index.embedder.version⟩]) ∧
          ∀ d ∈ second.documents, index.SameUnder after d.docId) := by
  refine ⟨first.mem_documents_iff, fun place other d e one two => one.docId_eq_iff two, ?_⟩
  intro apart index after count ran
  obtain ⟨added, spared⟩ := VectorIndex.add_spares first.documents_nodup ran
  refine ⟨added, fun d own => spared d.docId ?_⟩
  exact Record.docId_not_mem apart own

def factual : Record := .observation {
  id := -1, sessionKey := "session", project := "project", scope := .project
  content := { type := .decision, facts := [" ", "one writer"], narrative := some "WAL" }
  promptNumber := none, discoveryTokens := 0, importance := 1, retrievalCount := 0
  lastRetrievedAt := none, superseded := false, createdAt := 0 }

def factualTwin : Record := .summary {
  id := -1, sessionKey := "session", project := "project"
  content := { nextSteps := some "one writer" }, promptNumber := none, discoveryTokens := 0
  createdAt := 0 }

theorem factual_apart : ∃ d e,
    factual.Has ⟨.observation, -1, "fact", some 1⟩ d ∧
    factualTwin.Has ⟨.summary, -1, "next_steps", none⟩ e ∧
    d.docId = "obs_-1_fact_1" ∧ e.docId = "summary_-1_next_steps" ∧ d.docId ≠ e.docId ∧
    ¬ (factual.kind = factualTwin.kind ∧ factual.id = factualTwin.id) ∧
    ∀ index : VectorIndex, index.reach = .online → index.embedder = constantEmbedder →
      ∃ after, index.add factual.documents = .ok (after, 2) ∧
        after.entriesOf d.docId = [⟨d, "constant"⟩] ∧ index.SameUnder after e.docId := by
  obtain ⟨places, ids, spares⟩ := document_ids_tell_places factual factualTwin
  have fact : factual.Has ⟨.observation, -1, "fact", some 1⟩ (.make .observation (-1) "project"
      (some .project) "fact" (some 1) "one writer") :=
    ⟨rfl, rfl, "one writer", .observation (.told (.fact ⟨rfl, by decide +kernel⟩)), rfl⟩
  have rest : factualTwin.Has ⟨.summary, -1, "next_steps", none⟩ (.make .summary (-1) "project"
      none "next_steps" none "one writer") := by
    refine ⟨rfl, rfl, "one writer", .summary ?_ ⟨rfl, by decide +kernel⟩, rfl⟩
    simp [SummaryContent.namedTexts]
  have apart : ¬ (factual.kind = factualTwin.kind ∧ factual.id = factualTwin.id) := by
    rintro ⟨⟨⟩, -⟩
  refine ⟨_, _, fact, rest, by decide +kernel, by decide +kernel, ?_, apart, ?_⟩
  · rw [Ne, ids _ _ _ _ fact rest]
    decide
  · intro index online constant
    obtain ⟨after, count, ran, -⟩ := VectorIndex.add_total online
      (constant ▸ constantEmbedder_neverFails) factual.documents_nodup
    obtain ⟨added, spared⟩ := spares apart index after count ran
    have two : factual.documents.length = 2 := by decide +kernel
    obtain ⟨counted, -⟩ := (VectorIndex.add_ok_iff online).mp ran
    rw [constant] at added
    rw [counted, two] at ran
    exact ⟨after, ran, added _ ((places _).mpr ⟨_, fact⟩),
      spared _ ((Record.mem_documents_iff _ _).mpr ⟨_, rest⟩)⟩

end Recall
