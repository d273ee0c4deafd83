import Recall.Proofs.Degradation
import Recall.Proofs.Listing
import Recall.Proofs.Reliability

/-!
When a search comes back empty although there is something to show. Without an index it never
does, though it may be refused. By meaning, only so many of the nearest documents are looked at,
and whether their records may be shown is found out afterwards: the search comes back empty when
none of them may, and no keyword of the query matches in a kind that can be searched.
-/

namespace Recall

open Ranking (Scored)

/-- If a limit lets nothing through but what is counted, and there is less of that than the limit
allows, then the limit lets everything through. -/
theorem limited_eq_self_of_countP_lt {counted : α → Bool} {limit : Nat} {rows : List α}
    (all : ∀ row ∈ limited limit rows, counted row = true) (few : rows.countP counted < limit) :
    limited limit rows = rows := by
  simp only [limited] at all ⊢
  split
  · rename_i within
    rw [if_pos within] at all
    have short : min limit rows.length < limit :=
      calc
        min limit rows.length = (rows.take limit).length := List.length_take.symm
        _ = (rows.take limit).countP counted := (List.countP_eq_length.mpr all).symm
        _ ≤ rows.countP counted := (List.take_sublist _ _).countP_le
        _ < limit := few
    apply List.take_of_length_le
    omega
  · rfl

namespace Search.Plan

def hides (plan : Plan) (m : DocumentMetadata) : Bool :=
  (plan.hit? ⟨m.docType, m.sourceId, 0⟩).isNone

end Search.Plan

namespace VectorIndex

def nearest (index : VectorIndex) (vector : Embedding) (filter : VectorFilter) :
    List (IndexedDocument × Float) :=
  (index.distances vector filter).mergeSort fun a b =>
    Number.valueKey a.2 ≤ Number.valueKey b.2

theorem query_embedded {index : VectorIndex} {text : String} {vector : Embedding} {limit : Nat}
    (online : index.reach = .online) (filled : Text.isBlank text = false)
    (embedded : index.embedder.embed text = .ok vector) (wanted : 0 < limit)
    (filter : VectorFilter) : index.query text limit filter =
      .ok ((limited limit (index.nearest vector filter)).map fun (d, distance) =>
        ⟨d.document.docId, 1 - distance, d.document.metadata⟩) := by
  have asked : limit ≠ 0 := Nat.ne_of_gt wanted
  simp only [query, whenOnline, online, if_true, filled, asked, decide_false, Bool.or_self,
    Bool.false_eq_true, if_false, embedded]
  rfl

theorem query_ok {index : VectorIndex} {text : String} {limit : Nat} {filter : VectorFilter}
    {near : List VectorMatch} (filled : Text.isBlank text = false) (wanted : 0 < limit)
    (answered : index.query text limit filter = .ok near) :
    index.reach = .online ∧ ∃ vector, index.embedder.embed text = .ok vector := by
  have online := (whenOnline_ok answered).1
  refine ⟨online, ?_⟩
  cases embedded : index.embedder.embed text with
  | ok vector => exact ⟨vector, rfl⟩
  | error failure =>
      rw [query_unembedded online filled embedded wanted] at answered
      cases answered

def Holds (index : VectorIndex) (d : Document) : Prop :=
  (∃ entry ∈ index.documents, entry.document = d) ∧ ∃ e ∈ index.embeddings, e.1 = d.docId

instance (index : VectorIndex) (d : Document) : Decidable (index.Holds d) :=
  inferInstanceAs (Decidable (_ ∧ _))

theorem Holds.mem_nearest {index : VectorIndex} {d : Document} (holds : index.Holds d)
    {vector : Embedding} {filter : VectorFilter} (admitted : filter.admits d.metadata = true) :
    ∃ entry ∈ index.nearest vector filter, entry.1.document = d := by
  obtain ⟨⟨entry, held, rfl⟩, measured⟩ := holds
  have found : (index.embeddings.find? (·.1 = entry.document.docId)).isSome = true := by
    rw [List.find?_isSome]
    simpa using measured
  obtain ⟨e, first⟩ := Option.isSome_iff_exists.mp found
  refine ⟨(entry, Embedding.distance e.2 vector), List.mem_mergeSort.mpr ?_, rfl⟩
  refine List.mem_filterMap.mpr ⟨entry, List.mem_filter.mpr ⟨held, admitted⟩, ?_⟩
  rw [first]
  rfl

end VectorIndex

def Engine.Indexed (engine : Engine) : Prop :=
  ∀ index, engine.index = some index → ∀ kind, ∀ d ∈ engine.store.documents kind, index.Holds d

namespace Search.Plan

/-- A document of a live record that the request asks for and may see. -/
inductive Offers (plan : Plan) : Document → Prop
  | observation (o : Observation) (d : Document) (asked : .observation ∈ plan.request.type.kinds)
      (live : o ∈ plan.store.observations.rows) (sees : plan.request.MaySee o)
      (made : d ∈ Document.ofObservation o) : Offers plan d
  | summary (s : Summary) (d : Document) (asked : .summary ∈ plan.request.type.kinds)
      (live : s ∈ plan.store.summaries.rows)
      (own : ∀ name, plan.request.project = some name → s.project = name)
      (made : d ∈ Document.ofSummary s) : Offers plan d
  | prompt (p : Prompt) (d : Document) (asked : .prompt ∈ plan.request.type.kinds)
      (live : p ∈ plan.store.prompts.rows)
      (own : ∀ name, plan.request.project = some name → p.project = name)
      (made : d ∈ Document.ofPrompt p) : Offers plan d

variable {plan : Plan} {d : Document}

theorem Offers.visible (offered : plan.Offers d) :
    ∃ kind ∈ plan.request.type.kinds, plan.visible kind ≠ [] := by
  cases offered with
  | observation o d asked live sees made =>
      have admitted := (plan.request.filter_admits_iff o).mpr sees
      exact ⟨_, asked, List.ne_nil_of_mem
        (List.mem_map_of_mem (List.mem_filter.mpr ⟨live, admitted⟩))⟩
  | summary s d asked live own made =>
      have admitted := Store.inProject_iff.mpr own
      exact ⟨_, asked, List.ne_nil_of_mem
        (List.mem_map_of_mem (List.mem_filter.mpr ⟨live, admitted⟩))⟩
  | prompt p d asked live own made =>
      have admitted := Store.inProject_iff.mpr own
      exact ⟨_, asked, List.ne_nil_of_mem
        (List.mem_map_of_mem (List.mem_filter.mpr ⟨live, admitted⟩))⟩

theorem Offers.documents (offered : plan.Offers d) : ∃ kind, d ∈ plan.store.documents kind := by
  cases offered with
  | observation o d asked live sees made =>
      exact ⟨.observation, List.mem_flatMap.mpr ⟨o, live, made⟩⟩
  | summary s d asked live own made => exact ⟨.summary, List.mem_flatMap.mpr ⟨s, live, made⟩⟩
  | prompt p d asked live own made => exact ⟨.prompt, List.mem_flatMap.mpr ⟨p, live, made⟩⟩

theorem vectorFilter_admits_own {kind : RecordKind} {label : Label} {m : DocumentMetadata}
    (describes : m.Describes kind label) (asked : kind ∈ plan.request.type.kinds)
    (own : ∀ name, plan.request.project = some name → label.project = name) :
    plan.vectorFilter.admits m = true := by
  have type : plan.request.type.docType.all (· = m.docType) = true := by
    rw [describes.docType]
    exact SearchType.docType_all.mpr asked
  have project : plan.request.project.all (· = m.project) = true := by
    rw [describes.project]
    cases given : plan.request.project with
    | none => rfl
    | some name => simpa using (own name given).symm
  simp only [VectorFilter.admits, vectorFilter, type, project, Bool.true_or, Bool.and_self]

theorem hides_eq_false {m : DocumentMetadata} {hit : Hit}
    (names : plan.Names ⟨m.docType, m.sourceId, 0⟩ hit) : plan.hides m = false := by
  rw [hides, hit?_iff.mpr names]
  rfl

theorem Offers.admitted (sound : plan.store.Sound) (offered : plan.Offers d) :
    plan.vectorFilter.admits d.metadata = true ∧ plan.hides d.metadata = false := by
  cases offered with
  | observation o d asked live sees made =>
      obtain ⟨field, index, content, rfl⟩ := Document.ofObservation_made made
      have describes := Document.make_describes .observation o.label field index content
      have tests := (vector_tests_iff describes asked).mpr
        ((plan.request.filter_admits_iff o).mpr sees)
      exact ⟨tests.1, hides_eq_false (.observation o 0 (sound.find?_observation live)
        sees.superseded sees.everywhere)⟩
  | summary s d asked live own made =>
      obtain ⟨field, content, rfl⟩ := Document.ofSummary_made made
      have describes := Document.make_describes .summary s.label field none content
      exact ⟨vectorFilter_admits_own describes asked own,
        hides_eq_false (.summary s 0 (sound.find?_summary live))⟩
  | prompt p d asked live own made =>
      obtain ⟨-, rfl⟩ := Document.mem_ofPrompt.mp made
      have describes := Document.make_describes .prompt p.label "prompt" none p.text
      exact ⟨vectorFilter_admits_own describes asked own,
        hides_eq_false (.prompt p 0 (sound.find?_prompt live))⟩

/-- The index can embed the query, no keyword of which matches in a kind that can be searched,
and all the documents that it is asked for are of records that may not be shown. -/
structure CrowdedOut (plan : Plan) (candidates : Nat) (index : VectorIndex) (query : String)
    (vector : Embedding) : Prop where
  asked : plan.request.queryText = some query
  online : index.reach = .online
  embedded : index.embedder.embed query = .ok vector
  unmatched : ∀ kind ∈ plan.request.type.kinds, plan.refusal? query candidates kind = none →
    plan.matchItems query kind = []
  hidden : ∀ entry ∈ limited candidates (index.nearest vector plan.vectorFilter),
    plan.hides entry.1.document.metadata = true

variable {settings : SearchSettings} {index : VectorIndex} {query : String} {vector : Embedding}
variable {candidates : Nat}

theorem CrowdedOut.countP_le
    (crowded : plan.CrowdedOut candidates index query vector) (sound : plan.store.Sound)
    (offered : plan.Offers d) (holds : index.Holds d) :
    candidates ≤ (index.nearest vector plan.vectorFilter).countP
      fun entry => plan.hides entry.1.document.metadata := by
  obtain ⟨admitted, shown⟩ := offered.admitted sound
  have present : ∃ entry ∈ index.nearest vector plan.vectorFilter, entry.1.document = d :=
    holds.mem_nearest admitted
  obtain ⟨entry, near, rfl⟩ := present
  by_contra few
  have whole := limited_eq_self_of_countP_lt crowded.hidden (Nat.not_le.mp few)
  have gone := crowded.hidden entry (by rwa [whole])
  rw [shown] at gone
  cases gone

end Search.Plan

def outdating : Engine :=
  let occasion (now : Int) : Occasion := { sessionKey := "session", project := "project", now }
  let draft (scope : Scope) (facts : List String) : ObservationDraft :=
    { content := { type := .decision, facts }, scope := some scope }
  Engine.after {} [
    .record (.observation (draft .everywhere ["deploy on friday", "deploy from main"]) none)
      (occasion 1),
    .record (.observation (draft .project ["release on monday"]) none) (occasion 2),
    .amend (.markSuperseded [1])]

def uniform : VectorIndex :=
  let documents := outdating.store.documents .observation
  { embedder := constantEmbedder
    documents := documents.map fun d => ⟨d, constantEmbedder.version⟩
    embeddings := documents.map fun d =>
      (d.docId, Array.replicate Embedding.dimensions 1) }

def outdated : Engine := { outdating with index := some uniform }

def upToDate (limit : Nat) : SearchRequest :=
  { query := some "deploy", limit := some limit, excludeSuperseded := true }

end Recall
