import Recall.Embedding.WordHash
import Recall.Proofs.Findings
import Recall.Proofs.Provenance

/-!
Visibility. The test that keyword search makes on an observation, and the two tests that a
search by meaning makes, on a copy of its label and on the observation itself, come to the
same. So a search shows nothing that its request may not see, whichever way it goes.
-/

namespace Recall

open Ranking (Scored)

structure SearchRequest.MaySee (request : SearchRequest) (o : Observation) : Prop where
  project : ∀ name, request.project = some name → o.project = name ∨ o.scope = .everywhere
  everywhere : o.scope = .everywhere → request.includeEverywhere = true
  superseded : request.excludeSuperseded = true → o.superseded = false

theorem SearchRequest.filter_admits_iff (request : SearchRequest) (o : Observation) :
    request.filter.admits o = true ↔ request.MaySee o := by
  have both : request.MaySee o ↔
      ((∀ name, request.project = some name → o.project = name ∨ o.scope = .everywhere) ∧
        (o.scope = .everywhere → request.includeEverywhere = true)) ∧
        (request.excludeSuperseded = true → o.superseded = false) :=
    ⟨fun sees => ⟨⟨sees.project, sees.everywhere⟩, sees.superseded⟩,
      fun ⟨⟨project, everywhere⟩, superseded⟩ => ⟨project, everywhere, superseded⟩⟩
  rw [both]
  simp only [ObservationFilter.admits, filter, Bool.and_eq_true]
  refine and_congr ?_ ?_
  · cases request.project <;> cases request.includeEverywhere <;> cases o.scope <;> simp
  · cases request.excludeSuperseded <;> cases o.superseded <;> simp

theorem SearchType.docType_all {type : SearchType} {kind : RecordKind} :
    type.docType.all (· = kind.docType) = true ↔ kind ∈ type.kinds := by
  cases type <;> cases kind <;> decide

namespace Search.Plan

/-- The copied label and the observation together decide as the observation alone does. -/
theorem vector_tests_iff {plan : Plan} {m : DocumentMetadata} {o : Observation}
    (describes : m.Describes .observation o.label)
    (asked : .observation ∈ plan.request.type.kinds) :
    (plan.vectorFilter.admits m = true ∧ plan.observationVisible o = true) ↔
      plan.request.filter.admits o = true := by
  have type : plan.request.type.docType.all (· = m.docType) = true := by
    rw [describes.docType]
    exact SearchType.docType_all.mpr asked
  have scope : m.scope = some o.scope.name := describes.scope
  have project : m.project = o.project := describes.project
  simp only [vectorFilter, VectorFilter.admits, type, project, scope, observationVisible,
    ObservationFilter.admits, SearchRequest.filter]
  cases plan.request.project <;> cases plan.request.includeEverywhere <;>
    cases plan.request.excludeSuperseded <;> cases o.superseded <;> cases o.scope <;>
    simp [Scope.name, eq_comm]

end Search.Plan

/-- A record of the store, as an item of a response in which it may stand. -/
inductive Store.Shows (store : Store) (request : SearchRequest) : SearchItem → Prop
  | observation (o : Observation) (score : Option Float) (live : o ∈ store.observations.rows)
      (asked : .observation ∈ request.type.kinds) (admitted : request.filter.admits o = true)
      (sees : request.MaySee o) :
      Shows store request { SearchItem.ofObservation request.format o with score }
  | summary (s : Summary) (score : Option Float) (live : s ∈ store.summaries.rows)
      (asked : .summary ∈ request.type.kinds)
      (own : ∀ name, request.project = some name → s.project = name) :
      Shows store request { SearchItem.ofSummary request.format s with score }
  | prompt (p : Prompt) (score : Option Float) (live : p ∈ store.prompts.rows)
      (asked : .prompt ∈ request.type.kinds)
      (own : ∀ name, request.project = some name → p.project = name) :
      Shows store request { SearchItem.ofPrompt request.format p with score }

theorem Store.shows_observation {store : Store} {request : SearchRequest} {o : Observation}
    (score : Option Float) (live : o ∈ store.observations.rows)
    (asked : .observation ∈ request.type.kinds) (sees : request.MaySee o) :
    store.Shows request { SearchItem.ofObservation request.format o with score } :=
  .observation o score live asked ((request.filter_admits_iff o).mpr sees) sees

theorem Store.inProject_iff {project : Option String} {own : String} :
    Store.inProject project own = true ↔ ∀ name, project = some name → own = name := by
  cases project <;> simp [Store.inProject, eq_comm]

namespace Search.Plan

theorem matchItems_shown {plan : Plan} {query : String} {kind : RecordKind}
    (asked : kind ∈ plan.request.type.kinds) {item : SearchItem}
    (member : item ∈ plan.matchItems query kind) : plan.store.Shows plan.request item := by
  cases kind with
  | observation =>
      obtain ⟨⟨o, score⟩, found, rfl⟩ := List.mem_map.mp member
      obtain ⟨live, admitted⟩ := Table.answers_visible found
      exact Store.shows_observation (some score) live asked
        ((plan.request.filter_admits_iff o).mp admitted)
  | summary =>
      obtain ⟨⟨s, score⟩, found, rfl⟩ := List.mem_map.mp member
      obtain ⟨live, own⟩ := Table.answers_visible found
      exact .summary s (some score) live asked (Store.inProject_iff.mp own)
  | prompt =>
      obtain ⟨⟨p, score⟩, found, rfl⟩ := List.mem_map.mp member
      obtain ⟨live, own⟩ := Table.answers_visible found
      exact .prompt p (some score) live asked (Store.inProject_iff.mp own)

theorem recent_shown {plan : Plan} {kind : RecordKind}
    (asked : kind ∈ plan.request.type.kinds) {item : SearchItem}
    (member : item ∈ plan.recent kind) : plan.store.Shows plan.request item := by
  cases kind with
  | observation =>
      obtain ⟨o, listed, rfl⟩ := List.mem_map.mp member
      simp only [Store.listObservations] at listed
      obtain ⟨live, admitted⟩ := listed_visible listed
      rw [← SearchItem.ofObservation_unscored]
      exact Store.shows_observation none live asked
        ((plan.request.filter_admits_iff o).mp admitted)
  | summary =>
      obtain ⟨s, listed, rfl⟩ := List.mem_map.mp member
      simp only [Store.listSummaries] at listed
      obtain ⟨live, own⟩ := listed_visible listed
      rw [← SearchItem.ofSummary_unscored]
      exact .summary s none live asked (Store.inProject_iff.mp own)
  | prompt =>
      obtain ⟨p, listed, rfl⟩ := List.mem_map.mp member
      simp only [Store.listPrompts] at listed
      obtain ⟨live, own⟩ := listed_visible listed
      rw [← SearchItem.ofPrompt_unscored]
      exact .prompt p none live asked (Store.inProject_iff.mp own)

theorem shown_shows {plan : Plan} {item : SearchItem} (member : item ∈ plan.shown) :
    plan.store.Shows plan.request item := by
  have found := SearchItem.mem_sort.mp (List.mem_of_mem_take member)
  split at found
  · obtain ⟨kind, asked, listed⟩ := List.mem_flatMap.mp found
    exact recent_shown asked listed
  · simp only [allMatches] at found
    split at found
    · obtain ⟨kind, asked, matched⟩ := List.mem_flatMap.mp found
      exact matchItems_shown asked matched
    · cases found

structure Admits (plan : Plan) (kind : RecordKind) (id : Int) : Prop where
  asked : kind ∈ plan.request.type.kinds
  project : ∀ label ∈ plan.store.labels kind, label.id = id →
    ∀ name, plan.request.project = some name →
      label.project = name ∨ label.scope = some .everywhere

theorem admits_of_label {plan : Plan} (sound : plan.store.Sound) {kind : RecordKind}
    {label : Label} (asked : kind ∈ plan.request.type.kinds)
    (live : label ∈ plan.store.labels kind)
    (project : ∀ name, plan.request.project = some name →
      label.project = name ∨ label.scope = some .everywhere) : plan.Admits kind label.id := by
  refine ⟨asked, ?_⟩
  intro other present same
  rw [sound.label_unique present live same]
  exact project

theorem rankedItems_admits {plan : Plan} (sound : plan.store.Sound) {query : String}
    {candidates : Nat} {kind : RecordKind} (asked : kind ∈ plan.request.type.kinds)
    {entry : Scored Float} (member : entry ∈ plan.rankedItems query candidates kind) :
    entry.docType = kind.docType ∧ plan.Admits kind entry.id := by
  cases kind with
  | observation =>
      obtain ⟨⟨o, score⟩, found, rfl⟩ := List.mem_map.mp member
      obtain ⟨live, admitted⟩ := Table.answers_visible found
      refine ⟨rfl, admits_of_label sound asked (List.mem_map_of_mem live) ?_⟩
      intro name named
      have sees := (plan.request.filter_admits_iff o).mp admitted
      exact (sees.project name named).imp_right (congrArg some)
  | summary =>
      obtain ⟨⟨s, score⟩, found, rfl⟩ := List.mem_map.mp member
      obtain ⟨live, own⟩ := Table.answers_visible found
      refine ⟨rfl, admits_of_label sound asked (List.mem_map_of_mem live) ?_⟩
      exact fun name named => Or.inl (Store.inProject_iff.mp own name named)
  | prompt =>
      obtain ⟨⟨p, score⟩, found, rfl⟩ := List.mem_map.mp member
      obtain ⟨live, own⟩ := Table.answers_visible found
      refine ⟨rfl, admits_of_label sound asked (List.mem_map_of_mem live) ?_⟩
      exact fun name named => Or.inl (Store.inProject_iff.mp own name named)

/-- The filter of the index tests a copied label, which agrees with the record if there is
one. -/
theorem vectorFilter_admits {plan : Plan} {d : Document} (known : plan.store.Knows d)
    (admitted : plan.vectorFilter.admits d.metadata = true) :
    ∃ kind : RecordKind, d.metadata.docType = kind.docType ∧
      plan.Admits kind d.metadata.sourceId := by
  obtain ⟨kind, named, -, agrees⟩ := known
  simp only [VectorFilter.admits, vectorFilter, Bool.and_eq_true, Bool.or_eq_true] at admitted
  obtain ⟨type, place⟩ := admitted
  rw [named] at type
  refine ⟨kind, named, SearchType.docType_all.mp type, ?_⟩
  intro label live same name requested
  have describes := agrees label live same
  rcases place with own | ⟨-, everywhere⟩
  · rw [requested] at own
    rw [← describes.project]
    exact Or.inl (by simpa [eq_comm] using own)
  · have scope := describes.scope
    rw [of_decide_eq_true everywhere] at scope
    obtain ⟨original, held, named⟩ := Option.map_eq_some_iff.mp scope.symm
    cases original with
    | project => exact absurd named (by decide)
    | everywhere => exact Or.inr held

theorem fullTextRanking_admits {plan : Plan} (sound : plan.store.Sound) {query : String}
    {candidates : Nat} {entry : Scored Float}
    (member : entry ∈ plan.fullTextRanking query candidates) :
    ∃ kind : RecordKind, entry.docType = kind.docType ∧ plan.Admits kind entry.id := by
  obtain ⟨kind, asked, -, ranked⟩ := mem_fullTextRanking.mp member
  exact ⟨kind, rankedItems_admits sound asked ranked⟩

theorem vectorRanking_admits {plan : Plan} {index : VectorIndex} {query : String}
    {candidates : Nat} {near : List VectorMatch} {entry : Scored Float}
    (known : ∀ d ∈ index.stored, plan.store.Knows d)
    (answered : index.query query candidates plan.vectorFilter = .ok near)
    (member : entry ∈ vectorRanking near) :
    ∃ kind : RecordKind, entry.docType = kind.docType ∧ plan.Admits kind entry.id := by
  obtain ⟨found, present, type, id⟩ := vectorRanking_subset member
  obtain ⟨indexed, held, copied, admitted⟩ :=
    VectorIndex.query_admitted answered found present
  rw [copied] at admitted type id
  rw [type, id]
  exact vectorFilter_admits (known indexed.document (List.mem_map_of_mem held)) admitted

theorem hit_shown {plan : Plan} {kind : RecordKind} {scored : Scored Float} {hit : Hit}
    (type : scored.docType = kind.docType) (admits : plan.Admits kind scored.id)
    (found : plan.hit? scored = some hit) (score : Float) :
    plan.store.Shows plan.request ((hit.item plan.request.format).withScore score) := by
  obtain ⟨asked, project⟩ := admits
  cases kind with
  | observation =>
      rw [RecordKind.docType] at type
      simp only [hit?, type, RecordKind.ofDocType?, Option.bind_eq_bind, Option.bind_some,
        Option.bind_eq_some_iff] at found
      obtain ⟨o, present, looked⟩ := found
      split at looked
      · rename_i visible
        cases looked
        obtain ⟨live, same⟩ := Table.find?_present present
        simp only [observationVisible, Bool.and_eq_true, Bool.or_eq_true, Bool.not_eq_true',
          Bool.and_eq_false_iff, decide_eq_true_eq] at visible
        refine Store.shows_observation (some score) live asked ⟨?_, ?_, ?_⟩
        · intro name named
          exact (project o.label (List.mem_map_of_mem live) same name named).imp_right
            Option.some.inj
        · exact fun everywhere => visible.2.resolve_right fun elsewhere => elsewhere everywhere
        · exact fun excluded => visible.1.resolve_left (by simp [excluded])
      · cases looked
  | summary =>
      rw [RecordKind.docType] at type
      simp only [hit?, type, RecordKind.ofDocType?, Option.bind_eq_bind, Option.bind_some,
        Option.bind_eq_some_iff] at found
      obtain ⟨s, present, same⟩ := found
      cases same
      obtain ⟨live, same⟩ := Table.find?_present present
      refine .summary s (some score) live asked fun name named => ?_
      exact (project s.label (List.mem_map_of_mem live) same name named).resolve_right
        (by simp [Summary.label])
  | prompt =>
      rw [RecordKind.docType] at type
      simp only [hit?, type, RecordKind.ofDocType?, Option.bind_eq_bind, Option.bind_some,
        Option.bind_eq_some_iff] at found
      obtain ⟨p, present, same⟩ := found
      cases same
      obtain ⟨live, same⟩ := Table.find?_present present
      refine .prompt p (some score) live asked fun name named => ?_
      exact (project p.label (List.mem_map_of_mem live) same name named).resolve_right
        (by simp [Prompt.label])

theorem semantic_shown {plan : Plan} (sound : plan.store.Sound) {settings : SearchSettings}
    {index : VectorIndex} {query : String} {candidates : Nat} {items : List SearchItem}
    (known : ∀ d ∈ index.stored, plan.store.Knows d)
    (answered : plan.semantic settings index query candidates = .ok items) :
    ∀ item ∈ items, plan.store.Shows plan.request item := by
  simp only [semantic] at answered
  cases asked : index.query query candidates plan.vectorFilter with
  | error failure =>
      rw [asked] at answered
      cases answered
  | ok near =>
      rw [asked] at answered
      cases answered
      intro item member
      obtain ⟨⟨scored, hit⟩, kept, rfl⟩ :=
        List.mem_map.mp (List.mem_of_mem_take (SearchItem.mem_sort.mp member))
      obtain ⟨ranked, fused, made⟩ := List.mem_filterMap.mp (List.mem_filter.mp kept).1
      obtain ⟨found, looked, same⟩ := Option.map_eq_some_iff.mp made
      cases same
      obtain ⟨list, listed, entry, present, key⟩ := Ranking.fuse_subset fused
      have named : ∃ kind : RecordKind,
          entry.docType = kind.docType ∧ plan.Admits kind entry.id := by
        simp only [List.mem_cons, List.not_mem_nil, or_false] at listed
        rcases listed with rfl | rfl
        · exact vectorRanking_admits known asked present
        · exact fullTextRanking_admits sound present
      obtain ⟨kind, type, admits⟩ := named
      have sameType : entry.docType = scored.docType := congrArg Prod.fst key
      have sameId : entry.id = scored.id := congrArg Prod.snd key
      rw [sameType] at type
      rw [sameId] at admits
      exact hit_shown type admits looked scored.score

theorem respond_shown (plan : Plan) (sound : plan.store.Sound) {settings : SearchSettings}
    {index : Option VectorIndex}
    (known : ∀ held, index = some held → ∀ d ∈ held.stored, plan.store.Knows d)
    {response : SearchResponse} (answered : plan.respond settings index = .ok response) :
    ∀ item ∈ response.results, plan.store.Shows plan.request item := by
  intro item member
  rcases respond_ok_iff.mp answered with ⟨items, searched, rfl⟩ | ⟨-, -, rfl⟩
  · obtain ⟨query, held, candidates, -, present, -, -, ran⟩ := semantic?_some_iff.mp searched
    exact semantic_shown sound (known held present) ran item member
  · exact shown_shows member

end Search.Plan

namespace Engine

def plan (engine : Engine) (request : SearchRequest) : Search.Plan :=
  ⟨engine.store, request, Search.clampLimit engine.searching request.limit⟩

theorem plan_limit_pos (engine : Engine) (request : SearchRequest) :
    0 < (engine.plan request).limit :=
  Nat.lt_of_lt_of_le Nat.zero_lt_one (Nat.le_max_left _ _)

theorem search_result (engine : Engine) (request : SearchRequest) (now : Int) :
    (engine.search request now).result =
      (engine.plan request).respond engine.searching engine.index := by
  simp only [search, Search.run]
  cases ran : (engine.plan request).respond engine.searching engine.index with
  | error failure =>
      rw [plan] at ran
      rw [ran]
  | ok response =>
      rw [plan] at ran
      rw [ran]

def documentsAbout (engine : Engine) (kind : RecordKind) (id : Int) : List Document :=
  engine.documents.filter fun d =>
    d.metadata.docType = kind.docType && d.metadata.sourceId = id

end Engine

/-- Of an engine that began with nothing stored and nothing indexed. The tests agree on every
observation that has a document, so a search by meaning may show what a keyword search may. -/
theorem search_shows_visible (engine : Engine) (operations : List Operation)
    (request : SearchRequest) (now : Int) (empty : engine.store = {})
    (bare : engine.documents = []) :
    let reached := engine.after operations
    (∀ response, (reached.search request now).result = .ok response →
      ∀ item ∈ response.results, reached.store.Shows request item) ∧
    (∀ (preset : Preset) response,
      (reached.search (preset.apply request) now).result = .ok response →
        ∀ item ∈ response.results, reached.store.Shows (preset.apply request) item) ∧
    (.observation ∈ request.type.kinds → ∀ o ∈ reached.store.observations.rows,
      reached.documentsAbout .observation o.id ≠ [] →
        ((∃ d ∈ reached.documentsAbout .observation o.id,
          (reached.plan request).vectorFilter.admits d.metadata = true ∧
            (reached.plan request).observationVisible o = true) ↔
          request.filter.admits o = true)) := by
  intro reached
  have began : engine.store.Sound := by
    rw [empty]
    exact Store.sound_empty
  have sound : reached.store.Sound := engine.after_sound operations began
  have known : ∀ d ∈ reached.documents, reached.store.Knows d :=
    engine.after_knows operations began bare
  have shown (any : SearchRequest) (response : SearchResponse)
      (answered : (reached.search any now).result = .ok response) :
      ∀ item ∈ response.results, reached.store.Shows any item := by
    rw [reached.search_result] at answered
    refine (reached.plan any).respond_shown sound ?_ answered
    intro held present d member
    exact known d (Engine.mem_documents.mpr ⟨held, present, member⟩)
  refine ⟨shown request, fun preset => shown (preset.apply request), ?_⟩
  intro asked o live indexed
  have tests {d : Document} (member : d ∈ reached.documentsAbout .observation o.id) :
      ((reached.plan request).vectorFilter.admits d.metadata = true ∧
        (reached.plan request).observationVisible o = true) ↔
        request.filter.admits o = true := by
    obtain ⟨present, named⟩ := List.mem_filter.mp member
    obtain ⟨kind, type, -, agrees⟩ := known d present
    simp only [Bool.and_eq_true, decide_eq_true_eq] at named
    have same := RecordKind.docType_injective (type.symm.trans named.1)
    subst same
    exact Search.Plan.vector_tests_iff
      (agrees o.label (List.mem_map_of_mem live) named.2.symm) asked
  constructor
  · rintro ⟨d, member, passed⟩
    exact (tests member).mp passed
  · intro admitted
    obtain ⟨d, member⟩ := List.exists_mem_of_ne_nil _ indexed
    exact ⟨d, member, (tests member).mpr admitted⟩

def indexing : Engine where
  index := some { embedder := Embedding.wordEmbedder "first" }

/-- Observations of either scope from two projects. One is superseded, and one is deleted
behind the back of the index. -/
def sharing : List Operation :=
  let occasion (project : String) (now : Int) : Occasion :=
    { sessionKey := "session", project, now }
  let draft (scope : Scope) (narrative : String) : ObservationDraft :=
    { content := { type := .discovery, narrative := some narrative }, scope := some scope }
  [.record (.observation (draft .everywhere "tests run nightly") none) (occasion "one" 1),
    .record (.observation (draft .project "tests are slow") none) (occasion "two" 2),
    .record (.prompt 1 "tests?") (occasion "two" 3),
    .amend (.markSuperseded [1]),
    .delete .prompt [1],
    .embedWith (Embedding.wordEmbedder "second"),
    .reembed]

theorem sharing_shows_visible :
    let request : SearchRequest :=
      { project := some "two", query := some "tests", excludeSuperseded := true }
    let reached := indexing.after sharing
    (indexing.store = {} ∧ indexing.documents = []) ∧
    (∀ response, (reached.search request 9).result = .ok response →
      ∀ item ∈ response.results, reached.store.Shows request item) ∧
    (∀ (preset : Preset) response,
      (reached.search (preset.apply request) 9).result = .ok response →
        ∀ item ∈ response.results, reached.store.Shows (preset.apply request) item) ∧
    (.observation ∈ request.type.kinds → ∀ o ∈ reached.store.observations.rows,
      reached.documentsAbout .observation o.id ≠ [] →
        ((∃ d ∈ reached.documentsAbout .observation o.id,
          (reached.plan request).vectorFilter.admits d.metadata = true ∧
            (reached.plan request).observationVisible o = true) ↔
          request.filter.admits o = true)) :=
  ⟨⟨rfl, rfl⟩, search_shows_visible indexing sharing _ 9 rfl rfl⟩

end Recall
