import Recall.Proofs.Listing
import Recall.Proofs.Presentation
import Recall.Proofs.Retrieval

namespace Recall

open Ranking (Scored)

namespace Store

theorem fetch_unlimited [Row α] (table : Table α) (order : α → α → Bool) (ids : List Int) :
    ∃ rows, fetch table order ids none = .ok rows := by
  simp only [fetch]
  split
  · exact ⟨[], rfl⟩
  · exact ⟨_, rfl⟩

theorem find?_fetched [Row α] {table : Table α} (once : (table.rows.map Row.id).Nodup)
    {order : α → α → Bool} {ids : List Int} {rows : List α}
    (fetched : fetch table order ids none = .ok rows) {id : Int} (asked : id ∈ ids) :
    ({ rows } : Table α).find? id = table.find? id := by
  have named : ids.isEmpty = false := by
    cases ids with
    | nil => cases asked
    | cons first rest => rfl
  have sorted : (table.withIds ids).mergeSort order = rows := by
    simpa only [fetch, named, Bool.false_eq_true, if_false, Except.ok.injEq] using fetched
  have same : rows.Perm (table.withIds ids) := by
    rw [← sorted]
    exact List.mergeSort_perm _ _
  cases found : table.find? id with
  | none =>
      refine List.find?_eq_none.mpr ?_
      intro row member
      exact List.find?_eq_none.mp found row (List.mem_filter.mp (same.subset member)).1
  | some row =>
      have own := Table.find?_present found
      have listed : row ∈ rows := by
        apply same.mem_iff.mpr
        apply List.mem_filter.mpr
        exact ⟨own.1, by rw [own.2]; exact decide_eq_true asked⟩
      have distinct : (rows.map Row.id).Nodup := by
        apply (same.map Row.id).nodup_iff.mpr
        exact once.sublist (List.filter_sublist.map _)
      rw [← own.2]
      exact Table.find?_of_nodup distinct listed

end Store

namespace SearchItem

/-- What every format shows of an item. -/
def outline (item : SearchItem) : SearchItem := { item with content := none, metadata := none }

def abridge : Format → SearchItem → SearchItem
  | .index, item => item.outline
  | .full, item => item

/-- Importances in the order in which the two zeros differ, and then the age. -/
def prominence (item : SearchItem) : Int ×ₗ Int ×ₗ Int :=
  toLex (Number.totalKey item.weight, item.age)

def precedes : SortOrder → SearchItem → SearchItem → Bool
  | .unspecified, _, _ => true
  | .oldestFirst, a, b => a.age ≤ b.age
  | .newestFirst, a, b => b.age ≤ a.age
  | .importance, a, b => b.prominence ≤ a.prominence

theorem whenFull_index (value : α) : whenFull .index value = none := rfl

theorem abridge_ofObservation (format : Format) (o : Observation) :
    ofObservation format o = (ofObservation .full o).abridge format := by
  cases format with
  | full => rw [abridge]
  | index => simp only [abridge, outline, ofObservation, whenFull_index]

theorem abridge_ofSummary (format : Format) (s : Summary) :
    ofSummary format s = (ofSummary .full s).abridge format := by
  cases format with
  | full => rw [abridge]
  | index => simp only [abridge, outline, ofSummary, whenFull_index]

theorem abridge_ofPrompt (format : Format) (p : Prompt) :
    ofPrompt format p = (ofPrompt .full p).abridge format := by
  cases format with
  | full => rw [abridge]
  | index => simp only [abridge, outline, ofPrompt, whenFull_index]

theorem abridge_withScore (format : Format) (score : Float) (item : SearchItem) :
    (item.abridge format).withScore score = (item.withScore score).abridge format := by
  cases format <;> rfl

theorem outline_abridge (format : Format) : outline ∘ abridge format = outline := by
  cases format <;> rfl

theorem sort_abridge (format : Format) (order : SortOrder) (items : List SearchItem) :
    (sort order items).map (abridge format) = sort order (items.map (abridge format)) := by
  cases order with
  | unspecified => rfl
  | oldestFirst | newestFirst | importance =>
      apply List.map_mergeSort
      intro a _ b _
      cases format <;> rfl

theorem prominence_le_iff {a b : SearchItem} : b.prominence ≤ a.prominence ↔
    Number.totalKey b.weight < Number.totalKey a.weight ∨
      (Number.totalKey a.weight = Number.totalKey b.weight ∧ b.age ≤ a.age) := by
  rw [prominence, prominence, Prod.Lex.toLex_le_toLex, eq_comm]

theorem mostImportantFirst_eq_precedes (a b : SearchItem) :
    mostImportantFirst a b = precedes .importance a b := by
  rw [Bool.eq_iff_iff, precedes, decide_eq_true_eq, prominence_le_iff]
  simp only [mostImportantFirst, newestFirst_eq, listedBefore, Bool.or_eq_true, Bool.and_eq_true,
    decide_eq_true_eq]

theorem sort_ordered (order : SortOrder) (items : List SearchItem) :
    (sort order items).Pairwise (precedes order · · = true) := by
  have sorted {before : SearchItem → SearchItem → Bool} (same : before = precedes order)
      (ranks : Ranks (precedes order)) :
      (items.mergeSort before).Pairwise (precedes order · · = true) := by
    rw [same]
    exact List.pairwise_mergeSort ranks.trans ranks.total items
  cases order with
  | unspecified => exact List.pairwise_of_forall fun _ _ => rfl
  | oldestFirst => exact sorted (funext₂ fun a b => newestFirst_eq b a) (ranks_key age)
  | newestFirst => exact sorted (funext₂ newestFirst_eq) (ranks_key age).flip
  | importance =>
      exact sorted (funext₂ mostImportantFirst_eq_precedes) (ranks_key prominence).flip

theorem observed_outline (items : List SearchItem) :
    observed (items.map outline) = observed items := by
  rw [observed, List.filter_map, List.map_map]
  rfl

end SearchItem

namespace SearchResponse

def outline (response : SearchResponse) : SearchResponse :=
  { response with results := response.results.map SearchItem.outline }

def abridge (format : Format) (response : SearchResponse) : SearchResponse :=
  { response with results := response.results.map (SearchItem.abridge format) }

theorem outline_abridge (format : Format) (response : SearchResponse) :
    (response.abridge format).outline = response.outline := by
  simp only [outline, abridge, List.map_map, SearchItem.outline_abridge]

end SearchResponse

namespace Search

theorem Hit.abridge_item (format : Format) (hit : Hit) :
    hit.item format = (hit.item .full).abridge format := by
  cases hit with
  | observation o => exact SearchItem.abridge_ofObservation format o
  | summary s => exact SearchItem.abridge_ofSummary format s
  | prompt p => exact SearchItem.abridge_ofPrompt format p

namespace Plan

def inFormat (plan : Plan) (format : Format) : Plan :=
  { plan with request := { plan.request with format } }

def inOrder (plan : Plan) (order : SortOrder) : Plan :=
  { plan with request := { plan.request with order } }

def namedIds (ranking : List (Scored Float)) (kind : RecordKind) : List Int :=
  (ranking.filter (RecordKind.ofDocType? ·.docType = some kind)).map (·.id)

def fetched (plan : Plan) (ranking : List (Scored Float)) : Except Failure Store := do
  let order := plan.request.order
  let observations ← plan.store.getObservations (namedIds ranking .observation) order none
  let summaries ← plan.store.getSummaries (namedIds ranking .summary) order none
  let prompts ← plan.store.getPrompts (namedIds ranking .prompt) order none
  return {
    observations := { rows := observations }
    summaries := { rows := summaries }
    prompts := { rows := prompts } }

/-- It is all the same whether the hits are looked up one by one or fetched, and in which
order. -/
theorem hits_fetched {plan : Plan} (once : ∀ kind, (plan.store.ids kind).Nodup)
    (ranking : List (Scored Float)) : ∃ store, plan.fetched ranking = .ok store ∧
      { plan with store }.hits ranking = plan.hits ranking := by
  have named {scored : Scored Float} (member : scored ∈ ranking) {kind : RecordKind}
      (type : RecordKind.ofDocType? scored.docType = some kind) :
      scored.id ∈ namedIds ranking kind :=
    List.mem_map_of_mem (List.mem_filter.mpr ⟨member, decide_eq_true type⟩)
  obtain ⟨observations, first⟩ := Store.fetch_unlimited plan.store.observations
    (Store.fetchOrder plan.request.order) (namedIds ranking .observation)
  obtain ⟨summaries, second⟩ := Store.fetch_unlimited plan.store.summaries
    (Store.ageOrder plan.request.order) (namedIds ranking .summary)
  obtain ⟨prompts, third⟩ := Store.fetch_unlimited plan.store.prompts
    (Store.ageOrder plan.request.order) (namedIds ranking .prompt)
  let store : Store := {
    observations := { rows := observations }
    summaries := { rows := summaries }
    prompts := { rows := prompts } }
  have handed : plan.fetched ranking = .ok store := by
    simp only [fetched, Store.getObservations, Store.getSummaries, Store.getPrompts, first,
      second, third]
    rfl
  -- Each entry is looked up among the rows of its kind, which have all that is named.
  refine ⟨store, handed, List.filterMap_congr fun scored member => congrArg _ ?_⟩
  rcases type : RecordKind.ofDocType? scored.docType with _ | _ | _ | _
  · simp only [hit?, type, Option.bind_eq_bind, Option.bind_none]
  · have distinct := once .observation
    rw [Store.ids_observation] at distinct
    have same := Store.find?_fetched distinct first (named member type)
    simp only [hit?, type, Option.bind_eq_bind, Option.bind_some, store, same]
    rfl
  · have distinct := once .summary
    rw [Store.ids_summary] at distinct
    have same := Store.find?_fetched distinct second (named member type)
    simp only [hit?, type, Option.bind_eq_bind, Option.bind_some, store, same]
  · have distinct := once .prompt
    rw [Store.ids_prompt] at distinct
    have same := Store.find?_fetched distinct third (named member type)
    simp only [hit?, type, Option.bind_eq_bind, Option.bind_some, store, same]

def retrieve (plan : Plan) (settings : SearchSettings) (index : Option VectorIndex) :
    Except Failure (Option (List (Scored Float × Hit))) :=
  match plan.request.queryText, index with
  | some query, some index =>
    if index.isConnected then
      (candidateCount settings plan.limit).map fun candidates =>
        (index.query query candidates plan.vectorFilter).toOption.map fun near =>
          let ranking := Ranking.fuse
            [vectorRanking near, plan.fullTextRanking query candidates]
          (withoutRepeats settings.dedupThreshold (plan.hits ranking)).take plan.limit
    else .ok none
  | _, _ => .ok none

theorem semantic?_eq (plan : Plan) (settings : SearchSettings) (index : Option VectorIndex) :
    plan.semantic? settings index = (plan.retrieve settings index).map (Option.map fun shown =>
      SearchItem.sort plan.request.order (shown.map plan.present)) := by
  simp only [semantic?, retrieve]
  cases plan.request.queryText with
  | none => rfl
  | some query =>
      cases index with
      | none => rfl
      | some index =>
          dsimp only
          cases index.isConnected with
          | false => rfl
          | true =>
              cases candidateCount settings plan.limit with
              | error failure => rfl
              | ok candidates =>
                  cases answered : index.query query candidates plan.vectorFilter with
                  | error failure =>
                      simp only [Except.map, if_true, semantic_refused answered, answered]
                      rfl
                  | ok near =>
                      simp only [Except.map, if_true, semantic_answered answered, answered]
                      rfl

theorem matchItems_inFormat (plan : Plan) (format : Format) (query : String)
    (kind : RecordKind) : (plan.inFormat format).matchItems query kind =
      ((plan.inFormat .full).matchItems query kind).map (SearchItem.abridge format) := by
  have scored {α : Type} {item : Format → α → SearchItem}
      (each : ∀ row, item format row = (item .full row).abridge format) (entry : α × Float) :
      (item format entry.1).withScore entry.2 =
        ((item .full entry.1).withScore entry.2).abridge format := by
    rw [each, SearchItem.abridge_withScore]
  cases kind with
  | observation =>
      simp only [matchItems, List.map_map]
      exact List.map_congr_left fun entry _ =>
        scored (SearchItem.abridge_ofObservation format) entry
  | summary =>
      simp only [matchItems, List.map_map]
      exact List.map_congr_left fun entry _ => scored (SearchItem.abridge_ofSummary format) entry
  | prompt =>
      simp only [matchItems, List.map_map]
      exact List.map_congr_left fun entry _ => scored (SearchItem.abridge_ofPrompt format) entry

theorem recent_inFormat (plan : Plan) (format : Format) (kind : RecordKind) :
    (plan.inFormat format).recent kind =
      ((plan.inFormat .full).recent kind).map (SearchItem.abridge format) := by
  cases kind with
  | observation =>
      simp only [recent, List.map_map]
      exact List.map_congr_left fun o _ => SearchItem.abridge_ofObservation format o
  | summary =>
      simp only [recent, List.map_map]
      exact List.map_congr_left fun s _ => SearchItem.abridge_ofSummary format s
  | prompt =>
      simp only [recent, List.map_map]
      exact List.map_congr_left fun p _ => SearchItem.abridge_ofPrompt format p

theorem allMatches_inFormat (plan : Plan) (format : Format) :
    (plan.inFormat format).allMatches =
      (plan.inFormat .full).allMatches.map (SearchItem.abridge format) := by
  have asked : (plan.inFormat format).request.queryText =
      (plan.inFormat .full).request.queryText := rfl
  simp only [allMatches, asked]
  cases (plan.inFormat .full).request.queryText with
  | none => rfl
  | some query =>
      rw [List.map_flatMap]
      exact List.flatMap_congr fun kind _ => plan.matchItems_inFormat format query kind

theorem latest_inFormat (plan : Plan) (format : Format) : (plan.inFormat format).latest =
    (plan.inFormat .full).latest.map (SearchItem.abridge format) := by
  simp only [latest, List.map_flatMap]
  exact List.flatMap_congr fun kind _ => plan.recent_inFormat format kind

theorem shown_inFormat (plan : Plan) (format : Format) : (plan.inFormat format).shown =
    (plan.inFormat .full).shown.map (SearchItem.abridge format) := by
  have found : (if (plan.inFormat format).allMatches.isEmpty then (plan.inFormat format).latest
      else (plan.inFormat format).allMatches) =
        (if (plan.inFormat .full).allMatches.isEmpty then (plan.inFormat .full).latest
          else (plan.inFormat .full).allMatches).map (SearchItem.abridge format) := by
    simp only [plan.allMatches_inFormat format, plan.latest_inFormat format, List.isEmpty_map]
    split <;> rfl
  rw [shown, shown, found, ← SearchItem.sort_abridge, List.map_take]
  rfl

theorem present_inFormat (plan : Plan) (format : Format) (entry : Scored Float × Hit) :
    (plan.inFormat format).present entry =
      ((plan.inFormat .full).present entry).abridge format := by
  have item := entry.2.abridge_item format
  rw [present, present, ← SearchItem.abridge_withScore]
  exact congrArg (SearchItem.withScore entry.1.score) item

theorem respond_inFormat (plan : Plan) (format : Format) (settings : SearchSettings)
    (index : Option VectorIndex) : (plan.inFormat format).respond settings index =
      ((plan.inFormat .full).respond settings index).map (SearchResponse.abridge format) := by
  have retrieved : (plan.inFormat format).retrieve settings index =
      (plan.inFormat .full).retrieve settings index := rfl
  have refused : (plan.inFormat format).matchingRefusal? =
      (plan.inFormat .full).matchingRefusal? := rfl
  simp only [respond, semantic?_eq, retrieved, structured_eq, refused]
  rcases (plan.inFormat .full).retrieve settings index with failure | _ | shown
  · rfl
  · rw [plan.shown_inFormat format]
    cases (plan.inFormat .full).matchingRefusal? <;> rfl
  · have items : shown.map (plan.inFormat format).present =
        (shown.map (plan.inFormat .full).present).map (SearchItem.abridge format) := by
      rw [List.map_map]
      exact List.map_congr_left fun entry _ => plan.present_inFormat format entry
    simp only [Except.map, Option.map_some, items, ← SearchItem.sort_abridge]
    rfl

/-- Under every order a search by meaning sorts the same items. -/
theorem respond_inOrder (plan : Plan) (order : SortOrder) (settings : SearchSettings)
    (index : Option VectorIndex) :
    let result := plan.respond settings index
    let other := (plan.inOrder order).respond settings index
    other.map SearchResponse.strategy = result.map SearchResponse.strategy ∧
      ∀ response, result = .ok response → response.strategy = .vector →
        ∃ sorted, other = .ok sorted ∧ sorted.results.Perm response.results ∧
          sorted.results.Pairwise (SearchItem.precedes order · · = true) := by
  have retrieved : (plan.inOrder order).retrieve settings index =
      plan.retrieve settings index := rfl
  have refused : (plan.inOrder order).matchingRefusal? = plan.matchingRefusal? := rfl
  simp only [respond, semantic?_eq, retrieved, structured_eq, refused]
  rcases plan.retrieve settings index with failure | _ | shown
  · refine ⟨rfl, ?_⟩
    rintro response ⟨⟩
  · cases plan.matchingRefusal? with
    | some failure =>
        refine ⟨rfl, ?_⟩
        rintro response ⟨⟩
    | none =>
        refine ⟨rfl, ?_⟩
        rintro response ⟨⟩ ⟨⟩
  · refine ⟨rfl, ?_⟩
    rintro response ⟨⟩ -
    refine ⟨_, rfl, ?_, SearchItem.sort_ordered order _⟩
    exact (SearchItem.sort_perm order _).trans (SearchItem.sort_perm _ _).symm

end Plan

end Search

theorem Store.recordRetrieval_perm (store : Store) {ids other : List Int} (same : ids.Perm other)
    (now : Int) : store.recordRetrieval ids now = store.recordRetrieval other now := by
  simp only [recordRetrieval, Table.update, same.mem_iff, same.count_eq]

namespace Engine

theorem search_left {engine : Engine} {request other : SearchRequest} {now : Int}
    {response shown : SearchResponse}
    (answered : (engine.search request now).result = .ok response)
    (also : (engine.search other now).result = .ok shown)
    (same : (SearchItem.observed shown.results).Perm (SearchItem.observed response.results)) :
    (engine.search other now).engine = (engine.search request now).engine := by
  have empty : (SearchItem.observed shown.results).isEmpty =
      (SearchItem.observed response.results).isEmpty := by
    rw [Bool.eq_iff_iff, List.isEmpty_iff_length_eq_zero, List.isEmpty_iff_length_eq_zero,
      same.length_eq]
  rw [search_engine answered, search_engine also]
  simp only [empty, engine.store.recordRetrieval_perm same now]

theorem search_left_outlined {engine : Engine} {request other : SearchRequest} {now : Int}
    (same : (engine.search other now).result.map SearchResponse.outline =
      (engine.search request now).result.map SearchResponse.outline) :
    (engine.search other now).engine = (engine.search request now).engine := by
  cases one : (engine.search request now).result with
  | error failure =>
      cases two : (engine.search other now).result with
      | error _ => rw [search_refused one, search_refused two]
      | ok _ =>
          rw [one, two] at same
          cases same
  | ok response =>
      cases two : (engine.search other now).result with
      | error _ =>
          rw [one, two] at same
          cases same
      | ok shown =>
          rw [one, two] at same
          have outlined := congrArg SearchResponse.results (Except.ok.inj same)
          refine search_left one two (.of_eq ?_)
          rw [← SearchItem.observed_outline, ← SearchItem.observed_outline response.results]
          exact congrArg SearchItem.observed outlined

/-- All formats of a request side by side, and all orders of it. An outline is all but the
contents and the metadata. -/
theorem search_presents_alike (engine : Engine) (request : SearchRequest) (now : Int) :
    let found := engine.search request now
    (∀ format : Format,
      let other := engine.search { request with format } now
      let full := engine.search { request with format := .full } now
      other.result.map SearchResponse.outline = found.result.map SearchResponse.outline ∧
      other.result = full.result.map (SearchResponse.abridge format) ∧
      other.engine = found.engine) ∧
    (∀ order : SortOrder,
      let other := engine.search { request with order } now
      other.result.map SearchResponse.strategy = found.result.map SearchResponse.strategy ∧
      ∀ response, found.result = .ok response → response.strategy = .vector →
        ∃ sorted, other.result = .ok sorted ∧ sorted.results.Perm response.results ∧
          sorted.results.Pairwise (SearchItem.precedes order · · = true) ∧
          other.engine = found.engine) := by
  intro found
  let plan := engine.plan request
  have appears (chosen : Format) : (engine.search { request with format := chosen } now).result =
      (engine.search { request with format := .full } now).result.map
        (SearchResponse.abridge chosen) := by
    rw [search_result, search_result]
    exact plan.respond_inFormat chosen engine.searching engine.index
  have outlined (chosen : Format) :
      (engine.search { request with format := chosen } now).result.map SearchResponse.outline =
        (engine.search { request with format := .full } now).result.map
          SearchResponse.outline := by
    rw [appears chosen]
    cases (engine.search { request with format := .full } now).result with
    | error failure => rfl
    | ok full => exact congrArg Except.ok (full.outline_abridge chosen)
  constructor
  · intro format other full
    have same := (outlined format).trans (outlined request.format).symm
    exact ⟨same, appears format, search_left_outlined same⟩
  · intro order other
    have ordered := plan.respond_inOrder order engine.searching engine.index
    simp only [found, other, search_result]
    refine ⟨ordered.1, ?_⟩
    intro response answered vector
    obtain ⟨sorted, also, same, inOrder⟩ := ordered.2 response answered vector
    refine ⟨sorted, also, same, inOrder, ?_⟩
    refine search_left ?_ ?_ (SearchItem.observed_perm same)
    · rw [search_result]
      exact answered
    · rw [search_result]
      exact also

theorem repeating_presents_alike :
    let engine := { repeating with searching := {}, index := some indifferent }
    let request : SearchRequest := { query := some " tests ", limit := some 3 }
    let oldest := engine.search { request with order := .oldestFirst } 9
    let full := engine.search { request with format := .full } 9
    ∃ response sorted, (engine.search request 9).result = .ok response ∧
      response.strategy = .vector ∧
      full.result.map SearchResponse.outline = .ok response.outline ∧
      oldest.result = .ok sorted ∧ sorted.results.Perm response.results ∧
      sorted.results.Pairwise (SearchItem.precedes .oldestFirst · · = true) := by
  intro engine request oldest full
  have alike := search_presents_alike engine request 9
  have asked : request.queryText = some "tests" := by decide +kernel
  have counted : Search.candidateCount engine.searching (engine.plan request).limit = .ok 6 :=
    Search.candidateCount_ok_iff.mpr (by decide +kernel)
  obtain ⟨near, answered⟩ := indifferent_answers "tests" 6 (engine.plan request).vectorFilter
  have ran := (engine.search_result request 9).trans
    (Search.Plan.respond_answered asked counted answered)
  obtain ⟨sorted, also, same, ordered, -⟩ := (alike.2 .oldestFirst).2 _ ran rfl
  have outlined := (alike.1 .full).1
  rw [ran] at outlined
  exact ⟨_, sorted, ran, rfl, outlined, also, same, ordered⟩

end Engine

end Recall
