import Mathlib.Data.List.Perm.Subperm
import Recall.Proofs.Bookkeeping
import Recall.Proofs.Ratings

namespace Recall

open Ranking (Scored)

theorem subperm_map {part all : List α} (within : part.Subperm all) (view : α → β) :
    (part.map view).Subperm (all.map view) := by
  obtain ⟨inside, same, within⟩ := within
  exact ⟨inside.map view, same.map view, within.map view⟩

theorem listed_subperm (rows : List α) (visible : α → Bool) (order : α → α → Bool)
    (limit : Nat) : (limited limit ((rows.filter visible).mergeSort order)).Subperm rows :=
  (limited_sublist _ _).subperm.trans
    ((List.mergeSort_perm _ _).subperm.trans List.filter_sublist.subperm)

namespace Table

variable [Row α]

theorem answers_subperm (table : Table α) (visible : α → Bool) (query : String) (limit : Nat) :
    ((table.answers visible query limit).map Prod.fst).Subperm table.rows := by
  rw [answers_eq_searchBy]
  exact table.searchBy_subperm .relevance visible query limit

end Table

namespace SearchItem

def observed (items : List SearchItem) : List Int :=
  (items.filter (·.kind = .observation)).map (·.id)

theorem observed_perm {items other : List SearchItem} (same : items.Perm other) :
    (observed items).Perm (observed other) :=
  (same.filter _).map _

theorem observed_sort (order : SortOrder) (items : List SearchItem) :
    (observed (sort order items)).Perm (observed items) :=
  observed_perm (sort_perm order items)

theorem observed_take (limit : Nat) (items : List SearchItem) :
    (observed (items.take limit)).Sublist (observed items) :=
  ((List.take_sublist limit items).filter _).map _

theorem mem_observed {items : List SearchItem} {id : Int} :
    id ∈ observed items ↔ ∃ item ∈ items, item.kind = .observation ∧ item.id = id := by
  simp [observed, and_assoc]

theorem observed_nodup {items : List SearchItem}
    (once : (items.map fun item => (item.kind, item.id)).Nodup) : (observed items).Nodup := by
  have part := once.sublist ((List.filter_sublist (p := (·.kind = .observation))).map _)
  have same : (items.filter (·.kind = .observation)).map (fun item => (item.kind, item.id)) =
      (observed items).map fun id => (RecordKind.observation, id) := by
    rw [observed, List.map_map]
    refine List.map_congr_left fun item member => ?_
    have kind := (List.mem_filter.mp member).2
    simp only [of_decide_eq_true kind, Function.comp_apply]
  rw [same] at part
  exact part.of_map _

theorem observed_flatMap {found : RecordKind → List SearchItem}
    (own : ∀ kind, ∀ item ∈ found kind, item.kind = kind) (type : SearchType) :
    (observed (type.kinds.flatMap found)).Sublist ((found .observation).map (·.id)) := by
  have other (kind : RecordKind) (differs : kind ≠ .observation) :
      (found kind).filter (·.kind = .observation) = [] := by
    refine List.filter_eq_nil_iff.mpr fun item member => ?_
    rw [own kind item member]
    simpa using differs
  have summaries := other .summary (by decide)
  have prompts := other .prompt (by decide)
  have observations : ((found .observation).filter (·.kind = .observation)).Sublist
      (found .observation) := List.filter_sublist
  cases type <;>
    simp only [observed, SearchType.kinds, List.flatMap_cons, List.flatMap_nil, List.append_nil,
      List.filter_append, summaries, prompts]
  · exact observations.map _
  · exact observations.map _
  · exact List.nil_sublist _
  · exact List.nil_sublist _

end SearchItem

namespace Search.Plan

theorem matchItems_kind {plan : Plan} {query : String} {kind : RecordKind}
    {item : SearchItem} (member : item ∈ plan.matchItems query kind) : item.kind = kind := by
  cases kind <;>
  · obtain ⟨found, -, rfl⟩ := List.mem_map.mp member
    rfl

theorem recent_kind {plan : Plan} {kind : RecordKind} {item : SearchItem}
    (member : item ∈ plan.recent kind) : item.kind = kind := by
  cases kind <;>
  · obtain ⟨found, -, rfl⟩ := List.mem_map.mp member
    rfl

theorem matchItems_ids (plan : Plan) (query : String) :
    ((plan.matchItems query .observation).map (·.id)).Subperm
      (plan.store.ids .observation) := by
  rw [Store.ids_observation, matchItems, List.map_map]
  have found := subperm_map (plan.store.observations.answers_subperm plan.request.filter.admits
    query plan.limit) Observation.id
  rwa [List.map_map] at found

theorem recent_ids (plan : Plan) :
    ((plan.recent .observation).map (·.id)).Subperm (plan.store.ids .observation) := by
  rw [Store.ids_observation, recent, List.map_map]
  exact subperm_map (listed_subperm _ _ _ _) Observation.id

theorem shown_observed (plan : Plan) :
    (SearchItem.observed plan.shown).Subperm (plan.store.ids .observation) := by
  have matching : (SearchItem.observed plan.allMatches).Subperm
      (plan.store.ids .observation) := by
    simp only [allMatches]
    split
    · exact (SearchItem.observed_flatMap (fun _ _ => matchItems_kind) _).subperm.trans
        (plan.matchItems_ids _)
    · exact List.nil_subperm
  have found : (SearchItem.observed
      (if plan.allMatches.isEmpty then plan.latest else plan.allMatches)).Subperm
        (plan.store.ids .observation) := by
    split
    · exact (SearchItem.observed_flatMap (fun _ _ => recent_kind) _).subperm.trans
        plan.recent_ids
    · exact matching
  exact (SearchItem.observed_take _ _).subperm.trans
    ((SearchItem.observed_sort _ _).subperm.trans found)

/-- A response is a listing, or presents the head of a ranking without its repeats. -/
theorem respond_cases {plan : Plan} {settings : SearchSettings} {index : Option VectorIndex}
    {response : SearchResponse} (answered : plan.respond settings index = .ok response) :
    response.results = plan.shown ∨
      ∃ ranking : List (Scored Float), (ranking.map (·.key)).Nodup ∧
        response.results = SearchItem.sort plan.request.order
          (((withoutRepeats settings.dedupThreshold (plan.hits ranking)).take plan.limit).map
            plan.present) := by
  rcases respond_ok_iff.mp answered with ⟨items, searched, rfl⟩ | ⟨-, -, rfl⟩
  · obtain ⟨query, held, candidates, -, -, -, -, ran⟩ := semantic?_some_iff.mp searched
    cases asked : held.query query candidates plan.vectorFilter with
    | error failure =>
        rw [semantic_refused asked] at ran
        cases ran
    | ok near =>
        rw [semantic_answered asked] at ran
        cases ran
        exact Or.inr ⟨_, Ranking.fuse_nodup _, rfl⟩
  · exact Or.inl rfl

theorem Names.live {plan : Plan} {scored : Scored Float} {hit : Hit}
    (names : plan.Names scored hit) (format : Format)
    (kind : (hit.item format).kind = .observation) :
    (hit.item format).id ∈ plan.store.ids .observation := by
  rw [Store.ids_observation]
  cases names with
  | observation o score found superseded everywhere =>
      exact List.mem_map_of_mem (Table.find?_present found).1
  | summary | prompt => cases kind

theorem respond_observed {plan : Plan} {settings : SearchSettings} {index : Option VectorIndex}
    (room : 0 < plan.limit) (once : (plan.store.ids .observation).Nodup)
    {response : SearchResponse} (answered : plan.respond settings index = .ok response) :
    (SearchItem.observed response.results).Nodup ∧
      ∀ id ∈ SearchItem.observed response.results, id ∈ plan.store.ids .observation := by
  rcases respond_cases answered with listed | ⟨ranking, ranked, presented⟩
  · rw [listed]
    obtain ⟨inside, same, within⟩ := plan.shown_observed
    exact ⟨same.nodup_iff.mp (once.sublist within), plan.shown_observed.subset⟩
  · rw [presented]
    have presents : plan.Presents settings.dedupThreshold ranking _ :=
      Plan.presents ranked room
    have sorted := SearchItem.observed_sort plan.request.order
      (((withoutRepeats settings.dedupThreshold (plan.hits ranking)).take plan.limit).map
        plan.present)
    refine ⟨sorted.nodup_iff.mpr (SearchItem.observed_nodup (presents.distinct ranked)), ?_⟩
    intro id shown
    obtain ⟨item, member, kind, rfl⟩ := SearchItem.mem_observed.mp (sorted.mem_iff.mp shown)
    obtain ⟨entry, kept, rfl⟩ := List.mem_map.mp member
    exact (presents.named entry kept).live plan.request.format kind

end Search.Plan

def Observation.retrieved (now : Int) (o : Observation) : Observation :=
  { o with retrievalCount := o.retrievalCount + 1, lastRetrievedAt := some now }

def Store.retrieved (store : Store) (ids : List Int) (now : Int) : Store :=
  { store with observations :=
    store.observations.mapRows fun o => if o.id ∈ ids then o.retrieved now else o }

theorem Store.retrieved_nil (store : Store) (now : Int) : store.retrieved [] now = store := by
  simp [retrieved, Table.mapRows]

theorem Store.recordRetrieval_eq {store : Store} {ids : List Int} (once : ids.Nodup)
    (now : Int) : store.recordRetrieval ids now = store.retrieved ids now := by
  have rows : (fun o : Observation => if Row.id o ∈ ids then
        { o with retrievalCount := o.retrievalCount + ids.count o.id, lastRetrievedAt := some now }
      else o) = fun o => if o.id ∈ ids then o.retrieved now else o := by
    funext o
    by_cases shown : o.id ∈ ids
    · have named : Row.id o ∈ ids := shown
      simp only [if_pos shown, if_pos named, Observation.retrieved,
        List.count_eq_one_of_mem once shown]
    · have other : Row.id o ∉ ids := shown
      simp only [if_neg shown, if_neg other]
  simp only [recordRetrieval, Table.update, rows]
  rfl

theorem Store.recordRetrieval_unmarked (store : Store) (ids : List Int) (now : Int) :
    (store.recordRetrieval ids now).unmarked = store.unmarked := by
  have rows : Observation.unmarked ∘ (fun o : Observation => if Row.id o ∈ ids then
        { o with retrievalCount := o.retrievalCount + ids.count o.id, lastRetrievedAt := some now }
      else o) = Observation.unmarked := by
    funext o
    simp only [Function.comp_apply]
    split <;> rfl
  simp only [unmarked, recordRetrieval, Table.update, Table.mapRows, List.map_map, rows]

namespace Engine

theorem search_observed {engine : Engine} {request : SearchRequest} {now : Int}
    (once : (engine.store.ids .observation).Nodup) {response : SearchResponse}
    (answered : (engine.search request now).result = .ok response) :
    (SearchItem.observed response.results).Nodup ∧
      ∀ id ∈ SearchItem.observed response.results, id ∈ engine.store.ids .observation := by
  rw [search_result] at answered
  exact Search.Plan.respond_observed (engine.plan_limit_pos request) once answered

theorem search_refused {engine : Engine} {request : SearchRequest} {now : Int}
    {failure : Failure} (refused : (engine.search request now).result = .error failure) :
    (engine.search request now).engine = engine := by
  rw [search_result, plan] at refused
  simp only [search, Search.run, refused]

theorem search_engine {engine : Engine} {request : SearchRequest} {now : Int}
    {response : SearchResponse} (answered : (engine.search request now).result = .ok response) :
    let shown := SearchItem.observed response.results
    (engine.search request now).engine = { engine with
      store := if shown.isEmpty then engine.store else engine.store.recordRetrieval shown now } := by
  rw [search_result, plan] at answered
  simp only [search, Search.run, answered]
  rfl

theorem search_retrieves {engine : Engine} {request : SearchRequest} {now : Int}
    (once : (engine.store.ids .observation).Nodup) {response : SearchResponse}
    (answered : (engine.search request now).result = .ok response) :
    (engine.search request now).engine = { engine with
      store := engine.store.retrieved (SearchItem.observed response.results) now } := by
  have distinct := (search_observed once answered).1
  rw [search_engine answered]
  split
  · rename_i bare
    rw [List.isEmpty_iff.mp bare, Store.retrieved_nil]
  · rw [Store.recordRetrieval_eq distinct now]

/-- For a search, the one engine is as good as the other. -/
structure ReadsAs (engine other : Engine) : Prop where
  store : other.store.unmarked = engine.store.unmarked
  searching : other.searching = engine.searching
  index : other.index = engine.index

theorem search_readsAs (engine : Engine) (request : SearchRequest) (now : Int) :
    engine.ReadsAs (engine.search request now).engine := by
  cases ran : (engine.search request now).result with
  | error failure =>
      rw [search_refused ran]
      exact ⟨rfl, rfl, rfl⟩
  | ok response =>
      rw [search_engine ran]
      refine ⟨?_, rfl, rfl⟩
      dsimp only
      split
      · rfl
      · exact engine.store.recordRetrieval_unmarked _ now

theorem searches_readsAs (engine : Engine) (searches : List (SearchRequest × Int)) :
    engine.ReadsAs (engine.after (searches.map fun (request, now) => .search request now)) := by
  induction searches generalizing engine with
  | nil => exact ⟨rfl, rfl, rfl⟩
  | cons first rest ih =>
      have one := engine.search_readsAs first.1 first.2
      have others := ih (engine.search first.1 first.2).engine
      exact ⟨others.store.trans one.store, others.searching.trans one.searching,
        others.index.trans one.index⟩

theorem ReadsAs.response {engine other : Engine} (reads : engine.ReadsAs other)
    (request : SearchRequest) (now later : Int) :
    (other.search request later).result = (engine.search request now).result := by
  have plan : (other.plan request).unmarked = (engine.plan request).unmarked := by
    simp only [Engine.plan, Search.Plan.unmarked, reads.store, reads.searching]
  calc
    (other.search request later).result =
        (other.plan request).unmarked.respond other.searching other.index := by
      rw [search_result, Search.Plan.respond_unmarked]
    _ = (engine.plan request).unmarked.respond engine.searching engine.index := by
      rw [plan, reads.searching, reads.index]
    _ = (engine.search request now).result := by
      rw [search_result, Search.Plan.respond_unmarked]

/-- A search that fails leaves no trace. One that does not shows no observation twice, counts
each that it shows as retrieved once more and changes nothing else. So after any other
searches it has the same result. A preset is a request like any other. -/
theorem search_only_retrieves (engine : Engine) (request : SearchRequest) (now : Int)
    (once : (engine.store.ids .observation).Nodup) :
    let searched := engine.search request now
    (∀ response, searched.result = .ok response →
      let shown := SearchItem.observed response.results
      shown.Nodup ∧ (∀ id ∈ shown, id ∈ engine.store.ids .observation) ∧
        searched.engine = { engine with store := engine.store.retrieved shown now }) ∧
    (∀ failure, searched.result = .error failure → searched.engine = engine) ∧
    ∀ (searches : List (SearchRequest × Int)) (later : Int),
      ((engine.after (searches.map fun (request, now) => .search request now)).search
        request later).result = searched.result := by
  intro searched
  refine ⟨?_, fun _ => search_refused, ?_⟩
  · intro response answered shown
    obtain ⟨distinct, live⟩ := search_observed once answered
    exact ⟨distinct, live, search_retrieves once answered⟩
  · intro searches later
    exact (engine.searches_readsAs searches).response request now later

end Engine

def mixed : Engine :=
  let occasion : Occasion := { sessionKey := "session", project := "project", now := 1 }
  Engine.after {} [
    .store (.observation { content := { type := .change, title := some "roof" } } none) occasion,
    .store (.summary { request := some "mend the roof" } none) occasion,
    .store (.prompt 1 "is the roof done?") occasion]

theorem mixed_only_retrieves : ∃ response,
    (mixed.store.ids .observation).Nodup ∧ (mixed.search {} 9).result = .ok response ∧
    SearchItem.observed response.results = [1] ∧
    ((mixed.search {} 9).engine.store.observations.rows.map fun o =>
      (o.retrievalCount, o.lastRetrievedAt)) = [(1, some 9)] ∧
    ∀ (searches : List (SearchRequest × Int)) (later : Int),
      ((mixed.after (searches.map fun (request, now) => .search request now)).search
        {} later).result = .ok response := by
  have once : (mixed.store.ids .observation).Nodup := by decide +kernel
  have unasked : (mixed.plan {}).semantic? mixed.searching mixed.index = .ok none := by
    rw [Engine.plan]
    rfl
  have ran : (mixed.search {} 9).result = .ok ⟨(mixed.plan {}).shown, .structured⟩ := by
    rw [Engine.search_result]
    exact Search.Plan.respond_ok_iff.mpr (Or.inr ⟨unasked, by decide +kernel, rfl⟩)
  have shown : SearchItem.observed (mixed.plan {}).shown = [1] := by decide +kernel
  obtain ⟨retrieves, -, repeats⟩ := mixed.search_only_retrieves {} 9 once
  refine ⟨_, once, ran, shown, ?_, fun searches later => (repeats searches later).trans ran⟩
  rw [(retrieves _ ran).2.2]
  dsimp only
  rw [shown]
  decide +kernel

end Recall
